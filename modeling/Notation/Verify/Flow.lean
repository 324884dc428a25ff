import Notation.Verify.Spec

/-!
# `notation.Verify` and `notation.VerifyLocalContent`

Each function checks its inputs, asks a skip-capable verifier whether to skip,
resolves the artifact, and then runs the signature loop of `Notation.Verify.Loop` with
its own texts. The checks come in a different order in the two functions: `Verify`
consults `SkipVerify` before it validates `MaxSignatureAttempts`, `VerifyLocalContent`
after. `Preamble` is where the checks leave a call; the model returns the result, the
calls the loop made and the pages it requested.
-/

namespace Notation.Verify
open Go

/-- `RemoteVerifyOptions`. -/
structure RemoteVerifyOptions where
  artifactReference : String
  pluginConfig : StrMap
  maxSignatureAttempts : Int
  userMetadata : StrMap

/-- `LocalVerifyOptions`. -/
structure LocalVerifyOptions where
  layoutReference : String
  pluginConfig : StrMap
  maxSignatureAttempts : Int
  userMetadata : StrMap
  targetAtLocal : Bool
  trustPolicyScope : String

/-- Where the checks before the signature loop leave a call: returned with a result, or
resolved to the artifact's descriptor, with the options for `verifier.Verify`. -/
inductive Preamble where
  | returned (r : Result)
  | resolved (desc : Descriptor) (opts : VerifyOptions)

/-- A failure before the loop: the zero descriptor, no outcome, the error. -/
def failWith (e : Error) : Preamble := .returned ⟨.zero, [], some e⟩

/-- The `skipVerifier` check, then `next`. -/
def checkSkip (verifier : Verifier) (opts : VerifyOptions) (next : Preamble) : Preamble :=
  match verifier.skipVerify with
  | none => next
  | some skipVerify =>
    match skipVerify opts with
    | .error e => failWith e
    | .ok (true, level) => .returned ⟨.zero, [some ⟨level, none⟩], none⟩
    | .ok (false, _) => next

/-- The `MaxSignatureAttempts` check. -/
def attemptsError (maxSignatureAttempts : Int) : Error :=
  .signatureRetrievalFailed
    s!"verifyOptions.MaxSignatureAttempts expects a positive number, got {maxSignatureAttempts}"

/-- `Verify` before the loop. -/
def verifyPreamble (parseReference : String → Except Error Reference) (verifier : Verifier)
    (repo : Repository) (remoteOpts : RemoteVerifyOptions) : Preamble :=
  if !repo.isRemote then failWith (.other "failed to verify: repo must be remote repository")
  else
    let opts : VerifyOptions :=
      ⟨remoteOpts.artifactReference, "", remoteOpts.pluginConfig, remoteOpts.userMetadata, false, ""⟩
    checkSkip verifier opts <|
      if remoteOpts.maxSignatureAttempts ≤ 0 then failWith (attemptsError remoteOpts.maxSignatureAttempts)
      else
        match parseReference remoteOpts.artifactReference with
        | .error e => failWith (.signatureRetrievalFailed e.error)
        | .ok ref =>
          if ref.reference = "" then failWith (.signatureRetrievalFailed "reference is missing digest or tag")
          else
            match repo.resolve remoteOpts.artifactReference with
            | .error e => failWith (.signatureRetrievalFailed e.error)
            | .ok artifactDescriptor => .resolved artifactDescriptor opts

/-- `Verify`'s loop, with its texts. -/
def remoteLoop (verifier : Verifier) (repo : Repository) (remoteOpts : RemoteVerifyOptions)
    (artifactDescriptor : Descriptor) (opts : VerifyOptions) : Loop where
  repo := repo
  verifier := verifier
  artifactDescriptor := artifactDescriptor
  opts := opts
  maxSignatureAttempts := remoteOpts.maxSignatureAttempts
  fetchFailed d e := "unable to retrieve digital signature with digest " ++ goQuote d.digest ++
    " associated with " ++ goQuote remoteOpts.artifactReference ++
    " from the registry, error : " ++ e.error
  noSignature := "no signature is associated with " ++ goQuote remoteOpts.artifactReference ++
    ", make sure the image was signed successfully"

/-- `notation.Verify`: the result, the loop's calls and the pages it requested. -/
def verify (parseReference : String → Except Error Reference) (verifier : Verifier)
    (repo : Repository) (remoteOpts : RemoteVerifyOptions) : Result × List Call × Nat :=
  match verifyPreamble parseReference verifier repo remoteOpts with
  | .returned r => (r, [], 0)
  | .resolved artifactDescriptor opts =>
    (remoteLoop verifier repo remoteOpts artifactDescriptor opts).verifySignatures

/-- `VerifyLocalContent` before the loop. -/
def verifyLocalPreamble (verifier : Verifier) (repo : Repository)
    (localVerifyOpts : LocalVerifyOptions) : Preamble :=
  if !localVerifyOpts.targetAtLocal then
    failWith (.other "failed to verify local content: localVerifyOpts.TargetAtLocal is false")
  else if localVerifyOpts.maxSignatureAttempts ≤ 0 then
    failWith (attemptsError localVerifyOpts.maxSignatureAttempts)
  else if repo.isRemote then
    failWith (.other "failed to verify local content: repo cannot be remote repository")
  else
    match repo.resolve localVerifyOpts.layoutReference with
    | .error e => failWith e
    | .ok targetDesc =>
      let opts : VerifyOptions := ⟨"", "", localVerifyOpts.pluginConfig, localVerifyOpts.userMetadata,
        localVerifyOpts.targetAtLocal, localVerifyOpts.trustPolicyScope⟩
      checkSkip verifier opts (.resolved targetDesc opts)

/-- `VerifyLocalContent`'s loop, with its texts. -/
def localLoop (verifier : Verifier) (repo : Repository) (localVerifyOpts : LocalVerifyOptions)
    (targetDesc : Descriptor) (opts : VerifyOptions) : Loop where
  repo := repo
  verifier := verifier
  artifactDescriptor := targetDesc
  opts := opts
  maxSignatureAttempts := localVerifyOpts.maxSignatureAttempts
  fetchFailed d e := "unable to retrieve digital signature with digest " ++ goQuote d.digest ++
    " associated with " ++ targetDesc.digest ++ " from the OCI layout folder, error : " ++ e.error
  noSignature := "no signature is associated with " ++ targetDesc.digest ++
    ", make sure the image was signed successfully"

/-- `notation.VerifyLocalContent`: the result, the loop's calls and the pages it
requested. -/
def verifyLocalContent (verifier : Verifier) (repo : Repository)
    (localVerifyOpts : LocalVerifyOptions) : Result × List Call × Nat :=
  match verifyLocalPreamble verifier repo localVerifyOpts with
  | .returned r => (r, [], 0)
  | .resolved targetDesc opts =>
    (localLoop verifier repo localVerifyOpts targetDesc opts).verifySignatures

/-! ## A registry to run them on -/

/-- The artifact the sample registry resolves every reference to. -/
def sampleSubject : Descriptor := ⟨"application/vnd.oci.image.manifest.v1+json", "sha256:aa", 7, none⟩

/-- A registry serving one page with one signature manifest, whose blob it fetches as
empty with the manifest's own descriptor. -/
def sampleRepo (remote : Bool) : Repository where
  isRemote := remote
  resolve _ := .ok sampleSubject
  signaturePages _ := [[⟨"application/vnd.oci.image.manifest.v1+json", "sha256:bb", 9, none⟩]]
  fetchSignatureBlob d := .ok ([], d)
  pushSignature _ _ _ _ := .error (.other "push refused")

/-- A verifier that accepts every signature, with `SkipVerify` when given one. -/
def acceptingVerifier (skipVerify : Option (VerifyOptions → Except Error (Bool × Option VerificationLevel))) :
    Verifier := ⟨fun _ _ _ => (none, none), skipVerify⟩

/-- `ParseReference` reading every reference as the tag `v1`. -/
def tagReference : String → Except Error Reference := fun _ => .ok ⟨"v1"⟩

/-- Remote options with bound `m`. -/
def sampleRemoteOpts (m : Int) : RemoteVerifyOptions := ⟨"registry.io/foo:v1", ∅, m, ∅⟩

/-- Local options with bound `m`. -/
def sampleLocalOpts (m : Int) : LocalVerifyOptions := ⟨"v1", ∅, m, ∅, true, "registry.io/foo"⟩

/-! ## Past the checks -/

/-- The skip check goes on to `next`, fails, or returns the level a skipping verifier
gives. -/
theorem checkSkip_cases (verifier : Verifier) (opts : VerifyOptions) (next : Preamble) :
    checkSkip verifier opts next = next ∨ (∃ e, checkSkip verifier opts next = failWith e) ∨
      ∃ skipVerify level, verifier.skipVerify = some skipVerify ∧ skipVerify opts = .ok (true, level) ∧
        checkSkip verifier opts next = .returned ⟨.zero, [some ⟨level, none⟩], none⟩ := by
  unfold checkSkip
  split
  · exact .inl rfl
  · split
    · exact .inr (.inl ⟨_, rfl⟩)
    · exact .inr (.inr ⟨_, _, ‹_›, ‹_›, rfl⟩)
    · exact .inl rfl

theorem checkSkip_resolved {verifier : Verifier} {opts : VerifyOptions} {next : Preamble}
    {desc : Descriptor} {opts' : VerifyOptions} (h : checkSkip verifier opts next = .resolved desc opts') :
    next = .resolved desc opts' := by
  rcases checkSkip_cases verifier opts next with h' | ⟨e, h'⟩ | ⟨_, _, _, _, h'⟩ <;> rw [h'] at h
  · exact h
  · cases h
  · cases h

theorem verifyPreamble_resolved {parseReference : String → Except Error Reference}
    {verifier : Verifier} {repo : Repository} {remoteOpts : RemoteVerifyOptions}
    {artifactDescriptor : Descriptor} {opts : VerifyOptions}
    (h : verifyPreamble parseReference verifier repo remoteOpts = .resolved artifactDescriptor opts) :
    0 < remoteOpts.maxSignatureAttempts ∧
      verify parseReference verifier repo remoteOpts =
        (remoteLoop verifier repo remoteOpts artifactDescriptor opts).verifySignatures := by
  refine ⟨?_, by rw [verify, h]⟩
  unfold verifyPreamble at h
  split at h
  · cases h
  · have h' := checkSkip_resolved h
    split at h'
    · cases h'
    · omega

theorem verifyLocalPreamble_resolved {verifier : Verifier} {repo : Repository}
    {localVerifyOpts : LocalVerifyOptions} {targetDesc : Descriptor} {opts : VerifyOptions}
    (h : verifyLocalPreamble verifier repo localVerifyOpts = .resolved targetDesc opts) :
    0 < localVerifyOpts.maxSignatureAttempts ∧
      verifyLocalContent verifier repo localVerifyOpts =
        (localLoop verifier repo localVerifyOpts targetDesc opts).verifySignatures := by
  refine ⟨?_, by rw [verifyLocalContent, h]⟩
  unfold verifyLocalPreamble at h
  split at h
  · cases h
  · split at h
    · cases h
    · omega

/-- **What `Verify` and `VerifyLocalContent` return** once the reference has resolved:
the spec over the signatures `ListSignatures` delivers, which sees only their order and
not the page boundaries. The hypothesis that the checks end in `.resolved` covers every
check before the loop, the skip check included: `Verify` asks `SkipVerify` before it
resolves and `VerifyLocalContent` after, and in both a skip answer or a `SkipVerify`
error returns before the loop, so `.resolved` also rules out a skip answer. -/
theorem verify_eq_verifySpec :
    (∀ parseReference verifier repo remoteOpts artifactDescriptor opts,
      verifyPreamble parseReference verifier repo remoteOpts = .resolved artifactDescriptor opts →
      (verify parseReference verifier repo remoteOpts).1 =
        (remoteLoop verifier repo remoteOpts artifactDescriptor opts).verifySpec
          (repo.signaturePages artifactDescriptor).flatten) ∧
    (∀ verifier repo localVerifyOpts targetDesc opts,
      verifyLocalPreamble verifier repo localVerifyOpts = .resolved targetDesc opts →
      (verifyLocalContent verifier repo localVerifyOpts).1 =
        (localLoop verifier repo localVerifyOpts targetDesc opts).verifySpec
          (repo.signaturePages targetDesc).flatten) := by
  constructor
  · intro _ _ _ _ _ _ h
    obtain ⟨hm, hv⟩ := verifyPreamble_resolved h
    rw [hv]
    exact Loop.verifySignatures_result hm
  · intro _ _ _ _ _ h
    obtain ⟨hm, hv⟩ := verifyLocalPreamble_resolved h
    rw [hv]
    exact Loop.verifySignatures_result hm

theorem verify_eq_verifySpec_sample :
    verifyPreamble tagReference (acceptingVerifier none) (sampleRepo true) (sampleRemoteOpts 1) =
        .resolved sampleSubject ⟨"registry.io/foo:v1", "", ∅, ∅, false, ""⟩ ∧
      (verify tagReference (acceptingVerifier none) (sampleRepo true) (sampleRemoteOpts 1)).1 =
        (remoteLoop (acceptingVerifier none) (sampleRepo true) (sampleRemoteOpts 1) sampleSubject
          ⟨"registry.io/foo:v1", "", ∅, ∅, false, ""⟩).verifySpec
            ((sampleRepo true).signaturePages sampleSubject).flatten ∧
      verifyLocalPreamble (acceptingVerifier none) (sampleRepo false) (sampleLocalOpts 1) =
        .resolved sampleSubject ⟨"", "", ∅, ∅, true, "registry.io/foo"⟩ ∧
      (verifyLocalContent (acceptingVerifier none) (sampleRepo false) (sampleLocalOpts 1)).1 =
        (localLoop (acceptingVerifier none) (sampleRepo false) (sampleLocalOpts 1) sampleSubject
          ⟨"", "", ∅, ∅, true, "registry.io/foo"⟩).verifySpec
            ((sampleRepo false).signaturePages sampleSubject).flatten :=
  ⟨rfl, verify_eq_verifySpec.1 _ _ _ _ _ _ rfl, rfl, verify_eq_verifySpec.2 _ _ _ _ _ rfl⟩

/-- **The calls and the pages**: once the reference has resolved, `Verify` and
`VerifyLocalContent` fetch exactly the signatures up to the last one processed, in
delivery order, each verified on its own blob when its fetch succeeds, and request the
pages up to that signature's when the callback ends the listing. -/
theorem verify_calls_pages :
    (∀ parseReference verifier repo remoteOpts artifactDescriptor opts,
      verifyPreamble parseReference verifier repo remoteOpts = .resolved artifactDescriptor opts →
      let L := remoteLoop verifier repo remoteOpts artifactDescriptor opts
      let pages := repo.signaturePages artifactDescriptor
      (verify parseReference verifier repo remoteOpts).2.1 =
          (pages.flatten.take (L.processedFrom 0 pages.flatten)).flatMap L.callsOf ∧
        (verify parseReference verifier repo remoteOpts).2.2 =
          if L.stoppedFrom 0 pages.flatten then
            Loop.pagesThrough pages (L.processedFrom 0 pages.flatten)
          else pages.length) ∧
    (∀ verifier repo localVerifyOpts targetDesc opts,
      verifyLocalPreamble verifier repo localVerifyOpts = .resolved targetDesc opts →
      let L := localLoop verifier repo localVerifyOpts targetDesc opts
      let pages := repo.signaturePages targetDesc
      (verifyLocalContent verifier repo localVerifyOpts).2.1 =
          (pages.flatten.take (L.processedFrom 0 pages.flatten)).flatMap L.callsOf ∧
        (verifyLocalContent verifier repo localVerifyOpts).2.2 =
          if L.stoppedFrom 0 pages.flatten then
            Loop.pagesThrough pages (L.processedFrom 0 pages.flatten)
          else pages.length) := by
  constructor
  · intro _ _ _ _ _ _ h
    obtain ⟨hm, hv⟩ := verifyPreamble_resolved h
    rw [hv]
    exact ⟨Loop.verifySignatures_calls hm, Loop.verifySignatures_pages hm⟩
  · intro _ _ _ _ _ h
    obtain ⟨hm, hv⟩ := verifyLocalPreamble_resolved h
    rw [hv]
    exact ⟨Loop.verifySignatures_calls hm, Loop.verifySignatures_pages hm⟩

theorem verify_calls_pages_sample :
    verifyPreamble tagReference (acceptingVerifier none) (sampleRepo true) (sampleRemoteOpts 1) =
        .resolved sampleSubject ⟨"registry.io/foo:v1", "", ∅, ∅, false, ""⟩ ∧
      (verify tagReference (acceptingVerifier none) (sampleRepo true) (sampleRemoteOpts 1)).2.2 = 1 ∧
      verifyLocalPreamble (acceptingVerifier none) (sampleRepo false) (sampleLocalOpts 1) =
        .resolved sampleSubject ⟨"", "", ∅, ∅, true, "registry.io/foo"⟩ ∧
      (verifyLocalContent (acceptingVerifier none) (sampleRepo false) (sampleLocalOpts 1)).2.2 = 1 :=
  ⟨rfl, (verify_calls_pages.1 tagReference (acceptingVerifier none) (sampleRepo true)
      (sampleRemoteOpts 1) sampleSubject _ rfl).2.trans rfl,
    rfl, (verify_calls_pages.2 (acceptingVerifier none) (sampleRepo false) (sampleLocalOpts 1)
      sampleSubject _ rfl).2.trans rfl⟩

/-! ## A bound that is not positive -/

/-- A verifier whose `SkipVerify` says to skip, at level `skip`. -/
def skippingVerifier : Verifier := acceptingVerifier (some fun _ => .ok (true, some ⟨"skip"⟩))

/-- With `MaxSignatureAttempts = 0`, `Verify` asks a skip-capable verifier first and
returns its level as an outcome, with no error. -/
theorem verify_skip_before_attempts_check :
    verify tagReference skippingVerifier (sampleRepo true) (sampleRemoteOpts 0) =
      (⟨.zero, [some ⟨some ⟨"skip"⟩, none⟩], none⟩, [], 0) := rfl

end Notation.Verify
