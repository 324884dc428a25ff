import Notation.Sign.Metadata

/-!
# `notation.Sign` and `notation.SignLocalContent`

`Sign` validates the expiry and the reference, resolves the artifact, adds the user
metadata, has the signer sign the resulting descriptor, computes the signature
manifest's annotations and pushes the signature with the descriptor as its subject.
`SignLocalContent` makes the same validations and steps on a descriptor it is given and
returns what `Sign` would push. The model of `Sign` also returns the calls it made to the
repository and the signer, in order. SHA-256 is a parameter.
-/

namespace Notation.Sign
open Go

/-- `time.Second`, in nanoseconds. -/
def second : Int := 1000000000

/-- `SignOptions`; `expiryDuration` is a `time.Duration` in nanoseconds. -/
structure SignOptions where
  artifactReference : String
  signatureMediaType : String
  expiryDuration : Int
  pluginConfig : StrMap
  signingAgent : String
deriving DecidableEq

/-- `RemoteSignOptions`. -/
structure RemoteSignOptions extends SignOptions where
  userMetadata : StrMap

/-- `LocalSignOptions`. -/
structure LocalSignOptions where
  signatureMediaType : String
  expiryDuration : Int
  pluginConfig : StrMap
  signingAgent : String
  userMetadata : StrMap

/-- `signature.SignerInfo`, with the certificate chain, leaf first. -/
structure SignerInfo where
  certificateChain : List Certificate
deriving DecidableEq

/-- A `Signer`; `pluginAnnotations` is what its `PluginAnnotations` returns when it also
implements `signerAnnotation`, and empty otherwise. -/
structure Signer where
  sign : Descriptor → SignOptions → Except Error (Bytes × SignerInfo)
  pluginAnnotations : StrMap

/-- A call `Sign` makes to a collaborator. -/
inductive Call where
  | resolve (reference : String)
  | sign (desc : Descriptor) (opts : SignOptions)
  | pushSignature (mediaType : String) (blob : Bytes) (subject : Descriptor) (annotations : StrMap)
deriving DecidableEq

/-- The call pushes a signature. -/
def Call.isPush : Call → Bool
  | .pushSignature .. => true
  | _ => false

/-- `annotationX509ChainThumbprint`. -/
def annotationX509ChainThumbprint : String := "io.cncf.notary.x509chain.thumbprint#S256"

/-- `json.Marshal` of a `[]string` whose elements need no escaping, as the hex
thumbprints do; the nil slice marshals as `null`. -/
def marshalStrings (l : List String) : String :=
  if l = [] then "null" else "[" ++ ",".intercalate (l.map fun s => "\"" ++ s ++ "\"") ++ "]"

/-- `generateAnnotations`: the plugin's annotations with the chain's thumbprints added.
`json.Marshal` of a `[]string` cannot fail, so neither can this. -/
def generateAnnotations (sha256 : Bytes → Bytes) (signerInfo : SignerInfo) (annotations : StrMap) :
    StrMap :=
  let thumbprints := signerInfo.certificateChain.map fun cert => hexEncode (sha256 cert.raw)
  annotations.insert annotationX509ChainThumbprint (marshalStrings thumbprints)

/-- The expiry checks both flows start with. -/
def expiryError (expiryDuration : Int) : Option String :=
  if expiryDuration < 0 then some "expiry duration cannot be a negative value"
  else if expiryDuration.tmod second ≠ 0 then some "expiry duration supports minimum granularity of seconds"
  else none

/-- `notation.Sign`, visiting the user metadata in the order `order`: the result and the
calls made. -/
def sign (parseReference : String → Except Error Reference) (sha256 : Bytes → Bytes)
    (signer : Signer) (repo : Option Repository) (remoteOpts : RemoteSignOptions)
    (order : Listing remoteOpts.userMetadata) : Except Error Descriptor × List Call :=
  match expiryError remoteOpts.expiryDuration with
  | some msg => (.error (.other msg), [])
  | none =>
    match parseReference remoteOpts.artifactReference with
    | .error e => (.error e, [])
    | .ok ref =>
      if ref.reference = "" then (.error (.other "reference is missing digest or tag"), [])
      else
        match repo with
        | none => (.error (.other "repo cannot be nil"), [])
        | some repo =>
          let calls := [Call.resolve remoteOpts.artifactReference]
          match repo.resolve remoteOpts.artifactReference with
          | .error e => (.error e, calls)
          | .ok targetDesc =>
            match addUserMetadataToDescriptor targetDesc remoteOpts.userMetadata order with
            | (_, some e) => (.error e, calls)
            | (targetDesc, none) =>
              let calls := calls ++ [.sign targetDesc remoteOpts.toSignOptions]
              match signer.sign targetDesc remoteOpts.toSignOptions with
              | .error e => (.error e, calls)
              | .ok (sig, signerInfo) =>
                let annotations := generateAnnotations sha256 signerInfo signer.pluginAnnotations
                let calls := calls ++
                  [.pushSignature remoteOpts.signatureMediaType sig targetDesc annotations]
                match repo.pushSignature remoteOpts.signatureMediaType sig targetDesc annotations with
                | .error e => (.error (.pushSignatureFailed e.error), calls)
                | .ok _ => (.ok targetDesc, calls)

/-- `notation.SignLocalContent`, visiting the user metadata in the order `order`: the
descriptor signed, the signature and the signature manifest's annotations. -/
def signLocalContent (sha256 : Bytes → Bytes) (artifactDescriptor : Descriptor) (signer : Signer)
    (localOpts : LocalSignOptions) (order : Listing localOpts.userMetadata) :
    Except Error (Descriptor × Bytes × StrMap) :=
  match expiryError localOpts.expiryDuration with
  | some msg => .error (.signLocalContent msg)
  | none =>
    match addUserMetadataToDescriptor artifactDescriptor localOpts.userMetadata order with
    | (_, some e) => .error (.signLocalContent e.error)
    | (targetDesc, none) =>
      let signOpts : SignOptions := ⟨"", localOpts.signatureMediaType, localOpts.expiryDuration,
        localOpts.pluginConfig, localOpts.signingAgent⟩
      match signer.sign targetDesc signOpts with
      | .error e => .error (.signLocalContent e.error)
      | .ok (sig, signerInfo) =>
        .ok (targetDesc, sig, generateAnnotations sha256 signerInfo signer.pluginAnnotations)

theorem expiryError_eq_none {expiryDuration : Int} :
    expiryError expiryDuration = none ↔ 0 ≤ expiryDuration ∧ expiryDuration.tmod second = 0 := by
  unfold expiryError
  split_ifs <;> simp_all

/-! ## What a push tells -/

section Push

variable (parseReference : String → Except Error Reference) (sha256 : Bytes → Bytes)
  (signer : Signer) (repo : Option Repository) (remoteOpts : RemoteSignOptions)
  (order : Listing remoteOpts.userMetadata)

/-- **A run of `Sign` that pushes, or succeeds,** passed every check, and its calls
were the resolve, the signing of the resolved descriptor with the metadata added, and
the push of that same descriptor with the annotations generated from the signer's
chain; it returns that descriptor when the push succeeds and `ErrorPushSignatureFailed`
when it fails. -/
theorem sign_of_push (h : (∃ c ∈ (sign parseReference sha256 signer repo remoteOpts order).2, c.isPush) ∨
      ∃ d, (sign parseReference sha256 signer repo remoteOpts order).1 = .ok d) :
    expiryError remoteOpts.expiryDuration = none ∧
    (∃ ref, parseReference remoteOpts.artifactReference = .ok ref ∧ ref.reference ≠ "") ∧
    ∃ repo' resolved sig signerInfo,
      repo = some repo' ∧ repo'.resolve remoteOpts.artifactReference = .ok resolved ∧
      (addUserMetadataToDescriptor resolved remoteOpts.userMetadata order).2 = none ∧
      signer.sign (withMetadata resolved remoteOpts.userMetadata) remoteOpts.toSignOptions =
        .ok (sig, signerInfo) ∧
      (sign parseReference sha256 signer repo remoteOpts order).2 =
        [.resolve remoteOpts.artifactReference,
          .sign (withMetadata resolved remoteOpts.userMetadata) remoteOpts.toSignOptions,
          .pushSignature remoteOpts.signatureMediaType sig (withMetadata resolved remoteOpts.userMetadata)
            (generateAnnotations sha256 signerInfo signer.pluginAnnotations)] ∧
      ((∃ r, repo'.pushSignature remoteOpts.signatureMediaType sig (withMetadata resolved remoteOpts.userMetadata)
          (generateAnnotations sha256 signerInfo signer.pluginAnnotations) = .ok r) ∧
        (sign parseReference sha256 signer repo remoteOpts order).1 =
          .ok (withMetadata resolved remoteOpts.userMetadata) ∨
        ∃ e, repo'.pushSignature remoteOpts.signatureMediaType sig (withMetadata resolved remoteOpts.userMetadata)
          (generateAnnotations sha256 signerInfo signer.pluginAnnotations) = .error e ∧
        (sign parseReference sha256 signer repo remoteOpts order).1 =
          .error (.pushSignatureFailed e.error)) := by
  rcases hexp : expiryError remoteOpts.expiryDuration with _ | msg
  swap
  · simp [sign, hexp] at h
  rcases hparse : parseReference remoteOpts.artifactReference with e | ref
  · simp [sign, hexp, hparse] at h
  by_cases href : ref.reference = ""
  · simp [sign, hexp, hparse, href] at h
  rcases repo with _ | repo'
  · simp [sign, hexp, hparse, href] at h
  rcases hres : repo'.resolve remoteOpts.artifactReference with e | resolved
  · simp [sign, hexp, hparse, href, hres, Call.isPush] at h
  rcases hadd : addUserMetadataToDescriptor resolved remoteOpts.userMetadata order with ⟨desc, _ | e⟩
  swap
  · simp [sign, hexp, hparse, href, hres, hadd, Call.isPush] at h
  have hdesc : desc = withMetadata resolved remoteOpts.userMetadata := by
    simpa [hadd] using (addUserMetadataToDescriptor_of_ok resolved order (by simp [hadd])).2
  subst hdesc
  rcases hsig : signer.sign (withMetadata resolved remoteOpts.userMetadata) remoteOpts.toSignOptions
    with e | ⟨sig, signerInfo⟩
  · simp [sign, hexp, hparse, href, hres, hadd, hsig, Call.isPush] at h
  refine ⟨rfl, ⟨ref, rfl, href⟩, repo', resolved, sig, signerInfo, rfl, hres, by simp [hadd], hsig, ?_⟩
  rcases hpush : repo'.pushSignature remoteOpts.signatureMediaType sig
      (withMetadata resolved remoteOpts.userMetadata)
      (generateAnnotations sha256 signerInfo signer.pluginAnnotations) with e | _ <;>
    simp [sign, hexp, hparse, href, hres, hadd, hsig, hpush]

/-- **`Sign` pushes at most once, and only past every check**: a push follows a valid
expiry, a reference with a tag or digest, a resolve, user metadata with no reserved or
present key and a successful signing; the descriptor signed, the subject pushed and the
descriptor returned are the resolved one with the metadata added, and the pushed
annotations are generated from the signer's chain; an error other than
`ErrorPushSignatureFailed` comes with no push. -/
theorem sign_push_spec :
    ((sign parseReference sha256 signer repo remoteOpts order).2.filter Call.isPush).length ≤ 1 ∧
    (∀ c ∈ (sign parseReference sha256 signer repo remoteOpts order).2, c.isPush →
      0 ≤ remoteOpts.expiryDuration ∧ remoteOpts.expiryDuration.tmod second = 0 ∧
      (∃ ref, parseReference remoteOpts.artifactReference = .ok ref ∧ ref.reference ≠ "") ∧
      ∃ repo' resolved sig signerInfo,
        repo = some repo' ∧ repo'.resolve remoteOpts.artifactReference = .ok resolved ∧
        (∀ k ∈ remoteOpts.userMetadata, ¬Reserved k ∧ k ∉ resolved.annotations.getD ∅) ∧
        signer.sign (withMetadata resolved remoteOpts.userMetadata) remoteOpts.toSignOptions =
          .ok (sig, signerInfo) ∧
        (sign parseReference sha256 signer repo remoteOpts order).2 =
          [.resolve remoteOpts.artifactReference,
            .sign (withMetadata resolved remoteOpts.userMetadata) remoteOpts.toSignOptions, c] ∧
        c = .pushSignature remoteOpts.signatureMediaType sig
          (withMetadata resolved remoteOpts.userMetadata)
          (generateAnnotations sha256 signerInfo signer.pluginAnnotations) ∧
        ∀ d, (sign parseReference sha256 signer repo remoteOpts order).1 = .ok d →
          d = withMetadata resolved remoteOpts.userMetadata) ∧
    ∀ e, (sign parseReference sha256 signer repo remoteOpts order).1 = .error e →
      (∀ msg, e ≠ .pushSignatureFailed msg) →
      ∀ c ∈ (sign parseReference sha256 signer repo remoteOpts order).2, c.isPush = false := by
  refine ⟨?_, fun c hc hp => ?_, fun e he hne c hc => ?_⟩
  · by_cases h : ∃ c ∈ (sign parseReference sha256 signer repo remoteOpts order).2, c.isPush
    · obtain ⟨-, -, _, _, _, _, -, -, -, -, htrace, -⟩ := sign_of_push parseReference sha256 signer repo remoteOpts order (.inl h)
      simp [htrace, Call.isPush]
    · simp only [List.filter_eq_nil_iff.2 (by simpa using h), List.length_nil, Nat.zero_le]
  · obtain ⟨hexp, href, repo', resolved, sig, signerInfo, hrepo, hres, hadd, hsig, htrace, hresult⟩ :=
      sign_of_push parseReference sha256 signer repo remoteOpts order (.inl ⟨c, hc, hp⟩)
    subst hrepo
    have hc' : c = .pushSignature remoteOpts.signatureMediaType sig
        (withMetadata resolved remoteOpts.userMetadata)
        (generateAnnotations sha256 signerInfo signer.pluginAnnotations) := by
      simp only [htrace, List.mem_cons, List.mem_singleton, List.not_mem_nil, or_false] at hc
      rcases hc with rfl | rfl | rfl <;> first | rfl | simp [Call.isPush] at hp
    have hkeys : ∀ k ∈ remoteOpts.userMetadata, ¬Reserved k ∧ k ∉ resolved.annotations.getD ∅ :=
      fun k hk => not_or.1 fun hbad => by
        simpa [hadd] using (addUserMetadataToDescriptor_error_isSome resolved order).2 ⟨k, hk, hbad⟩
    refine ⟨(expiryError_eq_none.1 hexp).1, (expiryError_eq_none.1 hexp).2, href, repo', resolved, sig,
      signerInfo, rfl, hres, hkeys, hsig, hc' ▸ htrace, hc', fun d hd => ?_⟩
    rcases hresult with ⟨-, h⟩ | ⟨_, -, h⟩ <;> rw [hd] at h
    · exact Except.ok.inj h
    · cases h
  · by_contra hp
    obtain ⟨-, -, _, _, _, _, rfl, -, -, -, -, hresult⟩ :=
      sign_of_push parseReference sha256 signer repo remoteOpts order (.inl ⟨c, hc, by simpa using hp⟩)
    rcases hresult with ⟨-, h⟩ | ⟨e', -, h⟩ <;> rw [he] at h
    · cases h
    · exact hne e'.error (Except.error.inj h)

end Push

/-! ## Local and remote signing agree -/

/-- The options of a `Sign` call that matches a `SignLocalContent` call: the same
options, with the reference `artifactReference`. -/
def LocalSignOptions.toRemote (localOpts : LocalSignOptions) (artifactReference : String) :
    RemoteSignOptions :=
  ⟨⟨artifactReference, localOpts.signatureMediaType, localOpts.expiryDuration,
    localOpts.pluginConfig, localOpts.signingAgent⟩, localOpts.userMetadata⟩

/-- **`SignLocalContent` is `Sign` without the registry**: for a signer that ignores the
artifact reference, and a repository that resolves a reference with a tag or digest to
the descriptor and accepts the push, `SignLocalContent` succeeds exactly when `Sign` does,
in any two orders of the metadata, and what it returns is what `Sign` pushes. -/
theorem signLocalContent_eq_sign (parseReference : String → Except Error Reference)
    (sha256 : Bytes → Bytes) (signer : Signer) (repo : Repository) (artifactDescriptor : Descriptor)
    (localOpts : LocalSignOptions) (artifactReference : String) (ref : Reference)
    (order order' : Listing localOpts.userMetadata)
    (hsigner : ∀ d o r, signer.sign d { o with artifactReference := r } = signer.sign d o)
    (hparse : parseReference artifactReference = .ok ref) (href : ref.reference ≠ "")
    (hresolve : repo.resolve artifactReference = .ok artifactDescriptor)
    (hpush : ∀ mediaType sig subject annotations,
      ∃ r, repo.pushSignature mediaType sig subject annotations = .ok r) :
    ((∃ t, signLocalContent sha256 artifactDescriptor signer localOpts order = .ok t) ↔
      ∃ d, (sign parseReference sha256 signer (some repo) (localOpts.toRemote artifactReference)
        order').1 = .ok d) ∧
    ∀ t, signLocalContent sha256 artifactDescriptor signer localOpts order = .ok t →
      Call.pushSignature localOpts.signatureMediaType t.2.1 t.1 t.2.2 ∈
        (sign parseReference sha256 signer (some repo) (localOpts.toRemote artifactReference) order').2 := by
  have horder := addUserMetadataToDescriptor_isSome_order artifactDescriptor order order'
  rcases hexp : expiryError localOpts.expiryDuration with _ | msg
  swap
  · simp [signLocalContent, sign, LocalSignOptions.toRemote, hexp]
  rcases hadd : addUserMetadataToDescriptor artifactDescriptor localOpts.userMetadata order
    with ⟨desc, _ | e⟩ <;>
  rcases hadd' : addUserMetadataToDescriptor artifactDescriptor localOpts.userMetadata order'
    with ⟨desc', _ | e'⟩ <;> simp only [hadd, hadd', Option.isSome_none, Option.isSome_some, Bool.true_eq_false,
      Bool.false_eq_true] at horder
  · -- the metadata is accepted in both orders, and gives the same descriptor
    obtain ⟨rfl, -⟩ := Prod.mk.inj (hadd.symm.trans
      (addUserMetadataToDescriptor_eq_of_ok artifactDescriptor order (by simp [hadd])))
    obtain ⟨rfl, -⟩ := Prod.mk.inj (hadd'.symm.trans
      (addUserMetadataToDescriptor_eq_of_ok artifactDescriptor order' (by simp [hadd'])))
    rcases hsig : signer.sign (withMetadata artifactDescriptor localOpts.userMetadata)
        ⟨"", localOpts.signatureMediaType, localOpts.expiryDuration,
          localOpts.pluginConfig, localOpts.signingAgent⟩ with e | ⟨sig, signerInfo⟩ <;>
      have hsig' := (hsigner _ _ artifactReference).trans hsig
    · simp [signLocalContent, sign, LocalSignOptions.toRemote, hexp, hparse, href, hresolve, hadd,
        hadd', hsig, hsig']
    · obtain ⟨r, hr⟩ := hpush localOpts.signatureMediaType sig
        (withMetadata artifactDescriptor localOpts.userMetadata)
        (generateAnnotations sha256 signerInfo signer.pluginAnnotations)
      simp [signLocalContent, sign, LocalSignOptions.toRemote, hexp, hparse, href, hresolve, hadd,
        hadd', hsig, hsig', hr]
  · -- the metadata is rejected in both orders
    simp [signLocalContent, sign, LocalSignOptions.toRemote, hexp, hparse, href, hresolve, hadd, hadd']

/-- A signer that signs everything as the byte `1`, with an empty chain. -/
def constantSigner : Signer := ⟨fun _ _ => .ok ([1], ⟨[]⟩), ∅⟩

/-- A registry that resolves every reference to `emptyAnnotated` and accepts every push. -/
def acceptingRepo : Repository where
  isRemote := true
  resolve _ := .ok emptyAnnotated
  signaturePages _ := []
  fetchSignatureBlob d := .ok ([], d)
  pushSignature _ _ subject _ := .ok (subject, subject)

/-- Local options with the metadata `a=1`. -/
def plainLocalOpts : LocalSignOptions := ⟨"application/jose+json", 0, ∅, "notation-go", plain⟩

theorem signLocalContent_eq_sign_sample :
    (fun _ => .ok ⟨"v1"⟩ : String → Except Error Reference) "registry.io/foo:v1" =
        .ok ⟨"v1"⟩ ∧
      acceptingRepo.resolve "registry.io/foo:v1" = .ok emptyAnnotated ∧
      ((∃ t, signLocalContent id emptyAnnotated constantSigner plainLocalOpts plainMetadata = .ok t) ↔
        ∃ d, (sign (fun _ => .ok ⟨"v1"⟩) id constantSigner (some acceptingRepo)
          (plainLocalOpts.toRemote "registry.io/foo:v1") plainMetadata).1 = .ok d) :=
  ⟨rfl, rfl, (signLocalContent_eq_sign (fun _ => .ok ⟨"v1"⟩) id constantSigner acceptingRepo
    emptyAnnotated plainLocalOpts "registry.io/foo:v1" ⟨"v1"⟩ plainMetadata plainMetadata
    (fun _ _ _ => rfl) rfl (by decide) rfl (fun _ _ _ _ => ⟨_, rfl⟩)).1⟩

end Notation.Sign
