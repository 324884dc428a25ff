import Notation.Verify.Flow

/-!
# What `Verify` and `VerifyLocalContent` guarantee

Two properties of the flows over every input, read off the loop's spec:

* **Fail closed** (`verify_fail_closed`): a flow returns no error only when the
  verifier's `SkipVerify` said to skip, or when `verifier.Verify` returned no error on
  a blob the repository fetched for one of the first `MaxSignatureAttempts` signature
  manifests of the artifact the reference resolved to; it then returns that artifact
  with that one outcome. Every failure comes with no outcome and the zero descriptor.
* **Bounded work** (`verify_fetches_bounded`): a flow fetches at most
  `MaxSignatureAttempts` signature manifests, those delivered first, in delivery
  order, and hands the verifier at most one blob per fetch.

Both rest on `specFrom_cases` and on the calls lemma of `Notation.Verify.Spec`; the
checks before the loop are `verifyPreamble_cases` and `verifyLocalPreamble_cases`.
-/

namespace Notation.Verify
open Go

/-- The signature manifest a call fetches, if it is a fetch. -/
def Call.fetched : Call → Option Descriptor
  | .fetchSignatureBlob d => some d
  | .verify .. => none

/-- The call hands a blob to the verifier. -/
def Call.isVerify : Call → Bool
  | .verify .. => true
  | .fetchSignatureBlob _ => false

/-- The options `Verify` passes to `SkipVerify` (with no media type) and to
`verifier.Verify` (with the media type of the blob fetched). -/
def RemoteVerifyOptions.verifyOptions (remoteOpts : RemoteVerifyOptions) (signatureMediaType : String) :
    VerifyOptions :=
  ⟨remoteOpts.artifactReference, signatureMediaType, remoteOpts.pluginConfig, remoteOpts.userMetadata,
    false, ""⟩

/-- The options `VerifyLocalContent` passes to `SkipVerify` and `verifier.Verify`. -/
def LocalVerifyOptions.verifyOptions (localVerifyOpts : LocalVerifyOptions) (signatureMediaType : String) :
    VerifyOptions :=
  ⟨"", signatureMediaType, localVerifyOpts.pluginConfig, localVerifyOpts.userMetadata,
    localVerifyOpts.targetAtLocal, localVerifyOpts.trustPolicyScope⟩

namespace Loop

variable {L : Loop}

theorem verdict_eq_accepted {d : Descriptor} {blob : Bytes} {sigDesc : Descriptor}
    {outcome : Option VerificationOutcome} :
    L.verdict d = .accepted blob sigDesc outcome ↔
      L.repo.fetchSignatureBlob d = .ok (blob, sigDesc) ∧
        L.verifier.verify L.artifactDescriptor blob (L.optsFor sigDesc.mediaType) = (outcome, none) := by
  constructor
  · intro h
    unfold verdict at h
    rcases hf : L.repo.fetchSignatureBlob d with e | ⟨b, sd⟩ <;> simp only [hf] at h
    · cases h
    rcases hv : L.verifier.verify L.artifactDescriptor b (L.optsFor sd.mediaType) with ⟨_ | o, _ | e⟩ <;>
      simp only [hv, Verdict.accepted.injEq, reduceCtorEq] at h
    all_goals obtain ⟨rfl, rfl, rfl⟩ := h; exact ⟨rfl, hv⟩
  · rintro ⟨hf, hv⟩
    simp [verdict, hf, hv]

/-- **The spec's two kinds of result**: a failure with no outcome and the zero
descriptor, or the artifact with the outcome of a signature within the bound that the
verifier accepted. -/
theorem specFrom_cases (n : Nat) (failedErr : Error) (sigs : List Descriptor) :
    ((L.specFrom n failedErr sigs).error.isSome ∧ (L.specFrom n failedErr sigs).outcomes = [] ∧
        (L.specFrom n failedErr sigs).descriptor = .zero) ∨
      ∃ d ∈ sigs.take (L.budget n), ∃ blob sigDesc outcome,
        L.verdict d = .accepted blob sigDesc outcome ∧
        L.specFrom n failedErr sigs = ⟨L.artifactDescriptor, [outcome], none⟩ := by
  unfold specFrom
  rcases hs : (sigs.take (L.budget n)).findSome? L.stopResult with _ | r
  · -- no signature within the bound stops the loop
    left
    split_ifs <;> simp
  · -- the first signature that does
    obtain ⟨d, hd, hr⟩ := List.exists_of_findSome?_eq_some hs
    unfold stopResult at hr
    rcases hv : L.verdict d with e | ⟨_, _, e⟩ | ⟨_, _, _⟩ | ⟨blob, sigDesc, outcome⟩ <;>
      simp only [hv, Option.some.injEq, reduceCtorEq] at hr <;> subst hr
    · exact .inl ⟨rfl, rfl, rfl⟩
    · exact .inl ⟨rfl, rfl, rfl⟩
    · exact .inr ⟨d, hd, blob, sigDesc, outcome, hv, rfl⟩

theorem processedFrom_le_budget (n : Nat) (sigs : List Descriptor) :
    L.processedFrom n sigs ≤ L.budget n := by
  unfold processedFrom stopIndex
  split
  · rename_i i hi
    have := (List.findIdx?_eq_some_iff_findIdx_eq.1 hi).1
    simp only [List.length_take] at this
    omega
  · simp

/-- Each signature's calls fetch it once, and verify at most one blob. -/
theorem callsOf_fetched (d : Descriptor) :
    (L.callsOf d).filterMap Call.fetched = [d] ∧ (L.callsOf d).countP Call.isVerify ≤ 1 := by
  unfold callsOf
  split <;> simp [Call.fetched, Call.isVerify]

theorem flatMap_callsOf_fetched (sigs : List Descriptor) :
    (sigs.flatMap L.callsOf).filterMap Call.fetched = sigs ∧
      (sigs.flatMap L.callsOf).countP Call.isVerify ≤ sigs.length := by
  induction sigs with
  | nil => simp
  | cons d ds ih =>
    obtain ⟨hf, hv⟩ := callsOf_fetched (L := L) d
    simp only [List.flatMap_cons, List.filterMap_append, List.countP_append, hf, ih.1,
      List.singleton_append, List.length_cons, true_and]
    omega

/-- The loop's result: a failure, or the artifact with an accepted signature's outcome. -/
theorem verifySignatures_cases (hm : 0 < L.maxSignatureAttempts) :
    (L.verifySignatures.1.error.isSome ∧ L.verifySignatures.1.outcomes = [] ∧
        L.verifySignatures.1.descriptor = .zero) ∨
      ∃ d ∈ (L.repo.signaturePages L.artifactDescriptor).flatten.take L.maxSignatureAttempts.toNat,
        ∃ blob sigDesc outcome, L.verdict d = .accepted blob sigDesc outcome ∧
          L.verifySignatures.1 = ⟨L.artifactDescriptor, [outcome], none⟩ := by
  have h0 : L.budget 0 = L.maxSignatureAttempts.toNat := by simp [budget]
  rw [verifySignatures_result hm, verifySpec, ← h0]
  exact specFrom_cases 0 _ _

/-- The loop fetches a prefix of the delivered signatures, at most the bound, and
verifies at most one blob per fetch. -/
theorem verifySignatures_fetches (hm : 0 < L.maxSignatureAttempts) :
    L.verifySignatures.2.1.filterMap Call.fetched <+: (L.repo.signaturePages L.artifactDescriptor).flatten ∧
      (L.verifySignatures.2.1.filterMap Call.fetched).length ≤ L.maxSignatureAttempts.toNat ∧
      L.verifySignatures.2.1.countP Call.isVerify ≤ (L.verifySignatures.2.1.filterMap Call.fetched).length := by
  rw [verifySignatures_calls hm]
  obtain ⟨hf, hv⟩ := flatMap_callsOf_fetched (L := L)
    ((L.repo.signaturePages L.artifactDescriptor).flatten.take
      (L.processedFrom 0 (L.repo.signaturePages L.artifactDescriptor).flatten))
  simp only [hf]
  refine ⟨List.take_prefix _ _, ?_, hv⟩
  have := processedFrom_le_budget (L := L) 0 (L.repo.signaturePages L.artifactDescriptor).flatten
  simp only [List.length_take, budget, Nat.cast_zero, sub_zero] at this ⊢
  omega

/-- **One signature manifest**: when the artifact has exactly one and the repository
fetches its blob, the loop fetches it, hands the blob to the verifier, and succeeds,
with the verifier's outcome, exactly when the verifier returns no error. -/
theorem verifySignatures_single (hm : 0 < L.maxSignatureAttempts) {m : Descriptor} {blob : Bytes}
    {sigDesc : Descriptor} (hpages : L.repo.signaturePages L.artifactDescriptor = [[m]])
    (hfetch : L.repo.fetchSignatureBlob m = .ok (blob, sigDesc)) :
    L.verifySignatures.2.1 =
        [.fetchSignatureBlob m, .verify L.artifactDescriptor blob (L.optsFor sigDesc.mediaType)] ∧
      (L.verifySignatures.1.error = none ↔
        (L.verifier.verify L.artifactDescriptor blob (L.optsFor sigDesc.mediaType)).2 = none) ∧
      ∀ outcome, L.verifier.verify L.artifactDescriptor blob (L.optsFor sigDesc.mediaType) = (outcome, none) →
        L.verifySignatures.1 = ⟨L.artifactDescriptor, [outcome], none⟩ := by
  have hm0 : ((0 : Nat) : Int) < L.maxSignatureAttempts := hm
  have hcalls : L.callsOf m =
      [.fetchSignatureBlob m, .verify L.artifactDescriptor blob (L.optsFor sigDesc.mediaType)] := by
    unfold callsOf verdict
    simp only [hfetch]
    rcases hv : L.verifier.verify L.artifactDescriptor blob (L.optsFor sigDesc.mediaType) with
      ⟨_ | o, _ | e⟩ <;> simp [hv]
  have hproc : L.processedFrom 0 [m] = 1 := by
    rw [processedFrom_cons hm0]
    split_ifs <;> simp [processedFrom, stopIndex]
  refine ⟨?_, ?_, ?_⟩
  · rw [verifySignatures_calls hm]
    simp [hpages, hproc, hcalls]
  all_goals rw [verifySignatures_result hm, hpages, List.flatten_singleton, verifySpec, specFrom_cons hm0]
  · -- the verifier's answer decides
    rcases hv : L.verifier.verify L.artifactDescriptor blob (L.optsFor sigDesc.mediaType) with
      ⟨_ | o, _ | e⟩ <;>
      simp [stopResult, verdict, hfetch, hv, specFrom]
    split_ifs <;> simp
  · intro outcome hv
    simp [stopResult, verdict, hfetch, hv]

end Loop

/-! ## The checks before the loop -/

section Preamble

variable (parseReference : String → Except Error Reference) (verifier : Verifier) (repo : Repository)

/-- Where `Verify`'s checks leave a call: a failure, the skip outcome `SkipVerify` gave,
or the resolved artifact with the caller's options, under a positive bound. -/
theorem verifyPreamble_cases (remoteOpts : RemoteVerifyOptions) :
    (∃ e, verifyPreamble parseReference verifier repo remoteOpts = failWith e) ∨
      (∃ skipVerify level, verifier.skipVerify = some skipVerify ∧
        skipVerify (remoteOpts.verifyOptions "") = .ok (true, level) ∧
        verifyPreamble parseReference verifier repo remoteOpts =
          .returned ⟨.zero, [some ⟨level, none⟩], none⟩) ∨
      ∃ artifactDescriptor, repo.resolve remoteOpts.artifactReference = .ok artifactDescriptor ∧
        0 < remoteOpts.maxSignatureAttempts ∧
        verifyPreamble parseReference verifier repo remoteOpts =
          .resolved artifactDescriptor (remoteOpts.verifyOptions "") := by
  unfold verifyPreamble
  split
  · exact .inl ⟨_, rfl⟩
  rcases checkSkip_cases verifier (remoteOpts.verifyOptions "") (if remoteOpts.maxSignatureAttempts ≤ 0 then
      failWith (attemptsError remoteOpts.maxSignatureAttempts) else _) with h | h | ⟨f, level, hf, hl, h⟩
  · -- the checks go on past the skip check
    unfold RemoteVerifyOptions.verifyOptions at h
    rw [h]
    split
    · exact .inl ⟨_, rfl⟩
    rcases hp : parseReference remoteOpts.artifactReference with e | ref
    · exact .inl ⟨_, rfl⟩
    simp only
    split
    · exact .inl ⟨_, rfl⟩
    rcases hr : repo.resolve remoteOpts.artifactReference with e | artifactDescriptor
    · exact .inl ⟨_, rfl⟩
    · exact .inr (.inr ⟨artifactDescriptor, rfl, by omega, rfl⟩)
  · exact .inl h
  · exact .inr (.inl ⟨f, level, hf, hl, h⟩)

/-- Where `VerifyLocalContent`'s checks leave a call. -/
theorem verifyLocalPreamble_cases (localVerifyOpts : LocalVerifyOptions) :
    (∃ e, verifyLocalPreamble verifier repo localVerifyOpts = failWith e) ∨
      (∃ skipVerify level, verifier.skipVerify = some skipVerify ∧
        skipVerify (localVerifyOpts.verifyOptions "") = .ok (true, level) ∧
        verifyLocalPreamble verifier repo localVerifyOpts =
          .returned ⟨.zero, [some ⟨level, none⟩], none⟩) ∨
      ∃ targetDesc, repo.resolve localVerifyOpts.layoutReference = .ok targetDesc ∧
        0 < localVerifyOpts.maxSignatureAttempts ∧
        verifyLocalPreamble verifier repo localVerifyOpts =
          .resolved targetDesc (localVerifyOpts.verifyOptions "") := by
  unfold verifyLocalPreamble
  split
  · exact .inl ⟨_, rfl⟩
  split
  · exact .inl ⟨_, rfl⟩
  split
  · exact .inl ⟨_, rfl⟩
  rcases hr : repo.resolve localVerifyOpts.layoutReference with e | targetDesc
  · exact .inl ⟨_, rfl⟩
  simp only
  rcases checkSkip_cases verifier (localVerifyOpts.verifyOptions "")
      (.resolved targetDesc (localVerifyOpts.verifyOptions "")) with h | h | ⟨f, level, hf, hl, h⟩
  · exact .inr (.inr ⟨targetDesc, rfl, by omega, h⟩)
  · exact .inl h
  · exact .inr (.inl ⟨f, level, hf, hl, h⟩)

end Preamble

/-! ## The guarantees -/

/-- **`Verify` and `VerifyLocalContent` fail closed**: each returns either an error with
no outcome and the zero descriptor, or no error with one outcome, and then either the
verifier's `SkipVerify` said to skip (the outcome is its level) or the reference
resolved to an artifact, one of the first `MaxSignatureAttempts` signature manifests
delivered for it was fetched, and `verifier.Verify` returned no error on that blob with
the caller's options and the blob's media type: the flow returns that artifact and the
verifier's outcome. -/
theorem verify_fail_closed :
    (∀ parseReference verifier repo remoteOpts,
      ((verify parseReference verifier repo remoteOpts).1.error.isSome ∧
          (verify parseReference verifier repo remoteOpts).1.outcomes = [] ∧
          (verify parseReference verifier repo remoteOpts).1.descriptor = .zero) ∨
        (∃ skipVerify level, verifier.skipVerify = some skipVerify ∧
          skipVerify (remoteOpts.verifyOptions "") = .ok (true, level) ∧
          (verify parseReference verifier repo remoteOpts).1 = ⟨.zero, [some ⟨level, none⟩], none⟩) ∨
        ∃ artifactDescriptor d blob sigDesc outcome,
          repo.resolve remoteOpts.artifactReference = .ok artifactDescriptor ∧
          d ∈ (repo.signaturePages artifactDescriptor).flatten.take remoteOpts.maxSignatureAttempts.toNat ∧
          repo.fetchSignatureBlob d = .ok (blob, sigDesc) ∧
          verifier.verify artifactDescriptor blob (remoteOpts.verifyOptions sigDesc.mediaType) =
            (outcome, none) ∧
          (verify parseReference verifier repo remoteOpts).1 = ⟨artifactDescriptor, [outcome], none⟩) ∧
    (∀ verifier repo localVerifyOpts,
      ((verifyLocalContent verifier repo localVerifyOpts).1.error.isSome ∧
          (verifyLocalContent verifier repo localVerifyOpts).1.outcomes = [] ∧
          (verifyLocalContent verifier repo localVerifyOpts).1.descriptor = .zero) ∨
        (∃ skipVerify level, verifier.skipVerify = some skipVerify ∧
          skipVerify (localVerifyOpts.verifyOptions "") = .ok (true, level) ∧
          (verifyLocalContent verifier repo localVerifyOpts).1 = ⟨.zero, [some ⟨level, none⟩], none⟩) ∨
        ∃ targetDesc d blob sigDesc outcome,
          repo.resolve localVerifyOpts.layoutReference = .ok targetDesc ∧
          d ∈ (repo.signaturePages targetDesc).flatten.take localVerifyOpts.maxSignatureAttempts.toNat ∧
          repo.fetchSignatureBlob d = .ok (blob, sigDesc) ∧
          verifier.verify targetDesc blob (localVerifyOpts.verifyOptions sigDesc.mediaType) =
            (outcome, none) ∧
          (verifyLocalContent verifier repo localVerifyOpts).1 = ⟨targetDesc, [outcome], none⟩) := by
  constructor
  · intro parseReference verifier repo remoteOpts
    rcases verifyPreamble_cases parseReference verifier repo remoteOpts with
      ⟨e, h⟩ | ⟨f, level, hf, hl, h⟩ | ⟨a, hr, hm, h⟩
    · exact .inl (by simp [verify, h, failWith])
    · exact .inr (.inl ⟨f, level, hf, hl, by simp [verify, h]⟩)
    rw [show verify parseReference verifier repo remoteOpts = _ by rw [verify, h]]
    rcases Loop.verifySignatures_cases
        (L := remoteLoop verifier repo remoteOpts a (remoteOpts.verifyOptions "")) hm with
      hfail | ⟨d, hd, blob, sigDesc, outcome, hv, hres⟩
    · exact .inl hfail
    · obtain ⟨hfetch, hver⟩ := Loop.verdict_eq_accepted.1 hv
      exact .inr (.inr ⟨a, d, blob, sigDesc, outcome, hr, hd, hfetch, hver, hres⟩)
  · intro verifier repo localVerifyOpts
    rcases verifyLocalPreamble_cases verifier repo localVerifyOpts with
      ⟨e, h⟩ | ⟨f, level, hf, hl, h⟩ | ⟨a, hr, hm, h⟩
    · exact .inl (by simp [verifyLocalContent, h, failWith])
    · exact .inr (.inl ⟨f, level, hf, hl, by simp [verifyLocalContent, h]⟩)
    rw [show verifyLocalContent verifier repo localVerifyOpts = _ by rw [verifyLocalContent, h]]
    rcases Loop.verifySignatures_cases
        (L := localLoop verifier repo localVerifyOpts a (localVerifyOpts.verifyOptions "")) hm with
      hfail | ⟨d, hd, blob, sigDesc, outcome, hv, hres⟩
    · exact .inl hfail
    · obtain ⟨hfetch, hver⟩ := Loop.verdict_eq_accepted.1 hv
      exact .inr (.inr ⟨a, d, blob, sigDesc, outcome, hr, hd, hfetch, hver, hres⟩)

/-- **`Verify` and `VerifyLocalContent` do bounded work**: each fetches at most
`MaxSignatureAttempts` signature manifests, and those it fetches are the first ones
`ListSignatures` delivers for the artifact the reference resolved to, in delivery
order, each once; it hands the verifier at most one blob per fetch. -/
theorem verify_fetches_bounded :
    (∀ parseReference verifier repo remoteOpts,
      ((verify parseReference verifier repo remoteOpts).2.1.filterMap Call.fetched).length ≤
          remoteOpts.maxSignatureAttempts.toNat ∧
        (verify parseReference verifier repo remoteOpts).2.1.countP Call.isVerify ≤
          ((verify parseReference verifier repo remoteOpts).2.1.filterMap Call.fetched).length ∧
        ((verify parseReference verifier repo remoteOpts).2.1 = [] ∨
          ∃ artifactDescriptor, repo.resolve remoteOpts.artifactReference = .ok artifactDescriptor ∧
            (verify parseReference verifier repo remoteOpts).2.1.filterMap Call.fetched <+:
              (repo.signaturePages artifactDescriptor).flatten)) ∧
    (∀ verifier repo localVerifyOpts,
      ((verifyLocalContent verifier repo localVerifyOpts).2.1.filterMap Call.fetched).length ≤
          localVerifyOpts.maxSignatureAttempts.toNat ∧
        (verifyLocalContent verifier repo localVerifyOpts).2.1.countP Call.isVerify ≤
          ((verifyLocalContent verifier repo localVerifyOpts).2.1.filterMap Call.fetched).length ∧
        ((verifyLocalContent verifier repo localVerifyOpts).2.1 = [] ∨
          ∃ targetDesc, repo.resolve localVerifyOpts.layoutReference = .ok targetDesc ∧
            (verifyLocalContent verifier repo localVerifyOpts).2.1.filterMap Call.fetched <+:
              (repo.signaturePages targetDesc).flatten)) := by
  constructor
  · intro parseReference verifier repo remoteOpts
    rcases verifyPreamble_cases parseReference verifier repo remoteOpts with
      ⟨e, h⟩ | ⟨f, level, hf, hl, h⟩ | ⟨a, hr, hm, h⟩
    · simp [verify, h, failWith]
    · simp [verify, h]
    rw [show verify parseReference verifier repo remoteOpts = _ by rw [verify, h]]
    obtain ⟨hpre, hlen, hver⟩ := Loop.verifySignatures_fetches
      (L := remoteLoop verifier repo remoteOpts a (remoteOpts.verifyOptions "")) hm
    exact ⟨hlen, hver, .inr ⟨a, hr, hpre⟩⟩
  · intro verifier repo localVerifyOpts
    rcases verifyLocalPreamble_cases verifier repo localVerifyOpts with
      ⟨e, h⟩ | ⟨f, level, hf, hl, h⟩ | ⟨a, hr, hm, h⟩
    · simp [verifyLocalContent, h, failWith]
    · simp [verifyLocalContent, h]
    rw [show verifyLocalContent verifier repo localVerifyOpts = _ by rw [verifyLocalContent, h]]
    obtain ⟨hpre, hlen, hver⟩ := Loop.verifySignatures_fetches
      (L := localLoop verifier repo localVerifyOpts a (localVerifyOpts.verifyOptions "")) hm
    exact ⟨hlen, hver, .inr ⟨a, hr, hpre⟩⟩

end Notation.Verify
