import Notation.Verify.Loop

/-!
# What the signature loop computes

`verdict` is what the collaborators make of one signature manifest; `stopResult`,
`metadataFailure` and `callsOf` read off what processing it does. Over a whole list,
from a count `n`, `specFrom`, `processedFrom` and `stoppedFrom` give the result, how many
signatures are processed and whether the callback ends the listing, by the first
signature, within the bound, at which the loop returns.
`runFlat_spec` is the run lemma tying the flat loop to them.
-/

namespace Notation.Verify.Loop
open Go

variable (L : Loop)

/-- The options `verifier.Verify` gets for a blob of media type `t`. -/
def optsFor (t : String) : VerifyOptions := { L.opts with signatureMediaType := t }

/-- What the collaborators make of a signature manifest: its fetch fails; or, on the
blob fetched with descriptor `sigDesc`, the verifier rejects it with no outcome, fails
it with an outcome, or accepts it. -/
inductive Verdict where
  | fetchFailed (e : Error)
  | rejected (blob : Bytes) (sigDesc : Descriptor) (e : Error)
  | failed (blob : Bytes) (sigDesc : Descriptor) (outcome : VerificationOutcome)
  | accepted (blob : Bytes) (sigDesc : Descriptor) (outcome : Option VerificationOutcome)

/-- The verdict on `d`. -/
def verdict (d : Descriptor) : Verdict :=
  match L.repo.fetchSignatureBlob d with
  | .error e => .fetchFailed e
  | .ok (sigBlob, sigDesc) =>
    match L.verifier.verify L.artifactDescriptor sigBlob (L.optsFor sigDesc.mediaType) with
    | (none, some e) => .rejected sigBlob sigDesc e
    | (some outcome, some _) => .failed sigBlob sigDesc outcome
    | (outcome, none) => .accepted sigBlob sigDesc outcome

/-- The user-metadata failure an outcome records, if that is its error. -/
def userMetadataFailure (outcome : VerificationOutcome) : Option Error :=
  match outcome.error with
  | some (.userMetadataVerificationFailed msg) => some (.userMetadataVerificationFailed msg)
  | _ => none

/-- Where the loop returns at `d`, the result `Verify` then gives; `none` where it goes
on. -/
def stopResult (d : Descriptor) : Option Result :=
  match L.verdict d with
  | .fetchFailed e => some ⟨.zero, [], some (.signatureRetrievalFailed (L.fetchFailed d e))⟩
  | .rejected _ _ e => some ⟨.zero, [], some e⟩
  | .failed .. => none
  | .accepted _ _ outcome => some ⟨L.artifactDescriptor, [outcome], none⟩

/-- The user-metadata failure `d`'s outcome records, if any. -/
def metadataFailure (d : Descriptor) : Option Error :=
  match L.verdict d with
  | .failed _ _ outcome => userMetadataFailure outcome
  | _ => none

/-- The calls processing `d` makes: its fetch, then `verifier.Verify` on the blob
fetched for `d` with that blob's media type. -/
def callsOf (d : Descriptor) : List Call :=
  match L.verdict d with
  | .fetchFailed _ => [.fetchSignatureBlob d]
  | .rejected sigBlob sigDesc _ | .failed sigBlob sigDesc _ | .accepted sigBlob sigDesc _ =>
    [.fetchSignatureBlob d, .verify L.artifactDescriptor sigBlob (L.optsFor sigDesc.mediaType)]

/-- How many more signatures the bound allows after `n`. -/
def budget (n : Nat) : Nat := (L.maxSignatureAttempts - n).toNat

/-- The index, within the bound from count `n`, of the first signature at which the
loop returns. -/
def stopIndex (n : Nat) (sigs : List Descriptor) : Option Nat :=
  (sigs.take (L.budget n)).findIdx? fun d => (L.stopResult d).isSome

/-- How many signatures the loop processes from count `n`: up to and including the
first at which it returns, and at most the bound. -/
def processedFrom (n : Nat) (sigs : List Descriptor) : Nat :=
  match L.stopIndex n sigs with
  | some i => i + 1
  | none => (sigs.take (L.budget n)).length

/-- Whether the callback ends the listing: at a signature where the loop returns, or
once the bound is reached. -/
def stoppedFrom (n : Nat) (sigs : List Descriptor) : Bool :=
  (L.stopIndex n sigs).isSome || decide (L.maxSignatureAttempts ≤ n + sigs.length)

/-- `Verify`'s result over `sigs` from count `n` with `failedErr` recorded so far: the
result at the first signature within the bound where the loop returns; failing that,
the bound's error if the signatures reach it, the no-signature error if there are none,
and otherwise the last user-metadata failure, or `failedErr`. -/
def specFrom (n : Nat) (failedErr : Error) (sigs : List Descriptor) : Result :=
  match (sigs.take (L.budget n)).findSome? L.stopResult with
  | some r => r
  | none =>
    if L.maxSignatureAttempts ≤ n + sigs.length then
      ⟨.zero, [], some (errExceededMaxVerificationLimit L.maxSignatureAttempts)⟩
    else if n + sigs.length = 0 then ⟨.zero, [], some (.signatureRetrievalFailed L.noSignature)⟩
    else ⟨.zero, [], some (sigs.foldl (fun e d => (L.metadataFailure d).getD e) failedErr)⟩

/-- **`Verify`'s result over the delivered signatures**, from the start. -/
def verifySpec (sigs : List Descriptor) : Result := L.specFrom 0 (.verificationFailed "") sigs

/-- The loop has had no success yet, and its options are the caller's up to the media
type. -/
structure Pending (st : Progress) : Prop where
  noOutcome : st.verificationOutcomes = []
  opts : ∀ t, { st.opts with signatureMediaType := t } = L.optsFor t

variable {L}

theorem pending_init : L.Pending L.init := ⟨rfl, fun _ => rfl⟩

/-- The loop verifies only a blob the repository fetched, against the artifact. -/
theorem callsOf_verify {d a : Descriptor} {sig : Bytes} {o : VerifyOptions}
    (h : Call.verify a sig o ∈ L.callsOf d) :
    a = L.artifactDescriptor ∧ ∃ sigDesc, L.repo.fetchSignatureBlob d = .ok (sig, sigDesc) ∧
      o = L.optsFor sigDesc.mediaType := by
  rcases hf : L.repo.fetchSignatureBlob d with e | ⟨sigBlob, sigDesc⟩
  · simp [callsOf, verdict, hf] at h
  · rcases hv : L.verifier.verify L.artifactDescriptor sigBlob (L.optsFor sigDesc.mediaType)
      with ⟨_ | outcome, _ | err⟩ <;> simp [callsOf, verdict, hf, hv] at h <;>
      exact ⟨h.1, sigDesc, by rw [h.2.1], h.2.2⟩

/-- **One step** from a pending state, by the verdict on `d`. -/
theorem step_eq {st : Progress} (h : L.Pending st) (d : Descriptor) :
    L.step st d =
      match L.verdict d with
      | .fetchFailed e =>
        ({ st with numOfSignatureProcessed := st.numOfSignatureProcessed + 1,
                   calls := st.calls ++ L.callsOf d },
          some (.error (.signatureRetrievalFailed (L.fetchFailed d e))))
      | .rejected _ sigDesc e =>
        ({ st with numOfSignatureProcessed := st.numOfSignatureProcessed + 1,
                   calls := st.calls ++ L.callsOf d, opts := L.optsFor sigDesc.mediaType },
          some (.error e))
      | .failed _ sigDesc outcome =>
        ({ st with numOfSignatureProcessed := st.numOfSignatureProcessed + 1,
                   calls := st.calls ++ L.callsOf d, opts := L.optsFor sigDesc.mediaType,
                   verificationFailedErr := (userMetadataFailure outcome).getD st.verificationFailedErr },
          none)
      | .accepted _ sigDesc outcome =>
        ({ st with numOfSignatureProcessed := st.numOfSignatureProcessed + 1,
                   calls := st.calls ++ L.callsOf d, opts := L.optsFor sigDesc.mediaType,
                   verificationOutcomes := [outcome] },
          some .done) := by
  unfold step callsOf verdict
  rcases L.repo.fetchSignatureBlob d with e | ⟨sigBlob, sigDesc⟩
  · rfl
  · simp only [h.opts, h.noOutcome, List.nil_append, List.append_assoc, List.singleton_append]
    rcases L.verifier.verify L.artifactDescriptor sigBlob (L.optsFor sigDesc.mediaType)
      with ⟨_ | ⟨level, _ | ((_ | _ | msg | _ | _ | _) : Error)⟩, _ | e⟩ <;> rfl

/-! ## The spec functions one signature at a time -/

section Cons

variable {n : Nat} {d : Descriptor} {ds : List Descriptor}

theorem budget_succ (h : (n : Int) < L.maxSignatureAttempts) :
    L.budget n = L.budget (n + 1) + 1 := by
  unfold budget; omega

theorem budget_of_le (h : L.maxSignatureAttempts ≤ n) : L.budget n = 0 := by
  unfold budget; omega

theorem stopIndex_cons (h : (n : Int) < L.maxSignatureAttempts) :
    L.stopIndex n (d :: ds) =
      if (L.stopResult d).isSome then some 0 else (L.stopIndex (n + 1) ds).map (· + 1) := by
  rw [stopIndex, budget_succ h, List.take_succ_cons, List.findIdx?_cons, List.findIdx?_succ]
  rfl

theorem processedFrom_cons (h : (n : Int) < L.maxSignatureAttempts) :
    L.processedFrom n (d :: ds) =
      if (L.stopResult d).isSome then 1 else L.processedFrom (n + 1) ds + 1 := by
  unfold processedFrom
  rw [stopIndex_cons h]
  split_ifs
  · rfl
  · cases L.stopIndex (n + 1) ds <;> simp [budget_succ h]

theorem stoppedFrom_cons (h : (n : Int) < L.maxSignatureAttempts) :
    L.stoppedFrom n (d :: ds) = ((L.stopResult d).isSome || L.stoppedFrom (n + 1) ds) := by
  unfold stoppedFrom
  rw [stopIndex_cons h]
  have e : (n : Int) + (ds.length + 1) = n + 1 + ds.length := by omega
  split_ifs <;> simp [e, *]

theorem specFrom_cons (h : (n : Int) < L.maxSignatureAttempts) (failedErr : Error) :
    L.specFrom n failedErr (d :: ds) =
      match L.stopResult d with
      | some r => r
      | none => L.specFrom (n + 1) ((L.metadataFailure d).getD failedErr) ds := by
  unfold specFrom
  rw [budget_succ h, List.take_succ_cons, List.findSome?_cons]
  have e : (n : Int) + (ds.length + 1) = n + 1 + ds.length := by omega
  cases L.stopResult d <;> simp [e]

theorem processedFrom_of_le (h : L.maxSignatureAttempts ≤ n) (sigs : List Descriptor) :
    L.processedFrom n sigs = 0 := by
  simp [processedFrom, stopIndex, budget_of_le h]

theorem stoppedFrom_of_le (h : L.maxSignatureAttempts ≤ n) (sigs : List Descriptor) :
    L.stoppedFrom n sigs = true := by
  simp only [stoppedFrom, Bool.or_eq_true, decide_eq_true_eq]
  right; omega

theorem specFrom_of_le (h : L.maxSignatureAttempts ≤ n) (failedErr : Error) (sigs : List Descriptor) :
    L.specFrom n failedErr sigs =
      ⟨.zero, [], some (errExceededMaxVerificationLimit L.maxSignatureAttempts)⟩ := by
  have h' : L.maxSignatureAttempts ≤ (n : Int) + sigs.length := by omega
  simp [specFrom, budget_of_le h, h']

end Cons

/-! ## The run lemma -/

/-- What a flat run from `st` over `sigs` ends with: the signatures it processed, the
calls it made, whether it stopped and its result, by `processedFrom`, `callsOf`,
`stoppedFrom` and `specFrom`. -/
structure FlatRun (st : Progress) (sigs : List Descriptor) (r : Progress × Option Stop) : Prop where
  processed : r.1.numOfSignatureProcessed =
    st.numOfSignatureProcessed + L.processedFrom st.numOfSignatureProcessed sigs
  calls : r.1.calls =
    st.calls ++ (sigs.take (L.processedFrom st.numOfSignatureProcessed sigs)).flatMap L.callsOf
  stopped : r.2.isSome = L.stoppedFrom st.numOfSignatureProcessed sigs
  result : L.finish r = L.specFrom st.numOfSignatureProcessed st.verificationFailedErr sigs
  pending : r.2 = none → L.Pending r.1

theorem flatRun_of_le {st : Progress} (h : L.Pending st)
    (hle : L.maxSignatureAttempts ≤ st.numOfSignatureProcessed) (sigs : List Descriptor) :
    L.FlatRun st sigs (L.runFlat st sigs) := by
  rw [runFlat_of_le hle]
  exact ⟨by simp [processedFrom_of_le hle], by simp [processedFrom_of_le hle],
    (stoppedFrom_of_le hle _).symm, by simp [finish, specFrom_of_le hle, h.noOutcome], nofun⟩

/-- A failed signature hands the run on to the next one. -/
theorem flatRun_cons_failed {st : Progress} {d : Descriptor} {ds : List Descriptor}
    {blob : Bytes} {sigDesc : Descriptor} {outcome : VerificationOutcome} {r : Progress × Option Stop}
    (hlt : (st.numOfSignatureProcessed : Int) < L.maxSignatureAttempts)
    (hv : L.verdict d = .failed blob sigDesc outcome)
    (h : L.FlatRun
      { st with numOfSignatureProcessed := st.numOfSignatureProcessed + 1,
                calls := st.calls ++ L.callsOf d, opts := L.optsFor sigDesc.mediaType,
                verificationFailedErr := (userMetadataFailure outcome).getD st.verificationFailedErr }
      ds r) :
    L.FlatRun st (d :: ds) r := by
  obtain ⟨hn, hc, hs, hr, hp⟩ := h
  refine ⟨?_, ?_, ?_, ?_, hp⟩
  · simp only at hn
    simp [hn, processedFrom_cons hlt, stopResult, hv]; omega
  · simp [hc, processedFrom_cons hlt, stopResult, hv]
  · simp [hs, stoppedFrom_cons hlt, stopResult, hv]
  · simp [hr, specFrom_cons hlt, stopResult, metadataFailure, hv]

/-- **The flat loop computes the spec**, from any pending state. -/
theorem runFlat_spec {st : Progress} (h : L.Pending st) (sigs : List Descriptor) :
    L.FlatRun st sigs (L.runFlat st sigs) := by
  induction sigs generalizing st with
  | nil =>
    by_cases hle : L.maxSignatureAttempts ≤ st.numOfSignatureProcessed
    · exact flatRun_of_le h hle []
    · have h0 : ¬L.maxSignatureAttempts ≤ ((st.numOfSignatureProcessed + 0 : Nat) : Int) := hle
      refine ⟨?_, ?_, ?_, ?_, ?_⟩ <;>
        simp [runFlat, hle, processedFrom, stopIndex, stoppedFrom, finish, specFrom, h.noOutcome, h0, h]
  | cons d ds ih =>
    by_cases hle : L.maxSignatureAttempts ≤ st.numOfSignatureProcessed
    · exact flatRun_of_le h hle _
    · have hlt : (st.numOfSignatureProcessed : Int) < L.maxSignatureAttempts := not_le.1 hle
      rw [runFlat, if_neg hle, step_eq h]
      rcases hv : L.verdict d with e | ⟨_, sigDesc, e⟩ | ⟨_, sigDesc, outcome⟩ | ⟨_, sigDesc, outcome⟩
      all_goals simp only [hv]
      on_goal 3 => exact flatRun_cons_failed hlt hv (ih ⟨h.noOutcome, fun _ => rfl⟩)
      -- the other verdicts stop the loop at `d`
      all_goals refine ⟨?_, ?_, ?_, ?_, nofun⟩ <;>
        simp [processedFrom_cons hlt, stoppedFrom_cons hlt, specFrom_cons hlt, stopResult, hv,
          finish, h.noOutcome]

/-! ## The pages requested -/

/-- How many pages are handed over before the first `j` signatures have all been. -/
def pagesThrough : List (List Descriptor) → Nat → Nat
  | [], _ => 0
  | p :: ps, j => if j ≤ p.length then 1 else pagesThrough ps (j - p.length) + 1

theorem processedFrom_le_length (n : Nat) (sigs : List Descriptor) :
    L.processedFrom n sigs ≤ sigs.length := by
  unfold processedFrom
  split
  · rename_i i hi
    have := (List.findIdx?_eq_some_iff_findIdx_eq.1 hi).1
    simp only [List.length_take] at this
    omega
  · simp

theorem processedFrom_of_not_stopped {n : Nat} {sigs : List Descriptor}
    (h : L.stoppedFrom n sigs = false) : L.processedFrom n sigs = sigs.length := by
  unfold stoppedFrom at h
  rcases hi : L.stopIndex n sigs with _ | i
  · simp only [hi, Option.isSome_none, Bool.false_or, decide_eq_false_iff_not] at h
    simp only [processedFrom, hi, List.length_take, budget]
    omega
  · simp [hi] at h

theorem processedFrom_pos {n : Nat} {sigs : List Descriptor}
    (hlt : (n : Int) < L.maxSignatureAttempts) (h : L.stoppedFrom n sigs = true) :
    0 < L.processedFrom n sigs := by
  cases sigs with
  | nil => simp [stoppedFrom, stopIndex, not_le.2 hlt] at h
  | cons d ds => rw [processedFrom_cons hlt]; split_ifs <;> omega

/-- A page the callback passes on leaves a pending state below the bound, counted past
the page: over the page and what follows, the loop processes the whole page and goes
on from there. -/
theorem callback_none {st st' : Progress} (h : L.Pending st) {p : List Descriptor}
    (hc : L.callback st p = (st', none)) (rest : List Descriptor) :
    L.Pending st' ∧ (st'.numOfSignatureProcessed : Int) < L.maxSignatureAttempts ∧
      L.processedFrom st.numOfSignatureProcessed (p ++ rest) =
        p.length + L.processedFrom st'.numOfSignatureProcessed rest ∧
      L.stoppedFrom st.numOfSignatureProcessed (p ++ rest) =
        L.stoppedFrom st'.numOfSignatureProcessed rest := by
  have hlt' := callback_none_lt hc
  have first : L.runFlat st p = (st', none) := by
    simpa [hc, runFlat, not_le.2 hlt'] using runFlat_append (L := L) st p []
  obtain ⟨hn₁, -, hs₁, -, hp₁⟩ := runFlat_spec h p
  rw [first] at hn₁ hs₁ hp₁
  have hp' : L.Pending st' := hp₁ rfl
  have hnum : st'.numOfSignatureProcessed = st.numOfSignatureProcessed + p.length := by
    rw [hn₁, processedFrom_of_not_stopped hs₁.symm]
  have whole := runFlat_spec h (p ++ rest)
  rw [runFlat_append] at whole
  simp only [hc] at whole
  obtain ⟨hn, -, hs, -, -⟩ := whole
  obtain ⟨hn', -, hs', -, -⟩ := runFlat_spec hp' rest
  exact ⟨hp', hlt', by omega, by rw [← hs, hs']⟩

/-- A page on which the callback ends the listing holds the last signature processed. -/
theorem callback_some {st st' : Progress} (h : L.Pending st) {p : List Descriptor} {s : Stop}
    (hc : L.callback st p = (st', some s)) (rest : List Descriptor) :
    L.stoppedFrom st.numOfSignatureProcessed (p ++ rest) = true ∧
      L.processedFrom st.numOfSignatureProcessed (p ++ rest) ≤ p.length := by
  have first : L.runFlat st p = (st', some s) := by
    simpa [hc] using runFlat_append (L := L) st p []
  have whole := runFlat_spec h (p ++ rest)
  rw [runFlat_append] at whole
  simp only [hc] at whole
  obtain ⟨hn, -, hs, -, -⟩ := whole
  obtain ⟨hn₁, -, -, -, -⟩ := runFlat_spec h p
  rw [first] at hn₁
  have hle := processedFrom_le_length (L := L) st.numOfSignatureProcessed p
  exact ⟨by simpa using hs.symm, by omega⟩

/-- **The pages requested**: from a pending count below the bound, `ListSignatures`
hands over the pages up to the one holding the last signature processed when the
callback ends the listing, and every page otherwise. -/
theorem referrers_pages {st : Progress} (h : L.Pending st)
    (hlt : (st.numOfSignatureProcessed : Int) < L.maxSignatureAttempts)
    (pages : List (List Descriptor)) :
    (referrers L.callback st pages).2.2 =
      if L.stoppedFrom st.numOfSignatureProcessed pages.flatten then
        pagesThrough pages (L.processedFrom st.numOfSignatureProcessed pages.flatten)
      else pages.length := by
  induction pages generalizing st with
  | nil => simp [referrers, stoppedFrom, stopIndex, not_le.2 hlt]
  | cons p ps ih =>
    rw [List.flatten_cons]
    rcases hc : L.callback st p with ⟨st', _ | s⟩
    · obtain ⟨hp', hlt', hproc, hstop⟩ := callback_none h hc ps.flatten
      simp only [referrers, hc, ih hp' hlt', hproc, hstop]
      split_ifs with hs
      · have hpos := processedFrom_pos hlt' hs
        rw [pagesThrough, if_neg (by omega), Nat.add_sub_cancel_left]
      · simp
    · obtain ⟨hs, hle⟩ := callback_some h hc ps.flatten
      simp only [referrers, hc, hs, if_true, pagesThrough, if_pos hle]

/-! ## The whole loop -/

section Whole

variable (hm : 0 < L.maxSignatureAttempts)
include hm

theorem init_lt : ((L.init.numOfSignatureProcessed : Nat) : Int) < L.maxSignatureAttempts := hm

/-- **The loop's result** is the spec over the delivered signatures, however paged. -/
theorem verifySignatures_result :
    L.verifySignatures.1 = L.verifySpec (L.repo.signaturePages L.artifactDescriptor).flatten := by
  simp only [verifySignatures, referrers_callback (init_lt hm)]
  exact (runFlat_spec pending_init _).result

/-- **The loop's calls**: each signature up to the last one processed is fetched, and
verified on its own blob when the fetch succeeds. -/
theorem verifySignatures_calls :
    L.verifySignatures.2.1 =
      let sigs := (L.repo.signaturePages L.artifactDescriptor).flatten
      (sigs.take (L.processedFrom 0 sigs)).flatMap L.callsOf := by
  have h : (referrers L.callback L.init (L.repo.signaturePages L.artifactDescriptor)).1 =
      (L.runFlat L.init (L.repo.signaturePages L.artifactDescriptor).flatten).1 :=
    congrArg Prod.fst (referrers_callback (init_lt hm) _)
  simp only [verifySignatures, h, (runFlat_spec pending_init _).calls]
  rfl

/-- **The pages requested**: up to the page of the last signature processed when the
callback ends the listing, all of them otherwise. -/
theorem verifySignatures_pages :
    L.verifySignatures.2.2 =
      let pages := L.repo.signaturePages L.artifactDescriptor
      if L.stoppedFrom 0 pages.flatten then pagesThrough pages (L.processedFrom 0 pages.flatten)
      else pages.length :=
  referrers_pages pending_init (init_lt hm) _

end Whole

end Notation.Verify.Loop
