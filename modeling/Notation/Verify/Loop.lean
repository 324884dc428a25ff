import Notation.Basic

/-!
# The signature loop of `Verify` and `VerifyLocalContent`

Both functions hand `repo.ListSignatures` the same callback. It walks a page of
signature manifests, counts each one it processes against `MaxSignatureAttempts`,
fetches the envelope, verifies it, and stops the listing on a success
(`errDoneVerification`), on a fetch error or a verify error with no outcome, and once
the count is reached (`errExceededMaxVerificationLimit`, checked again at the end of
every page). `Progress` is what the callback closes over; `Loop` is what differs
between the two callers.

`runFlat` is the same loop over the signatures with the page boundaries erased, and
`referrers_callback` shows that the paged run is the flat one.
-/

namespace Notation.Verify
open Go

/-- `trustpolicy.VerificationLevel`, by its name. -/
structure VerificationLevel where
  name : String
deriving DecidableEq

/-- `VerificationOutcome`, with the fields `Verify` reads or builds. -/
structure VerificationOutcome where
  verificationLevel : Option VerificationLevel
  error : Option Error
deriving DecidableEq

/-- `envelope.Payload`, by the field `VerificationOutcome.UserMetadata` reads. -/
structure Payload where
  targetArtifact : Descriptor

/-- `signature.EnvelopeContent`, by the content of its payload. -/
structure EnvelopeContent where
  payloadContent : Bytes

/-- `VerificationOutcome.UserMetadata`, over the one field it reads, the outcome's
`EnvelopeContent`, which the loop neither reads nor builds; `unmarshalPayload` is
`json.Unmarshal` into an `envelope.Payload`, `none` where it fails. -/
def userMetadata (unmarshalPayload : Bytes → Option Payload) (envelopeContent : Option EnvelopeContent) :
    Except Error StrMap :=
  match envelopeContent with
  | none => .error (.other "unable to find envelope content for verification outcome")
  | some content =>
    match unmarshalPayload content.payloadContent with
    | none => .error (.other "failed to unmarshal the payload content in the signature blob to envelope.Payload")
    | some payload =>
      match payload.targetArtifact.annotations with
      | none => .ok ∅
      | some annotations => .ok annotations

/-- `VerifyOptions`. -/
structure VerifyOptions where
  artifactReference : String
  signatureMediaType : String
  pluginConfig : StrMap
  userMetadata : StrMap
  targetAtLocal : Bool
  trustPolicyScope : String
deriving DecidableEq

/-- A `Verifier`; `skipVerify` is its `SkipVerify` when it also implements
`skipVerifier`. -/
structure Verifier where
  verify : Descriptor → Bytes → VerifyOptions → Option VerificationOutcome × Option Error
  skipVerify : Option (VerifyOptions → Except Error (Bool × Option VerificationLevel))

/-- A call the loop makes to a collaborator. -/
inductive Call where
  | fetchSignatureBlob (desc : Descriptor)
  | verify (desc : Descriptor) (signature : Bytes) (opts : VerifyOptions)
deriving DecidableEq

/-- A non-nil result of the callback: the unexported sentinel `errDoneVerification`,
which no collaborator can return, or an error. -/
inductive Stop where
  | done
  | error (e : Error)
deriving DecidableEq

/-- `Verify`'s three results. -/
structure Result where
  descriptor : Descriptor
  outcomes : List (Option VerificationOutcome)
  error : Option Error
deriving DecidableEq

/-- The variables the callback closes over, and the calls made so far. -/
structure Progress where
  numOfSignatureProcessed : Nat
  verificationOutcomes : List (Option VerificationOutcome)
  verificationFailedErr : Error
  opts : VerifyOptions
  calls : List Call

/-- What the loop of `Verify` and of `VerifyLocalContent` is run with: the collaborators,
the resolved descriptor, the options for `verifier.Verify`, the bound, and the two
texts that differ between the callers. -/
structure Loop where
  repo : Repository
  verifier : Verifier
  artifactDescriptor : Descriptor
  opts : VerifyOptions
  maxSignatureAttempts : Int
  /-- the `Msg` of a failed fetch of a signature manifest -/
  fetchFailed : Descriptor → Error → String
  /-- the `Msg` when no signature is associated -/
  noSignature : String

/-- `errExceededMaxVerificationLimit`. -/
def errExceededMaxVerificationLimit (maxSignatureAttempts : Int) : Error :=
  .verificationFailed
    s!"total number of signatures associated with an artifact should be less than: {maxSignatureAttempts}"

namespace Loop

variable (L : Loop)

/-- The variables before the first page. -/
def init : Progress := ⟨0, [], .verificationFailed "", L.opts, []⟩

/-- The body of the callback's `for` loop past the bound check, on the signature
manifest `d`: the variables after it, and what the callback returns there, if it does. -/
def step (st : Progress) (d : Descriptor) : Progress × Option Stop :=
  let st := { st with
    numOfSignatureProcessed := st.numOfSignatureProcessed + 1
    calls := st.calls ++ [.fetchSignatureBlob d] }
  match L.repo.fetchSignatureBlob d with
  | .error e => (st, some (.error (.signatureRetrievalFailed (L.fetchFailed d e))))
  | .ok (sigBlob, sigDesc) =>
    let opts := { st.opts with signatureMediaType := sigDesc.mediaType }
    let st := { st with opts, calls := st.calls ++ [.verify L.artifactDescriptor sigBlob opts] }
    match L.verifier.verify L.artifactDescriptor sigBlob opts with
    | (none, some err) => (st, some (.error err))
    | (some outcome, some _) =>
      match outcome.error with
      | some (.userMetadataVerificationFailed msg) =>
        ({ st with verificationFailedErr := .userMetadataVerificationFailed msg }, none)
      | _ => (st, none)
    | (outcome, none) =>
      ({ st with verificationOutcomes := st.verificationOutcomes ++ [outcome] }, some .done)

/-- The callback's `for` loop over one page, breaking once the bound is reached. -/
def processPage (st : Progress) : List Descriptor → Progress × Option Stop
  | [] => (st, none)
  | d :: ds =>
    if L.maxSignatureAttempts ≤ st.numOfSignatureProcessed then (st, none)
    else
      match L.step st d with
      | (st', none) => processPage st' ds
      | (st', some s) => (st', some s)

/-- The callback `Verify` passes to `ListSignatures`. -/
def callback (st : Progress) (page : List Descriptor) : Progress × Option Stop :=
  match L.processPage st page with
  | (st', none) =>
    if L.maxSignatureAttempts ≤ st'.numOfSignatureProcessed then
      (st', some (.error (errExceededMaxVerificationLimit L.maxSignatureAttempts)))
    else (st', none)
  | (st', some s) => (st', some s)

/-- What follows `ListSignatures`: the result from the final variables and what the
listing returned. -/
def finish : Progress × Option Stop → Result
  | (st, some (.error e)) =>
    if e = errExceededMaxVerificationLimit L.maxSignatureAttempts then
      ⟨.zero, st.verificationOutcomes, some e⟩
    else ⟨.zero, [], some e⟩
  | (st, _) =>
    if st.numOfSignatureProcessed = 0 then
      ⟨.zero, [], some (.signatureRetrievalFailed L.noSignature)⟩
    else if st.verificationOutcomes = [] then
      ⟨.zero, st.verificationOutcomes, some st.verificationFailedErr⟩
    else ⟨L.artifactDescriptor, st.verificationOutcomes, none⟩

/-- The loop from `var verificationOutcomes` on: the result, the calls made, and the
number of pages requested. -/
def verifySignatures : Result × List Call × Nat :=
  let r := referrers L.callback L.init (L.repo.signaturePages L.artifactDescriptor)
  (L.finish (r.1, r.2.1), r.1.calls, r.2.2)

/-- The loop over the signatures in delivery order, with no page boundaries: the bound
is checked before every signature and once at the end. -/
def runFlat (st : Progress) : List Descriptor → Progress × Option Stop
  | [] =>
    if L.maxSignatureAttempts ≤ st.numOfSignatureProcessed then
      (st, some (.error (errExceededMaxVerificationLimit L.maxSignatureAttempts)))
    else (st, none)
  | d :: ds =>
    if L.maxSignatureAttempts ≤ st.numOfSignatureProcessed then
      (st, some (.error (errExceededMaxVerificationLimit L.maxSignatureAttempts)))
    else
      match L.step st d with
      | (st', none) => runFlat st' ds
      | (st', some s) => (st', some s)

variable {L}

theorem runFlat_of_le {st : Progress} (h : L.maxSignatureAttempts ≤ st.numOfSignatureProcessed)
    (sigs : List Descriptor) :
    L.runFlat st sigs = (st, some (.error (errExceededMaxVerificationLimit L.maxSignatureAttempts))) := by
  cases sigs <;> simp [runFlat, h]

/-- One page of the callback is the flat loop over that page's signatures. -/
theorem runFlat_append (st : Progress) (page rest : List Descriptor) :
    L.runFlat st (page ++ rest) =
      match L.callback st page with
      | (st', none) => L.runFlat st' rest
      | (st', some s) => (st', some s) := by
  induction page generalizing st with
  | nil =>
    by_cases h : L.maxSignatureAttempts ≤ st.numOfSignatureProcessed
    · simp [callback, processPage, h, runFlat_of_le h]
    · simp [callback, processPage, h]
  | cons d ds ih =>
    by_cases h : L.maxSignatureAttempts ≤ st.numOfSignatureProcessed
    · simp [callback, processPage, runFlat, h]
    · rcases hs : L.step st d with ⟨st', _ | s⟩
      · simpa [runFlat, callback, processPage, h, hs] using ih st'
      · simp [runFlat, callback, processPage, h, hs]

theorem callback_none_lt {st st' : Progress} {page : List Descriptor}
    (h : L.callback st page = (st', none)) :
    st'.numOfSignatureProcessed < L.maxSignatureAttempts := by
  unfold callback at h
  split at h
  · split at h
    · cases h
    · cases h; omega
  · cases h

/-- **The pages do not matter**: from a count below the bound, `ListSignatures` with the
callback ends where the flat loop over all the signatures ends. -/
theorem referrers_callback {st : Progress}
    (h : st.numOfSignatureProcessed < L.maxSignatureAttempts) (pages : List (List Descriptor)) :
    ((referrers L.callback st pages).1, (referrers L.callback st pages).2.1) =
      L.runFlat st pages.flatten := by
  induction pages generalizing st with
  | nil => simp [referrers, runFlat, not_le.2 h]
  | cons p ps ih =>
    rw [List.flatten_cons, runFlat_append]
    rcases hc : L.callback st p with ⟨st', _ | s⟩
    · simpa [referrers, hc] using ih (callback_none_lt hc)
    · simp [referrers, hc]

end Loop

end Notation.Verify
