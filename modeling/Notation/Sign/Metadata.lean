import Notation.Basic

/-!
# `addUserMetadataToDescriptor`

Both sign flows add the caller's user metadata to the artifact descriptor before
signing. The loop visits the metadata in the runtime's order and rejects a key with a
reserved prefix or one already among the annotations, which it is itself extending.
The descriptor is passed by value, but its annotation map is not: when it is not nil,
the loop writes into the very map the caller's descriptor holds, and `callerAnnotations`
is that map after the call.
-/

namespace Notation.Sign
open Go

/-- `reservedAnnotationPrefixes`. -/
def reservedAnnotationPrefixes : List String := ["io.cncf.notary"]

/-- The error for a metadata key with a reserved prefix. -/
def reservedKeyError (k reservedPrefix : String) : Error :=
  .other ("error adding user metadata: metadata key " ++ k ++ " has reserved prefix " ++ reservedPrefix)

/-- The error for a metadata key already among the annotations. -/
def presentKeyError (k : String) : Error :=
  .other ("error adding user metadata: metadata key " ++ k ++ " is already present in the target artifact")

/-- The loop body over the metadata entries left, from the annotations written so far:
the map as the loop leaves it, and the error it returns with, if any. -/
def addEntries (annotations : StrMap) : List (Σ _ : String, String) → StrMap × Option Error
  | [] => (annotations, none)
  | ⟨k, v⟩ :: rest =>
    match reservedAnnotationPrefixes.find? (hasPrefix k) with
    | some reservedPrefix => (annotations, some (reservedKeyError k reservedPrefix))
    | none =>
      if k ∈ annotations then (annotations, some (presentKeyError k))
      else addEntries (annotations.insert k v) rest

/-- `addUserMetadataToDescriptor`, visiting `userMetadata` in the order `order`. -/
def addUserMetadataToDescriptor (desc : Descriptor) (userMetadata : StrMap)
    (order : Listing userMetadata) : Descriptor × Option Error :=
  let annotations :=
    if desc.annotations = none ∧ 0 < userMetadata.len then some ∅ else desc.annotations
  match annotations with
  | none => (desc, none)
  | some annotations =>
    let r := addEntries annotations order.entries
    ({ desc with annotations := some r.1 }, r.2)

/-- The caller's annotation map after the call: a nil map stays nil, and a map that is
not nil is the one the loop writes into. -/
def callerAnnotations (desc : Descriptor) (userMetadata : StrMap) (order : Listing userMetadata) :
    Option StrMap :=
  match desc.annotations with
  | none => none
  | some _ => (addUserMetadataToDescriptor desc userMetadata order).1.annotations

/-- The descriptor with its annotations extended by `userMetadata`: nil stays nil when
there is no metadata. -/
def withMetadata (desc : Descriptor) (userMetadata : StrMap) : Descriptor :=
  { desc with annotations :=
      if desc.annotations = none ∧ userMetadata = ∅ then none
      else some (desc.annotations.getD ∅ ∪ userMetadata) }

/-- A key the loop rejects whatever the annotations: one with the reserved prefix. -/
def Reserved (k : String) : Prop := hasPrefix k "io.cncf.notary" = true

instance (k : String) : Decidable (Reserved k) := inferInstanceAs (Decidable (_ = true))

/-- One pass of the loop. -/
theorem addEntries_cons (annotations : StrMap) (k v : String) (rest : List (Σ _ : String, String)) :
    addEntries annotations (⟨k, v⟩ :: rest) =
      if Reserved k then (annotations, some (reservedKeyError k "io.cncf.notary"))
      else if k ∈ annotations then (annotations, some (presentKeyError k))
      else addEntries (annotations.insert k v) rest := by
  by_cases hr : Reserved k
  · simp [addEntries, reservedAnnotationPrefixes, hr, show hasPrefix k "io.cncf.notary" = true from hr]
  · simp [addEntries, reservedAnnotationPrefixes, hr, show hasPrefix k "io.cncf.notary" = false by
      simpa [Reserved] using hr]

/-! ## The loop over distinct keys -/

section Loop

variable {l : List (Σ _ : String, String)} (hl : l.NodupKeys)
include hl

/-- The loop fails exactly when some key is reserved or already an annotation. -/
theorem addEntries_error_isSome (annotations : StrMap) :
    (addEntries annotations l).2.isSome ↔ ∃ k ∈ l.keys, Reserved k ∨ k ∈ annotations := by
  induction l generalizing annotations with
  | nil => simp [addEntries]
  | cons e rest ih =>
    obtain ⟨k, v⟩ := e
    obtain ⟨hk, hrest⟩ := List.nodupKeys_cons.1 hl
    rw [addEntries_cons]
    split_ifs with hr hm
    · simp [hr]
    · simp [hm]
    · rw [ih hrest]
      simp only [List.keys_cons, List.mem_cons, exists_eq_or_imp, hr, hm, or_self, false_or]
      refine exists_congr fun k' => and_congr_right fun hk' => ?_
      have hne : k' ≠ k := fun h => hk (h ▸ hk')
      simp [Finmap.mem_insert, hne]

/-- A loop that does not fail writes every entry. -/
theorem addEntries_of_ok {annotations : StrMap} (h : (addEntries annotations l).2 = none) :
    (addEntries annotations l).1 = insertAll annotations l := by
  induction l generalizing annotations with
  | nil => rfl
  | cons e rest ih =>
    obtain ⟨k, v⟩ := e
    rw [addEntries_cons] at h ⊢
    split_ifs at h ⊢
    exact ih (List.nodupKeys_cons.1 hl).2 h

/-- A loop that fails stops at the first entry it rejects, having written the entries
before it, which all passed. -/
theorem addEntries_of_error {annotations : StrMap} (h : (addEntries annotations l).2.isSome) :
    ∃ pre k v rest, l = pre ++ ⟨k, v⟩ :: rest ∧ (∀ e ∈ pre, ¬Reserved e.1 ∧ e.1 ∉ annotations) ∧
      (Reserved k ∨ k ∈ annotations) ∧ (addEntries annotations l).1 = insertAll annotations pre := by
  induction l generalizing annotations with
  | nil => simp [addEntries] at h
  | cons e rest ih =>
    obtain ⟨k, v⟩ := e
    obtain ⟨hk, hrest⟩ := List.nodupKeys_cons.1 hl
    rw [addEntries_cons] at h ⊢
    split_ifs at h ⊢ with hr hm
    · exact ⟨[], k, v, rest, rfl, by simp, .inl hr, rfl⟩
    · exact ⟨[], k, v, rest, rfl, by simp, .inr hm, rfl⟩
    · obtain ⟨pre, k', v', rest', rfl, hpre, hbad, hres⟩ := ih hrest h
      have hk' : k' ≠ k := fun h => hk (by simp [h, List.keys])
      refine ⟨⟨k, v⟩ :: pre, k', v', rest', rfl, ?_, ?_, hres⟩
      · simp only [List.mem_cons, forall_eq_or_imp]
        exact ⟨⟨hr, hm⟩, fun e he => ⟨(hpre e he).1, fun h' => (hpre e he).2 (Finmap.mem_insert.2 (.inr h'))⟩⟩
      · simpa [Finmap.mem_insert, hk'] using hbad

end Loop

/-! ## The function, in every order -/

section Order

variable (desc : Descriptor) {userMetadata : StrMap} (order : Listing userMetadata)

omit desc in
theorem len_pos_iff (order : Listing userMetadata) : 0 < userMetadata.len ↔ userMetadata ≠ ∅ := by
  rw [order.len_eq, List.length_pos, Ne, Ne, order.eq_nil_iff]

/-- The function as one loop: over the caller's annotations, or over a fresh map when
they are nil and there is metadata; nil annotations and no metadata are left as they
are. -/
theorem addUserMetadataToDescriptor_eq :
    addUserMetadataToDescriptor desc userMetadata order =
      if desc.annotations = none ∧ userMetadata = ∅ then (desc, none)
      else
        ({ desc with annotations := some (addEntries (desc.annotations.getD ∅) order.entries).1 },
          (addEntries (desc.annotations.getD ∅) order.entries).2) := by
  unfold addUserMetadataToDescriptor
  rcases hd : desc.annotations with _ | annotations
  · by_cases hM : userMetadata = ∅
    · simp only [(len_pos_iff order).not.2 (not_not.2 hM), if_false]
      simp [hM]
    · simp [hM, (len_pos_iff order).2 hM]
  · simp

theorem addUserMetadataToDescriptor_error_isSome :
    (addUserMetadataToDescriptor desc userMetadata order).2.isSome ↔
      ∃ k ∈ userMetadata, Reserved k ∨ k ∈ desc.annotations.getD ∅ := by
  rw [addUserMetadataToDescriptor_eq]
  split_ifs with h
  · simp [h.1, h.2, Finmap.not_mem_empty]
  · simp only [addEntries_error_isSome order.nodupKeys, order.mem_keys_iff]

theorem addUserMetadataToDescriptor_of_ok (h : (addUserMetadataToDescriptor desc userMetadata order).2 = none) :
    (desc.annotations.getD ∅).Disjoint userMetadata ∧
      (addUserMetadataToDescriptor desc userMetadata order).1 = withMetadata desc userMetadata := by
  have hd : (desc.annotations.getD ∅).Disjoint userMetadata := fun k ha hm => by
    have := (addUserMetadataToDescriptor_error_isSome desc order).2 ⟨k, hm, .inr ha⟩
    rw [h] at this
    cases this
  refine ⟨hd, ?_⟩
  rw [addUserMetadataToDescriptor_eq] at h ⊢
  unfold withMetadata
  split_ifs at h ⊢ with hnil
  · cases desc
    simp_all
  · simp [addEntries_of_ok order.nodupKeys h, insertAll_listing, Finmap.union_comm_of_disjoint hd.symm]

theorem addUserMetadataToDescriptor_eq_of_ok
    (h : (addUserMetadataToDescriptor desc userMetadata order).2 = none) :
    addUserMetadataToDescriptor desc userMetadata order = (withMetadata desc userMetadata, none) :=
  Prod.ext (addUserMetadataToDescriptor_of_ok desc order h).2 h

theorem addUserMetadataToDescriptor_isSome_order (order' : Listing userMetadata) :
    (addUserMetadataToDescriptor desc userMetadata order').2.isSome =
      (addUserMetadataToDescriptor desc userMetadata order).2.isSome :=
  Bool.eq_iff_iff.2 ((addUserMetadataToDescriptor_error_isSome desc order').trans
    (addUserMetadataToDescriptor_error_isSome desc order).symm)

end Order

/-- **User metadata in any order**: `addUserMetadataToDescriptor` fails exactly when a
metadata key has the reserved prefix or is already an annotation; otherwise it returns
the descriptor with only its annotations changed, to the disjoint union of its own and
the metadata (nil left nil when there is no metadata); so neither whether it fails nor
what it returns then depends on the order the loop visits the metadata in. -/
theorem addUserMetadataToDescriptor_spec (desc : Descriptor) (userMetadata : StrMap)
    (order : Listing userMetadata) :
    ((addUserMetadataToDescriptor desc userMetadata order).2.isSome ↔
      ∃ k ∈ userMetadata, Reserved k ∨ k ∈ desc.annotations.getD ∅) ∧
    ((addUserMetadataToDescriptor desc userMetadata order).2 = none →
      (desc.annotations.getD ∅).Disjoint userMetadata ∧
      (addUserMetadataToDescriptor desc userMetadata order).1 = withMetadata desc userMetadata) ∧
    ∀ order' : Listing userMetadata,
      (addUserMetadataToDescriptor desc userMetadata order').2.isSome =
          (addUserMetadataToDescriptor desc userMetadata order).2.isSome ∧
        ((addUserMetadataToDescriptor desc userMetadata order).2 = none →
          (addUserMetadataToDescriptor desc userMetadata order').1 =
            (addUserMetadataToDescriptor desc userMetadata order).1) := by
  refine ⟨addUserMetadataToDescriptor_error_isSome desc order,
    addUserMetadataToDescriptor_of_ok desc order, fun order' => ?_⟩
  have same := addUserMetadataToDescriptor_isSome_order desc order order'
  refine ⟨same, fun h => ?_⟩
  have h' : (addUserMetadataToDescriptor desc userMetadata order').2 = none := by
    rw [← Option.not_isSome_iff_eq_none, same, h]; simp
  rw [(addUserMetadataToDescriptor_of_ok desc order' h').2, (addUserMetadataToDescriptor_of_ok desc order h).2]

/-! ## The caller's map -/

/-- Metadata `a=1` and the reserved `io.cncf.notary.k=2`. -/
def partlyReserved : StrMap :=
  AList.toFinmap ⟨[⟨"a", "1"⟩, ⟨"io.cncf.notary.k", "2"⟩], by unfold List.NodupKeys; decide⟩

/-- `partlyReserved` visited `a=1` first. -/
def partlyReservedMetadata : Listing partlyReserved := Listing.ofList _ _

/-- Metadata `a=1`. -/
def plain : StrMap := AList.toFinmap ⟨[⟨"a", "1"⟩], by unfold List.NodupKeys; decide⟩

/-- `plain`, in its only order. -/
def plainMetadata : Listing plain := Listing.ofList _ _

/-- A descriptor whose annotation map is empty but not nil. -/
def emptyAnnotated : Descriptor := ⟨"application/vnd.oci.image.manifest.v1+json", "sha256:aa", 7, some ∅⟩

/-- **What a rejected call leaves in the caller's map**: a map that is not nil gains
exactly the metadata entries the loop visited before the first key it rejects. -/
theorem callerAnnotations_of_error (desc : Descriptor) {userMetadata : StrMap}
    (order : Listing userMetadata) {annotations : StrMap} (hd : desc.annotations = some annotations)
    (h : (addUserMetadataToDescriptor desc userMetadata order).2.isSome) :
    ∃ pre k v rest, order.entries = pre ++ ⟨k, v⟩ :: rest ∧
      (∀ e ∈ pre, ¬Reserved e.1 ∧ e.1 ∉ annotations) ∧ (Reserved k ∨ k ∈ annotations) ∧
      callerAnnotations desc userMetadata order = some (insertAll annotations pre) := by
  simp only [callerAnnotations, addUserMetadataToDescriptor, hd, reduceCtorEq, false_and, if_false] at h ⊢
  obtain ⟨pre, k, v, rest, horder, hpre, hbad, hres⟩ := addEntries_of_error order.nodupKeys h
  exact ⟨pre, k, v, rest, horder, hpre, hbad, by rw [hres]⟩

theorem callerAnnotations_of_error_sample :
    emptyAnnotated.annotations = some ∅ ∧
      (addUserMetadataToDescriptor emptyAnnotated _ partlyReservedMetadata).2.isSome ∧
      ∃ pre k v rest, partlyReservedMetadata.entries = pre ++ ⟨k, v⟩ :: rest ∧
        (∀ e ∈ pre, ¬Reserved e.1 ∧ e.1 ∉ (∅ : StrMap)) ∧ (Reserved k ∨ k ∈ (∅ : StrMap)) ∧
        callerAnnotations emptyAnnotated _ partlyReservedMetadata = some (insertAll ∅ pre) :=
  ⟨rfl, by decide, callerAnnotations_of_error emptyAnnotated partlyReservedMetadata rfl (by decide)⟩

/-- A rejected call still writes into the caller's map: visiting `a=1` before the
reserved key, the call fails but leaves `a=1` in the caller's annotations, so a retry
without the reserved key is rejected where a first call with it succeeds. -/
theorem addUserMetadataToDescriptor_writes_caller_map :
    (addUserMetadataToDescriptor emptyAnnotated _ partlyReservedMetadata).2.isSome ∧
      callerAnnotations emptyAnnotated _ partlyReservedMetadata = some (Finmap.singleton "a" "1") ∧
      (addUserMetadataToDescriptor
          { emptyAnnotated with annotations := callerAnnotations emptyAnnotated _ partlyReservedMetadata }
          _ plainMetadata).2 = some (presentKeyError "a") ∧
      (addUserMetadataToDescriptor emptyAnnotated _ plainMetadata).2 = none := by
  decide

end Notation.Sign
