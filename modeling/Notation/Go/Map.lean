import Mathlib.Data.Finmap

/-!
# Go `map[string]string` values

A Go map has no order: `StrMap` is Mathlib's `Finmap`, so two maps with the same
entries are the same value. A `for k, v := range m` loop visits the entries in an
order the runtime picks afresh on every loop; `Listing m` is one such order, and the
model of each range loop takes its listing as an argument. `insertAll` is the loop
`for k, v := range src { dst[k] = v }`.
-/

namespace Notation.Go

/-- A Go `map[string]string`. -/
abbrev StrMap := Finmap fun _ : String => String

/-- `len(m)`. -/
def StrMap.len (m : StrMap) : Nat := m.keys.card

/-- An order in which `for k, v := range m` may visit `m`: its entries, each once. -/
structure Listing (m : StrMap) where
  entries : List (Σ _ : String, String)
  perm : (entries : Multiset (Σ _ : String, String)) = m.entries

namespace Listing

variable {m : StrMap} (o : Listing m)

theorem nodupKeys : o.entries.NodupKeys :=
  Multiset.coe_nodupKeys.1 (o.perm ▸ m.nodupKeys)

/-- The map a listing lists. -/
theorem eq_toFinmap : m = AList.toFinmap ⟨o.entries, o.nodupKeys⟩ :=
  Finmap.ext (by rw [AList.toFinmap_entries, o.perm])

theorem dlookup_eq (k : String) : o.entries.dlookup k = m.lookup k := by
  rw [congrArg (Finmap.lookup k) o.eq_toFinmap, Finmap.lookup_toFinmap]; rfl

theorem mem_keys_iff {k : String} : k ∈ o.entries.keys ↔ k ∈ m := by
  rw [← List.dlookup_isSome, o.dlookup_eq, Finmap.lookup_isSome]

theorem len_eq : m.len = o.entries.length := by
  simp [StrMap.len, Finmap.keys, Multiset.keys, ← o.perm]

theorem eq_nil_iff : o.entries = [] ↔ m = ∅ := by
  constructor
  · intro h
    exact Finmap.ext (by rw [← o.perm, h]; rfl)
  · rintro rfl
    exact (Multiset.coe_eq_zero _).1 o.perm

/-- The map with the entries `l`, listed in that order. -/
def ofList (l : List (Σ _ : String, String)) (h : l.NodupKeys) : Listing (AList.toFinmap ⟨l, h⟩) :=
  ⟨l, rfl⟩

end Listing

/-- `for k, v := range src { dst[k] = v }`, visiting `src` in the order `l`. -/
def insertAll (dst : StrMap) (l : List (Σ _ : String, String)) : StrMap :=
  l.foldl (fun acc e => acc.insert e.1 e.2) dst

@[simp] theorem insertAll_cons (dst : StrMap) (e : Σ _ : String, String) (l) :
    insertAll dst (e :: l) = insertAll (dst.insert e.1 e.2) l := rfl

theorem lookup_insertAll {l : List (Σ _ : String, String)} (hl : l.NodupKeys) (dst : StrMap)
    (k : String) : (insertAll dst l).lookup k = (l.dlookup k).orElse fun _ => dst.lookup k := by
  induction l generalizing dst with
  | nil => rfl
  | cons e l ih =>
    obtain ⟨hne, hl⟩ := List.nodupKeys_cons.1 hl
    rw [insertAll_cons, ih hl]
    by_cases hk : k = e.1
    · subst hk
      rw [List.dlookup_eq_none.2 hne, List.dlookup_cons_eq, Finmap.lookup_insert]
      rfl
    · rw [List.dlookup_cons_ne _ _ hk, Finmap.lookup_insert_of_ne _ hk]

/-- Copying a whole map into `dst`, in any order, overlays it on `dst`. -/
theorem insertAll_listing {src : StrMap} (o : Listing src) (dst : StrMap) :
    insertAll dst o.entries = src ∪ dst := by
  refine Finmap.ext_lookup fun k => ?_
  rw [lookup_insertAll o.nodupKeys, o.dlookup_eq]
  by_cases hk : k ∈ src
  · obtain ⟨v, hv⟩ := Finmap.mem_iff.1 hk
    rw [Finmap.lookup_union_left hk, hv]
    rfl
  · rw [Finmap.lookup_union_right hk, Finmap.lookup_eq_none.2 hk]
    rfl

end Notation.Go
