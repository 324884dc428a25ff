import Mathlib.Data.String.Basic
import Notation.Sign.Flow

/-!
# The thumbprint annotation

`generateAnnotations` writes one key into the plugin's annotations: the chain's
thumbprints, as the text `json.Marshal` makes of a `[]string`. A thumbprint is
`hex.EncodeToString` of a SHA-256 digest, lowercase hex digits only, so it needs no
escaping; for a chain of one certificate or more the text reads back, as a JSON array of
strings, as the thumbprints in chain order (`readStringArray_marshalStrings`). For the
empty chain the slice is nil and the text is `null`, which is not an array.

The reader of JSON arrays here follows the JSON grammar for arrays of strings without
escapes or blanks, which is all `json.Marshal` writes for such strings.
-/

namespace Notation.Sign
open Go

/-! ## Reading a JSON array of plain strings -/

/-- A JSON string literal with no escape in it: a quote, characters other than a quote
and a backslash, a quote. -/
def unquote : List Char → Option String
  | '"' :: rest =>
    if rest.getLast? = some '"' ∧ ∀ c ∈ rest.dropLast, c ≠ '"' ∧ c ≠ '\\' then some ⟨rest.dropLast⟩
    else none
  | _ => none

/-- A JSON array of such string literals, with no blanks and no commas inside the
strings: the strings, or `none` for any other text. -/
def readStringArray (text : String) : Option (List String) :=
  match text.data with
  | '[' :: rest =>
    if rest.getLast? = some ']' then
      if rest.dropLast = [] then some [] else (rest.dropLast.splitOn ',').mapM unquote
    else none
  | _ => none

example : readStringArray "[\"ab\",\"cd\"]" = some ["ab", "cd"] := by decide

/-- A string that a JSON string literal holds as it is, and that has no comma. -/
def Plain (s : String) : Prop := ∀ c ∈ s.data, c ≠ '"' ∧ c ≠ '\\' ∧ c ≠ ','

theorem list_intercalate_cons {α : Type} (sep x : List α) (xs : List (List α)) :
    sep.intercalate (x :: xs) = x ++ (xs.map (sep ++ ·)).flatten := by
  induction xs generalizing x with
  | nil => simp [List.intercalate]
  | cons y ys ih =>
    rw [show sep.intercalate (x :: y :: ys) = x ++ sep ++ sep.intercalate (y :: ys) by
      simp [List.intercalate, List.intersperse_cons_cons], ih]
    simp

theorem data_intercalate (sep : String) (l : List String) :
    (sep.intercalate l).data = sep.data.intercalate (l.map String.data) := by
  have go : ∀ (acc : String) (l : List String), (String.intercalate.go acc sep l).data =
      acc.data ++ (l.map fun a => sep.data ++ a.data).flatten := by
    intro acc l
    induction l generalizing acc with
    | nil => simp [String.intercalate.go]
    | cons a l ih => simp [String.intercalate.go, ih]
  cases l with
  | nil => rfl
  | cons a l =>
    simp [String.intercalate, go, list_intercalate_cons]
    rfl

theorem unquote_quote {s : String} (h : Plain s) : unquote ('"' :: (s.data ++ ['"'])) = some s := by
  have hplain : ∀ c ∈ s.data, c ≠ '"' ∧ c ≠ '\\' := fun c hc => ⟨(h c hc).1, (h c hc).2.1⟩
  simpa [unquote] using hplain

/-- **`json.Marshal` of plain strings reads back**: the text of a non-empty list of
plain strings is a JSON array of those strings, in order. -/
theorem readStringArray_marshalStrings {l : List String} (hne : l ≠ []) (h : ∀ s ∈ l, Plain s) :
    readStringArray (marshalStrings l) = some l := by
  have hquoted : (",".intercalate (l.map fun s => "\"" ++ s ++ "\"")).data =
      [','].intercalate (l.map fun s => '"' :: (s.data ++ ['"'])) := by
    rw [data_intercalate, List.map_map]
    rfl
  have hsplit : ([','].intercalate (l.map fun s => '"' :: (s.data ++ ['"']))).splitOn ',' =
      l.map fun s => '"' :: (s.data ++ ['"']) := by
    refine List.splitOn_intercalate _ ',' ?_ (by simpa using hne)
    simp only [List.mem_map, forall_exists_index, and_imp, forall_apply_eq_imp_iff₂]
    intro s hs
    simpa using fun hc => (h s hs ',' hc).2.2 rfl
  have hbody : [','].intercalate (l.map fun s => '"' :: (s.data ++ ['"'])) ≠ [] := fun h0 => by
    rw [h0] at hsplit
    obtain ⟨s, l', rfl⟩ := List.exists_cons_of_ne_nil hne
    simp at hsplit
  have hmapM : ∀ l : List String, (∀ s ∈ l, Plain s) →
      (l.map fun s => '"' :: (s.data ++ ['"'])).mapM unquote = some l := by
    intro l h
    induction l with
    | nil => rfl
    | cons s l ih =>
      rw [List.map_cons, List.mapM_cons, unquote_quote (h s (List.mem_cons_self _ _)),
        ih fun s' hs' => h s' (List.mem_cons_of_mem _ hs')]
      rfl
  simp only [marshalStrings, hne, if_false, readStringArray, String.data_append, hquoted,
    List.append_assoc, List.singleton_append, List.cons_append, List.nil_append,
    List.getLast?_concat, List.dropLast_concat, if_true, hbody, hsplit, hmapM l h]

/-! ## Thumbprints -/

theorem digitChar_lowerHex : ∀ n < 16, Nat.digitChar n ∈ "0123456789abcdef".data := by
  decide

/-- `hex.EncodeToString` writes lowercase hex digits only. -/
theorem hexEncode_lowerHex (b : Bytes) : ∀ c ∈ (hexEncode b).data, c ∈ "0123456789abcdef".data := by
  simp only [hexEncode, String.data_join, List.mem_flatten, List.mem_map, exists_exists_and_eq_and]
  rintro c ⟨x, -, hc⟩
  simp only [hexByte, List.mem_cons, List.not_mem_nil, or_false] at hc
  rcases hc with rfl | rfl <;> exact digitChar_lowerHex _ (Nat.mod_lt _ (by decide))

theorem hexEncode_plain (b : Bytes) : Plain (hexEncode b) := fun c hc => by
  have hdigits : ∀ d ∈ "0123456789abcdef".data, d ≠ '"' ∧ d ≠ '\\' ∧ d ≠ ',' := by decide
  exact hdigits c (hexEncode_lowerHex b c hc)

/-! ## The annotations `generateAnnotations` returns -/

/-- **The thumbprint annotation**: `generateAnnotations` returns the plugin's annotations
with the one key `io.cncf.notary.x509chain.thumbprint#S256` added or overwritten and every
other key as it was. For a chain of one certificate or more the key's value is a JSON
array of strings whose `i`-th element is `hex.EncodeToString` of the SHA-256 of the
`i`-th certificate's DER bytes, leaf first; for the empty chain it is `null`. Every
thumbprint is lowercase hex. -/
theorem generateAnnotations_spec (sha256 : Bytes → Bytes) (chain : List Certificate)
    (annotations : StrMap) :
    (∀ k, k ∈ generateAnnotations sha256 ⟨chain⟩ annotations ↔
      k = annotationX509ChainThumbprint ∨ k ∈ annotations) ∧
    (∀ k, k ≠ annotationX509ChainThumbprint →
      (generateAnnotations sha256 ⟨chain⟩ annotations).lookup k = annotations.lookup k) ∧
    ∃ value, (generateAnnotations sha256 ⟨chain⟩ annotations).lookup annotationX509ChainThumbprint =
        some value ∧
      (chain = [] ∧ value = "null" ∨
        chain ≠ [] ∧ readStringArray value = some (chain.map fun cert => hexEncode (sha256 cert.raw))) ∧
      ∀ cert ∈ chain, ∀ c ∈ (hexEncode (sha256 cert.raw)).data, c ∈ "0123456789abcdef".data := by
  refine ⟨fun k => Finmap.mem_insert, fun k hk => Finmap.lookup_insert_of_ne _ hk,
    marshalStrings (chain.map fun cert : Certificate => hexEncode (sha256 cert.raw)), Finmap.lookup_insert _, ?_,
    fun cert _ => hexEncode_lowerHex _⟩
  rcases chain with _ | ⟨cert, chain⟩
  · exact .inl ⟨rfl, rfl⟩
  · refine .inr ⟨List.cons_ne_nil _ _, readStringArray_marshalStrings (by simp) ?_⟩
    simp only [List.mem_map]
    rintro _ ⟨c, -, rfl⟩
    exact hexEncode_plain _

/-- For the empty chain the thumbprint annotation is `null`, which is not a JSON array:
the empty array would be `[]`. -/
theorem generateAnnotations_empty_chain :
    (generateAnnotations id ⟨[]⟩ ∅).lookup annotationX509ChainThumbprint = some "null" ∧
      readStringArray "null" = none ∧ readStringArray "[]" = some [] :=
  ⟨Finmap.lookup_insert _, by decide, by decide⟩

end Notation.Sign
