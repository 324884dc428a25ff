import Mathlib.Data.List.DropRight
import Mathlib.Data.List.Basic

/-!
# `path/filepath` on Unix

`Base`, `Dir` and `Join` as the standard library computes them, and `Clean` by the
rules its documentation states: separators collapse, `.` elements go, each `..` takes
the element before it (or, at the start, stays in a relative path and goes in a rooted
one), and an empty result is `.`. Paths are read as character lists.

For a path made of elements that `Clean` keeps as they are, `Base` is the last
element and `Base (Dir path)` the one before it (`base_ofElements`, `dir_ofElements`).
-/

namespace Notation.Go.Filepath

/-- `filepath.Base`: the last element, trailing separators dropped; `.` for the empty
path and `/` for a path of separators only. -/
def base (path : String) : String :=
  if path = "" then "."
  else
    let p := (path.data.rdropWhile (· = '/')).rtakeWhile (· ≠ '/')
    if p = [] then "/" else ⟨p⟩

/-- One element in `Clean`, onto the elements kept so far (last first). -/
def cleanStep (rooted : Bool) (kept : List (List Char)) (e : List Char) : List (List Char) :=
  if e = [] ∨ e = ['.'] then kept
  else if e = ['.', '.'] then
    match kept with
    | top :: rest => if top = ['.', '.'] then e :: kept else rest
    | [] => if rooted then [] else [e]
  else e :: kept

/-- `filepath.Clean`. -/
def clean (path : String) : String :=
  if path = "" then "."
  else
    let rooted := path.data.head? = some '/'
    let body := ['/'].intercalate ((path.data.splitOn '/').foldl (cleanStep rooted) []).reverse
    if rooted then ⟨'/' :: body⟩ else if body = [] then "." else ⟨body⟩

/-- `filepath.Dir`: `Clean` of everything up to the last separator. -/
def dir (path : String) : String := clean ⟨path.data.rdropWhile (· ≠ '/')⟩

/-- `filepath.Join` of two elements: the empty ones ignored, the rest joined and
cleaned. -/
def join (a b : String) : String :=
  if a = "" then (if b = "" then "" else clean b)
  else if b = "" then clean a else clean (a ++ "/" ++ b)

/-- `filepath.Join`: the elements from the first non-empty one joined by separators and
cleaned, or the empty path when every element is empty. -/
def joinList (elem : List String) : String :=
  match elem.dropWhile (· = "") with
  | [] => ""
  | elems => clean ⟨['/'].intercalate (elems.map String.data)⟩

/-! ## Paths whose elements are kept as they are -/

/-- A path element that `Clean` keeps as it is. -/
structure Element (e : String) : Prop where
  ne_nil : e.data ≠ []
  no_sep : '/' ∉ e.data
  ne_dot : e.data ≠ ['.']
  ne_dotdot : e.data ≠ ['.', '.']

instance (e : String) : Decidable (Element e) :=
  decidable_of_iff (e.data ≠ [] ∧ '/' ∉ e.data ∧ e.data ≠ ['.'] ∧ e.data ≠ ['.', '.'])
    ⟨fun ⟨a, b, c, d⟩ => ⟨a, b, c, d⟩, fun ⟨a, b, c, d⟩ => ⟨a, b, c, d⟩⟩

/-- The path with the elements `elems`, from the root when `rooted`. -/
def ofElements (rooted : Bool) (elems : List String) : String :=
  ⟨(if rooted then ['/'] else []) ++ ['/'].intercalate (elems.map String.data)⟩

theorem intercalate_cons_cons (x y : List Char) (ys : List (List Char)) :
    ['/'].intercalate (x :: y :: ys) = x ++ '/' :: ['/'].intercalate (y :: ys) := by
  simp [List.intercalate, List.intersperse_cons_cons]

@[simp] theorem intercalate_one (x : List Char) : ['/'].intercalate [x] = x := by
  simp [List.intercalate]

theorem intercalate_append (xs ys : List (List Char)) (hxs : xs ≠ []) (hys : ys ≠ []) :
    ['/'].intercalate (xs ++ ys) = ['/'].intercalate xs ++ '/' :: ['/'].intercalate ys := by
  induction xs with
  | nil => exact absurd rfl hxs
  | cons x xs ih =>
    obtain ⟨y, ys, rfl⟩ := List.exists_cons_of_ne_nil hys
    cases xs with
    | nil => simp [intercalate_cons_cons]
    | cons x' xs =>
      rw [List.cons_append, List.cons_append, intercalate_cons_cons, ← List.cons_append,
        ih (List.cons_ne_nil _ _), intercalate_cons_cons]
      simp

theorem intercalate_concat (es : List (List Char)) (hes : es ≠ []) (n : List Char) :
    ['/'].intercalate (es ++ [n]) = ['/'].intercalate es ++ '/' :: n := by
  simpa using intercalate_append es [n] hes (List.cons_ne_nil _ _)

theorem rdropWhile_append_of_all {p : Char → Bool} (l m : List Char) (h : ∀ x ∈ m, p x) :
    (l ++ m).rdropWhile p = l.rdropWhile p := by
  simp only [List.rdropWhile, List.reverse_append,
    List.dropWhile_append_of_pos fun a ha => h a (List.mem_reverse.1 ha)]

/-- `Base` of a path ending in the element `n` after a separator, or made of it alone. -/
theorem base_append {pre n : List Char} (hpre : pre = [] ∨ pre.getLast? = some '/')
    (hn : n ≠ []) (hsep : '/' ∉ n) : base ⟨pre ++ n⟩ = ⟨n⟩ := by
  have hnot : ∀ c ∈ n, c ≠ '/' := fun c hc h => hsep (h ▸ hc)
  have hlast : (pre ++ n).getLast (by simp [hn]) ≠ '/' :=
    hnot _ (by rw [List.getLast_append_of_ne_nil hn]; exact List.getLast_mem hn)
  have hdrop : (pre ++ n).rdropWhile (· = '/') = pre ++ n :=
    List.rdropWhile_eq_self_iff.2 fun _ => by simpa using hlast
  have htake : (pre ++ n).rtakeWhile (· ≠ '/') = n := by
    rcases hpre with rfl | hpre
    · exact List.rtakeWhile_eq_self_iff.2 fun c hc => by simpa using hnot c hc
    · obtain ⟨pre, rfl⟩ : ∃ l, pre = l ++ ['/'] :=
        ⟨pre.dropLast, (List.dropLast_append_getLast? _ hpre).symm⟩
      have hrev : ∀ c ∈ n.reverse, decide (c ≠ '/') = true := fun c hc =>
        decide_eq_true (hnot c (List.mem_reverse.1 hc))
      rw [List.rtakeWhile, List.reverse_append, List.takeWhile_append_of_pos hrev]
      simp
  have hne : (⟨pre ++ n⟩ : String) ≠ "" := fun h => hn (List.append_eq_nil.1 (congrArg String.data h)).2
  simp only [base, hne, if_false, hdrop, htake, hn]

/-- The character lists of kept elements. -/
def Kept (es : List (List Char)) : Prop :=
  ∀ e ∈ es, e ≠ [] ∧ '/' ∉ e ∧ e ≠ ['.'] ∧ e ≠ ['.', '.']

theorem kept_map_data {elems : List String} (h : ∀ e ∈ elems, Element e) :
    Kept (elems.map String.data) := by
  simp only [Kept, List.mem_map, forall_exists_index, and_imp, forall_apply_eq_imp_iff₂]
  exact fun e he => ⟨(h e he).ne_nil, (h e he).no_sep, (h e he).ne_dot, (h e he).ne_dotdot⟩

theorem foldl_cleanStep (rooted : Bool) {es : List (List Char)} (hes : Kept es)
    (kept : List (List Char)) : es.foldl (cleanStep rooted) kept = es.reverse ++ kept := by
  induction es generalizing kept with
  | nil => rfl
  | cons e es ih =>
    obtain ⟨hn, -, hd, hdd⟩ := hes e (List.mem_cons_self _ _)
    simp [cleanStep, hn, hd, hdd, ih (fun e' he' => hes e' (List.mem_cons_of_mem _ he'))]

theorem intercalate_cons_append (x : List Char) (xs : List (List Char)) :
    ∃ t, ['/'].intercalate (x :: xs) = x ++ t := by
  cases xs with
  | nil => exact ⟨[], by simp⟩
  | cons y ys => exact ⟨_, intercalate_cons_cons x y ys⟩

/-- `Clean` keeps a path of kept elements as it is, and drops a trailing separator. -/
theorem clean_kept (rooted trailing : Bool) {es : List (List Char)} (hne : es ≠ []) (hes : Kept es) :
    clean ⟨(if rooted then ['/'] else []) ++ ['/'].intercalate es ++ (if trailing then ['/'] else [])⟩ =
      ⟨(if rooted then ['/'] else []) ++ ['/'].intercalate es⟩ := by
  obtain ⟨e, es', rfl⟩ := List.exists_cons_of_ne_nil hne
  obtain ⟨hn, hs, -⟩ := hes e (List.mem_cons_self _ _)
  obtain ⟨c, cs, rfl⟩ := List.exists_cons_of_ne_nil hn
  obtain ⟨t, ht⟩ := intercalate_cons_append (c :: cs) es'
  have hc : c ≠ '/' := fun h => hs (h ▸ List.mem_cons_self _ _)
  -- the segments between separators: the root's, the elements, the trailing one's
  have hjoin : (if rooted then ['/'] else []) ++ ['/'].intercalate ((c :: cs) :: es') ++
      (if trailing then ['/'] else []) = ['/'].intercalate
        ((if rooted then [[]] else []) ++ (c :: cs) :: es' ++ (if trailing then [[]] else [])) := by
    cases trailing
    · cases rooted <;> simp [intercalate_cons_cons]
    · rw [if_pos rfl, if_pos rfl, intercalate_concat _ (by cases rooted <;> simp) []]
      cases rooted <;> simp [intercalate_cons_cons]
  have hsplit : (['/'].intercalate ((if rooted then [[]] else []) ++ (c :: cs) :: es' ++
      (if trailing then [[]] else []))).splitOn '/' =
      (if rooted then [[]] else []) ++ (c :: cs) :: es' ++ (if trailing then [[]] else []) := by
    refine List.splitOn_intercalate _ '/' (fun l hl => ?_) (by cases rooted <;> simp)
    simp only [List.mem_append, List.mem_cons] at hl
    rcases hl with (hl | rfl | hl) | hl
    · cases rooted <;> simp_all
    · exact hs
    · exact (hes l (List.mem_cons_of_mem _ hl)).2.1
    · cases trailing <;> simp_all
  have hbody : ['/'].intercalate (((if rooted then [[]] else []) ++ (c :: cs) :: es' ++
      (if trailing then [[]] else [])).foldl (cleanStep rooted) []).reverse =
      ['/'].intercalate ((c :: cs) :: es') := by
    rw [List.foldl_append, List.foldl_append, foldl_cleanStep rooted hes]
    cases rooted <;> cases trailing <;> simp [cleanStep]
  have hroot : decide ((['/'].intercalate ((if rooted then [[]] else []) ++ (c :: cs) :: es' ++
      (if trailing then [[]] else []))).head? = some '/') = rooted := by
    rw [← hjoin]
    cases rooted <;> simp [ht, hc]
  have hstr : (⟨['/'].intercalate ((if rooted then [[]] else []) ++ (c :: cs) :: es' ++
      (if trailing then [[]] else []))⟩ : String) ≠ "" := fun h => by
    have h' := congrArg String.data h
    rw [← hjoin] at h'
    simp [ht] at h'
  rw [hjoin]
  obtain ⟨t', ht'⟩ := intercalate_cons_append (c :: cs) (es' ++ if trailing then [[]] else [])
  simp only [clean, hstr, if_false, hroot, hsplit, hbody]
  cases rooted <;> simp [ht, ht', hc, intercalate_cons_cons]

/-- `Clean` keeps a path of kept elements as it is. -/
theorem clean_ofElements (rooted : Bool) {elems : List String} (hne : elems ≠ [])
    (h : ∀ e ∈ elems, Element e) : clean (ofElements rooted elems) = ofElements rooted elems := by
  simpa [ofElements] using clean_kept rooted false (by simpa using hne) (kept_map_data h)

/-- **`Join` onto a path of kept elements** appends the kept elements given. -/
theorem joinList_ofElements (rooted : Bool) {dirElems elems : List String} (hdir : dirElems ≠ [])
    (h : ∀ e ∈ dirElems ++ elems, Element e) :
    joinList (ofElements rooted dirElems :: elems) = ofElements rooted (dirElems ++ elems) := by
  obtain ⟨d, ds, rfl⟩ := List.exists_cons_of_ne_nil hdir
  obtain ⟨t, ht⟩ := intercalate_cons_append d.data (ds.map String.data)
  have hd : d.data ≠ [] := (h d (by simp)).ne_nil
  have hne : ofElements rooted (d :: ds) ≠ "" := fun h' => by
    have := congrArg String.data h'
    cases rooted <;> simp [ofElements, ht, hd] at this
  have hdata : ['/'].intercalate ((ofElements rooted (d :: ds) :: elems).map String.data) =
      (ofElements rooted (d :: ds ++ elems)).data := by
    rcases elems with _ | ⟨e, es⟩
    · simp [ofElements]
    · rw [List.map_cons, List.map_cons, intercalate_cons_cons, ofElements, ofElements, List.map_append,
        intercalate_append _ ((e :: es).map String.data) (by simp) (by simp)]
      simp
  rw [joinList, List.dropWhile_cons_of_neg (by simpa using hne)]
  simp only [hdata]
  exact clean_ofElements rooted (List.cons_ne_nil _ _) h

/-- **`Base` is the last element** of a path of kept elements. -/
theorem base_ofElements (rooted : Bool) (init : List String) (n : String)
    (h : ∀ e ∈ init ++ [n], Element e) : base (ofElements rooted (init ++ [n])) = n := by
  have hn := h n (by simp)
  have hpre : ∀ pre : List Char, pre = [] ∨ pre.getLast? = some '/' →
      (if rooted then ['/'] else []) ++ pre = [] ∨
        ((if rooted then ['/'] else []) ++ pre).getLast? = some '/' := by
    rintro pre (rfl | hp)
    · cases rooted <;> simp
    · exact .inr (by rw [List.getLast?_append, hp]; rfl)
  rcases init.eq_nil_or_concat with rfl | ⟨init, e, rfl⟩
  · have := base_append (hpre [] (.inl rfl)) hn.ne_nil hn.no_sep
    simpa [ofElements] using this
  · have := base_append (hpre (['/'].intercalate ((init ++ [e]).map String.data) ++ ['/'])
      (.inr (by simp))) hn.ne_nil hn.no_sep
    rw [ofElements, List.map_append, List.map_singleton,
      intercalate_concat _ (by simp) n.data]
    simpa using this

/-- **`Dir` drops the last element** of a path of kept elements. -/
theorem dir_ofElements (rooted : Bool) (init : List String) (p n : String)
    (h : ∀ e ∈ init ++ [p, n], Element e) :
    dir (ofElements rooted (init ++ [p, n])) = ofElements rooted (init ++ [p]) := by
  have hn := h n (by simp)
  have hk : Kept ((init ++ [p]).map String.data) :=
    kept_map_data fun e he => h e (by simp at he ⊢; tauto)
  have hnot : ∀ c ∈ n.data, decide (c ≠ '/') = true := fun c hc =>
    decide_eq_true fun h' => hn.no_sep (h' ▸ hc)
  have hdata : (ofElements rooted (init ++ [p, n])).data =
      (if rooted then ['/'] else []) ++ ['/'].intercalate ((init ++ [p]).map String.data) ++ ['/'] ++
        n.data := by
    rw [ofElements, show init ++ [p, n] = (init ++ [p]) ++ [n] by simp, List.map_append,
      List.map_singleton, intercalate_concat _ (by simp) n.data]
    simp
  rw [dir, hdata, rdropWhile_append_of_all _ _ hnot,
    List.rdropWhile_concat_neg (p := fun x => decide (x ≠ '/')) _ _ (by simp)]
  exact clean_kept rooted true (by simp) hk

/-- In a path of at least two kept elements, `Base` is the last and `Base` of `Dir` the
one before it. -/
theorem base_dir_ofElements (rooted : Bool) (init : List String) (p n : String)
    (h : ∀ e ∈ init ++ [p, n], Element e) :
    base (ofElements rooted (init ++ [p, n])) = n ∧ base (dir (ofElements rooted (init ++ [p, n]))) = p := by
  have hinit : init ++ [p, n] = (init ++ [p]) ++ [n] := by simp
  refine ⟨hinit ▸ base_ofElements rooted (init ++ [p]) n (hinit ▸ h), ?_⟩
  rw [dir_ofElements rooted init p n h]
  exact base_ofElements rooted init p fun e he => h e (by simp at he ⊢; tauto)

end Notation.Go.Filepath
