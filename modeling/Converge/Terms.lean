import Mathlib.Data.List.Basic

/-!
# Dotted terms

`SplitTerms`, `JoinTerms`, `Inits`, `Prefixes` and `Find` of `render/preprocessor`. A Go string is
modelled by its characters: `.` is a single byte in UTF-8, so splitting on it, and slicing just
past a prefix that ends before a `.`, give the same strings on bytes as on characters.

`splitTerms_eq_iff` is the round trip of `SplitTerms` and `JoinTerms`. The main facts about
`Prefixes` are `mem_prefixes` (the prefixes are exactly the dotted prefixes),
`prefixes_pairwise` (longest first) and `prefixes_eq_slices` (the string, then its slices before
each dot from the last to the first), all by `dot_induction` on the last dot of a string.
-/

namespace Converge.Preprocessor

/-- `SplitTerms`: `strings.Split(in, ".")`, which keeps the empty terms around adjacent dots. -/
def splitTerms (s : String) : List String :=
  (s.data.splitOn '.').map String.mk

/-- `JoinTerms`: `strings.Join(s, ".")`. -/
def joinTerms (terms : List String) : String :=
  ⟨['.'].intercalate (terms.map String.data)⟩

/-- `Inits`: the loop prepends `in[0:i+1]`, so the longest head comes first. -/
def inits (terms : List String) : List (List String) :=
  (List.range terms.length).foldl (fun results i => terms.take (i + 1) :: results) []

/-- `Prefixes`: `Inits` of the terms, each joined again. -/
def prefixes (s : String) : List String :=
  (inits (splitTerms s)).map joinTerms

/-- `Find`: the first element of `slice` that `f` accepts. -/
def find (slice : List String) (f : String → Bool) : String × Bool :=
  match slice with
  | [] => ("", false)
  | elem :: rest => if f elem then (elem, true) else find rest f

/-- `p` is `s` itself, or `s[0:j]` for an index `j` with `s[j] = '.'`. -/
def DottedPrefix (p s : String) : Prop :=
  p = s ∨ ∃ rest, s = p ++ "." ++ rest

/-! ## Splitting and joining -/

private theorem splitOn_append_dot {u t : List Char} (noDot : '.' ∉ t) :
    (u ++ '.' :: t).splitOn '.' = u.splitOn '.' ++ [t] := by
  simp only [List.splitOn]
  induction u with
  | nil =>
      rw [List.nil_append, List.splitOnP_cons, List.splitOnP_eq_single _ _
        (fun c member dot => noDot (by simpa [(beq_iff_eq.mp dot)] using member))]
      simp
  | cons c u ih =>
      rw [List.cons_append, List.splitOnP_cons, List.splitOnP_cons, ih]
      split
      · rfl
      · obtain ⟨head, rest, split⟩ := List.exists_cons_of_ne_nil (List.splitOnP_ne_nil
          (· == '.') u)
        simp [split]

private theorem dot_not_mem_of_mem_splitOn {l t : List Char} (member : t ∈ l.splitOn '.') :
    '.' ∉ t := by
  simp only [List.splitOn] at member
  induction l generalizing t with
  | nil => simp_all
  | cons c l ih =>
      rw [List.splitOnP_cons] at member
      obtain ⟨head, rest, split⟩ := List.exists_cons_of_ne_nil (List.splitOnP_ne_nil
        (· == '.') l)
      by_cases dot : c = '.'
      · simp only [dot, beq_self_eq_true, if_true, List.mem_cons] at member
        rcases member with rfl | member
        · simp
        · exact ih member
      · simp only [beq_iff_eq, dot, if_false, split, List.modifyHead_cons, List.mem_cons] at member
        rcases member with rfl | member
        · have noDot := ih (by rw [split]; exact List.mem_cons_self _ _)
          simp [noDot, Ne.symm dot]
        · exact ih (by rw [split]; exact List.mem_cons_of_mem _ member)

theorem splitTerms_ne_nil (s : String) : splitTerms s ≠ [] := by
  simpa [splitTerms] using List.splitOnP_ne_nil _ s.data

theorem joinTerms_splitTerms (s : String) : joinTerms (splitTerms s) = s := by
  simp [joinTerms, splitTerms, Function.comp_def, List.intercalate_splitOn]

theorem dot_not_mem_of_mem_splitTerms {s t : String} (member : t ∈ splitTerms s) :
    '.' ∉ t.data := by
  obtain ⟨t, inSplit, rfl⟩ := List.mem_map.mp member
  exact dot_not_mem_of_mem_splitOn inSplit

theorem splitTerms_joinTerms {terms : List String} (nonempty : terms ≠ [])
    (noDot : ∀ t ∈ terms, '.' ∉ t.data) : splitTerms (joinTerms terms) = terms := by
  simp only [splitTerms, joinTerms]
  rw [List.splitOn_intercalate _ '.' (by simpa using noDot) (by simpa using nonempty)]
  simp [Function.comp_def]

theorem splitTerms_eq_iff (s : String) (terms : List String) :
    splitTerms s = terms ↔ terms ≠ [] ∧ (∀ t ∈ terms, '.' ∉ t.data) ∧ joinTerms terms = s := by
  constructor
  · rintro rfl
    exact ⟨splitTerms_ne_nil s, fun _ => dot_not_mem_of_mem_splitTerms, joinTerms_splitTerms s⟩
  · rintro ⟨nonempty, noDot, rfl⟩
    exact splitTerms_joinTerms nonempty noDot

theorem splitTerms_of_not_dot {s : String} (noDot : '.' ∉ s.data) : splitTerms s = [s] := by
  simp only [splitTerms, List.splitOn]
  rw [List.splitOnP_eq_single _ _ (fun c member dot => noDot (by simpa [beq_iff_eq.mp dot]
    using member))]
  rfl

theorem splitTerms_append_dot {u t : String} (noDot : '.' ∉ t.data) :
    splitTerms (u ++ "." ++ t) = splitTerms u ++ [t] := by
  have split : (u.data ++ '.' :: t.data).splitOn '.' = u.data.splitOn '.' ++ [t.data] :=
    splitOn_append_dot noDot
  simp only [splitTerms, String.data_append, List.append_assoc]
  simp [split]

/-! ## The last dot of a string -/

theorem exists_last_dot {l : List Char} (dot : '.' ∈ l) : ∃ u t, '.' ∉ t ∧ l = u ++ '.' :: t := by
  induction l with
  | nil => simp at dot
  | cons c l ih =>
      by_cases later : '.' ∈ l
      · obtain ⟨u, t, noDot, rfl⟩ := ih later
        exact ⟨c :: u, t, noDot, rfl⟩
      · have : c = '.' := by simpa [later, eq_comm] using dot
        exact ⟨[], l, later, by simp [this]⟩

theorem dot_induction {motive : String → Prop} (noDot : ∀ s, '.' ∉ s.data → motive s)
    (lastDot : ∀ u t, '.' ∉ t.data → motive u → motive (u ++ "." ++ t)) (s : String) :
    motive s := by
  suffices ∀ n, ∀ s : String, s.data.length = n → motive s from this _ s rfl
  intro n
  induction n using Nat.strong_induction_on with
  | _ n ih =>
      intro s size
      by_cases dot : '.' ∈ s.data
      · obtain ⟨u, t, noDotT, split⟩ := exists_last_dot dot
        have shape : s = ⟨u⟩ ++ "." ++ ⟨t⟩ := String.ext (by simpa using split)
        rw [shape]
        exact lastDot _ _ noDotT (ih u.length (by rw [← size, split]; simp) ⟨u⟩ rfl)
      · exact noDot s dot

/-! ## `Inits` and `Prefixes` -/

private theorem foldl_range_cons (g : Nat → List String) (n : Nat)
    (acc : List (List String)) :
    (List.range n).foldl (fun results i => g i :: results) acc =
      (List.range n).reverse.map g ++ acc := by
  induction n generalizing acc with
  | zero => rfl
  | succ n ih => simp [List.range_succ, ih]

theorem inits_append_singleton (terms : List String) (t : String) :
    inits (terms ++ [t]) = (terms ++ [t]) :: inits terms := by
  rw [inits, inits, foldl_range_cons, foldl_range_cons]
  simp only [List.append_nil, List.length_append, List.length_singleton, List.range_succ,
    List.reverse_append, List.reverse_singleton, List.singleton_append, List.map_cons]
  congr 1
  · exact List.take_of_length_le (by simp)
  · apply List.map_congr_left
    intro i member
    exact List.take_append_of_le_length (List.mem_range.mp (List.mem_reverse.mp member))

theorem prefixes_of_not_dot {s : String} (noDot : '.' ∉ s.data) : prefixes s = [s] := by
  have single := inits_append_singleton [] s
  simp only [List.nil_append, show inits [] = [] from rfl] at single
  simp only [prefixes, splitTerms_of_not_dot noDot, single, List.map_cons, List.map_nil]
  exact congrArg (· :: []) (String.ext (by simp [joinTerms, List.intercalate]))

theorem prefixes_append_dot {u t : String} (noDot : '.' ∉ t.data) :
    prefixes (u ++ "." ++ t) = (u ++ "." ++ t) :: prefixes u := by
  have whole := joinTerms_splitTerms (u ++ "." ++ t)
  rw [splitTerms_append_dot noDot] at whole
  simp only [prefixes, splitTerms_append_dot noDot, inits_append_singleton, List.map_cons, whole]

/-! ## Dotted prefixes -/

@[simp] theorem data_dot : ".".data = ['.'] := rfl

@[simp] theorem length_dot : ".".length = 1 := rfl

theorem DottedPrefix.refl (s : String) : DottedPrefix s s := .inl rfl

theorem DottedPrefix.length_le {p s : String} (dotted : DottedPrefix p s) :
    p.length ≤ s.length := by
  rcases dotted with rfl | ⟨rest, rfl⟩
  · rfl
  · simp only [String.length_append]
    omega

theorem dottedPrefix_of_not_dot {p s : String} (noDot : '.' ∉ s.data) :
    DottedPrefix p s ↔ p = s := by
  refine ⟨?_, .inl⟩
  rintro (same | ⟨rest, rfl⟩)
  · exact same
  · simp at noDot

theorem dottedPrefix_append_dot {p u t : String} (noDot : '.' ∉ t.data) :
    DottedPrefix p (u ++ "." ++ t) ↔ p = u ++ "." ++ t ∨ DottedPrefix p u := by
  constructor
  · rintro (same | ⟨rest, split⟩)
    · exact .inl same
    · have split := congrArg String.data split
      simp only [String.data_append, data_dot, List.append_assoc, List.singleton_append] at split
      rcases List.append_eq_append_iff.mp split with ⟨a, pData, tail⟩ | ⟨c, uData, tail⟩
      · cases a with
        | nil => exact .inr (.inl (String.ext (by simpa using pData)))
        | cons x a =>
            simp only [List.cons_append, List.cons.injEq] at tail
            exact absurd (by simp [tail.2]) noDot
      · cases c with
        | nil => exact .inr (.inl (String.ext (by simpa using uData.symm)))
        | cons x c =>
            simp only [List.cons_append, List.cons.injEq] at tail
            exact .inr (.inr ⟨⟨c⟩, String.ext (by simp [uData, ← tail.1])⟩)
  · rintro (same | (same | ⟨rest, rfl⟩))
    · exact .inl same
    · exact .inr ⟨t, by rw [same]⟩
    · exact .inr ⟨rest ++ "." ++ t, String.ext (by simp)⟩

theorem DottedPrefix.of_length_le {p q s : String} (dp : DottedPrefix p s)
    (dq : DottedPrefix q s) (shorter : p.length ≤ q.length) : DottedPrefix p q := by
  rcases dq with rfl | ⟨r, rfl⟩
  · exact dp
  rcases dp with same | ⟨r', split⟩
  · have := congrArg String.length same
    simp only [String.length_append, length_dot] at this
    omega
  · have split := congrArg String.data split
    simp only [String.data_append, data_dot, List.append_assoc, List.singleton_append] at split
    rcases List.append_eq_append_iff.mp split with ⟨a, pData, -⟩ | ⟨c, qData, tail⟩
    · cases a with
      | nil => exact .inl (String.ext (by simpa using pData))
      | cons x a =>
          have := congrArg List.length pData
          simp only [List.length_append, List.length_cons] at this
          exact absurd shorter (show ¬p.data.length ≤ q.data.length by omega)
    · cases c with
      | nil => exact .inl (String.ext (by simpa using qData.symm))
      | cons x c =>
          simp only [List.cons_append, List.cons.injEq] at tail
          exact .inr ⟨⟨c⟩, String.ext (by simp [qData, ← tail.1])⟩

theorem mem_prefixes {p s : String} : p ∈ prefixes s ↔ DottedPrefix p s := by
  induction s using dot_induction with
  | noDot s noDot => simp [prefixes_of_not_dot noDot, dottedPrefix_of_not_dot noDot]
  | lastDot u t noDot ih => simp [prefixes_append_dot noDot, dottedPrefix_append_dot noDot, ih]

theorem prefixes_pairwise (s : String) :
    (prefixes s).Pairwise (fun a b => b.length < a.length) := by
  induction s using dot_induction with
  | noDot s noDot => simp [prefixes_of_not_dot noDot]
  | lastDot u t noDot ih =>
      rw [prefixes_append_dot noDot]
      refine List.Pairwise.cons (fun b member => ?_) ih
      have shorter := (mem_prefixes.mp member).length_le
      simp only [String.length_append, length_dot]
      omega

/-! ## The dots of a string -/

/-- The indices `j` with `s[j] = '.'`, in increasing order. -/
def dotIndices (s : String) : List Nat :=
  (List.range s.length).filter fun j => s.data[j]? = some '.'

theorem dotIndices_of_not_dot {s : String} (noDot : '.' ∉ s.data) : dotIndices s = [] := by
  refine List.filter_eq_nil_iff.mpr fun j _ => ?_
  simpa using fun dot => noDot (List.mem_iff_getElem?.mpr ⟨j, dot⟩)

theorem dotIndices_append_dot {u t : String} (noDot : '.' ∉ t.data) :
    dotIndices (u ++ "." ++ t) = dotIndices u ++ [u.length] := by
  have data : (u ++ "." ++ t).data = u.data ++ '.' :: t.data := by simp
  have length : u.length = u.data.length := rfl
  have later : ((List.range t.length).map (u.length + 1 + ·)).filter
      (fun j => (u.data ++ '.' :: t.data)[j]? = some '.') = [] := by
    refine List.filter_eq_nil_iff.mpr fun j member => ?_
    obtain ⟨i, -, rfl⟩ := List.mem_map.mp member
    rw [length, List.getElem?_append_right (by omega),
      show u.data.length + 1 + i - u.data.length = i + 1 by omega, List.getElem?_cons_succ]
    simpa using fun dot => noDot (List.mem_iff_getElem?.mpr ⟨i, dot⟩)
  have dot : (u.data ++ '.' :: t.data)[u.length]? = some '.' := by
    rw [length, List.getElem?_append_right (le_refl _), Nat.sub_self, List.getElem?_cons_zero]
  simp only [dotIndices, String.length_append, length_dot, List.range_add, List.filter_append,
    data, List.append_assoc, later, List.append_nil]
  congr 1
  · refine List.filter_congr fun j member => ?_
    rw [List.getElem?_append_left (length ▸ List.mem_range.mp member)]
  · rw [show List.range 1 = [0] from rfl]
    simp only [List.map_cons, List.map_nil, Nat.add_zero, List.filter_cons, dot,
      List.filter_nil, decide_True, if_true]

theorem take_append_dot {u t : String} {j : Nat} (short : j ≤ u.length) :
    (⟨(u ++ "." ++ t).data.take j⟩ : String) = ⟨u.data.take j⟩ := by
  simp [List.take_append_of_le_length (show j ≤ u.data.length from short)]

theorem prefixes_eq_slices (s : String) :
    prefixes s = s :: (dotIndices s).reverse.map fun j => ⟨s.data.take j⟩ := by
  induction s using dot_induction with
  | noDot s noDot => simp [prefixes_of_not_dot noDot, dotIndices_of_not_dot noDot]
  | lastDot u t noDot ih =>
    rw [prefixes_append_dot noDot, ih, dotIndices_append_dot noDot]
    simp only [List.reverse_append, List.reverse_singleton, List.singleton_append, List.map_cons]
    congr 2
    · rw [take_append_dot (le_refl _)]
      exact String.ext (List.take_of_length_le (le_refl _)).symm
    · refine List.map_congr_left fun j member => (take_append_dot ?_).symm
      exact (List.mem_range.mp (List.mem_filter.mp (List.mem_reverse.mp member)).1).le

theorem length_prefixes (s : String) : (prefixes s).length = s.data.count '.' + 1 := by
  induction s using dot_induction with
  | noDot s noDot => simp [prefixes_of_not_dot noDot, List.count_eq_zero.mpr noDot]
  | lastDot u t noDot ih =>
    simp [prefixes_append_dot noDot, ih, List.count_append, List.count_eq_zero.mpr noDot]

theorem prefixes_spec (s : String) :
    prefixes s = s :: (dotIndices s).reverse.map (fun j => ⟨s.data.take j⟩) ∧
      (prefixes s).length = s.data.count '.' + 1 ∧ (prefixes s).Nodup ∧
      (prefixes s).Pairwise (fun a b => b.length < a.length) ∧
      ∀ p, p ∈ prefixes s ↔ DottedPrefix p s :=
  ⟨prefixes_eq_slices s, length_prefixes s,
    (prefixes_pairwise s).imp fun shorter same => shorter.ne' (congrArg String.length same),
    prefixes_pairwise s, fun _ => mem_prefixes⟩

/-- The example of the source's comment, which writes the third prefix as "a.b.". -/
example : prefixes "a.b.c.d" = ["a.b.c.d", "a.b.c", "a.b", "a"] := by decide

/-! ## `Find` -/

theorem find_not_found {slice : List String} {f : String → Bool}
    (missing : (find slice f).2 = false) :
    find slice f = ("", false) ∧ ∀ q ∈ slice, f q = false := by
  induction slice with
  | nil => simp [find]
  | cons elem rest ih =>
      by_cases accepted : f elem
      · simp [find, accepted] at missing
      · simp only [find, accepted] at missing ⊢
        simpa [accepted] using ih missing

theorem find_longest {slice : List String} {f : String → Bool} {p : String}
    (decreasing : slice.Pairwise (fun a b => b.length < a.length))
    (found : find slice f = (p, true)) :
    p ∈ slice ∧ f p = true ∧ ∀ q ∈ slice, f q = true → q.length ≤ p.length := by
  induction slice with
  | nil => simp [find] at found
  | cons elem rest ih =>
      obtain ⟨first, decreasing⟩ := List.pairwise_cons.mp decreasing
      by_cases accepted : f elem
      · simp only [find, accepted, if_true, Prod.mk.injEq, and_true] at found
        subst found
        refine ⟨List.mem_cons_self _ _, accepted, fun q member _ => ?_⟩
        rcases List.mem_cons.mp member with rfl | later
        · rfl
        · exact (first q later).le
      · simp only [find, accepted] at found
        obtain ⟨member, accepts, longest⟩ := ih decreasing found
        refine ⟨List.mem_cons_of_mem _ member, accepts, fun q member' accepted' => ?_⟩
        rcases List.mem_cons.mp member' with rfl | later
        · exact absurd accepted' accepted
        · exact longest q later accepted'

theorem find_found {slice : List String} {f : String → Bool}
    (found : (find slice f).2 = true) : find slice f = ((find slice f).1, true) := by
  rw [← found]

end Converge.Preprocessor
