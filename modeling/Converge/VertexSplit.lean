import Converge.Graph
import Converge.Unicode
import Mathlib.Algebra.Group.Nat.Basic

/-!
# `VertexSplit` and `DesugarCall`

`vertexSplit_cases` says once what `VertexSplit` returns: either nothing matched, or the split is
a `LongestSplit`, the longest dotted prefix of the string that is a vertex with the rest after
its dot. The results about `VertexSplit`, `DesugarCall` and `VertexSplitTraverse` all go
through it.
-/

namespace Converge.Preprocessor

/-- The three results of `VertexSplit` and of `VertexSplitTraverse`. -/
structure Split where
  vertex : String
  middle : String
  found : Bool
  deriving DecidableEq, Repr

/-- `VertexSplit`. The slice `s[len(prefix)+1:]` drops the prefix and its dot. -/
def vertexSplit (g : Graph) (s : String) : Split :=
  match find (prefixes s) g.contains with
  | (pfx, found) =>
    if !found then ⟨"", s, false⟩
    else if pfx = s then ⟨pfx, "", true⟩
    else ⟨pfx, ⟨s.data.drop (pfx.length + 1)⟩, true⟩

/-- `split` is the longest-prefix split of `s` in `g`. -/
structure LongestSplit (g : Graph) (s : String) (split : Split) : Prop where
  found : split.found = true
  dotted : DottedPrefix split.vertex s
  contains : g.contains split.vertex = true
  longest : ∀ q, DottedPrefix q s → g.contains q = true → q.length ≤ split.vertex.length
  rest : split.vertex = s ∧ split.middle = "" ∨ s = split.vertex ++ "." ++ split.middle

theorem DottedPrefix.isPrefix {p s : String} (dotted : DottedPrefix p s) :
    p.data <+: s.data := by
  rcases dotted with rfl | ⟨rest, rfl⟩
  · exact List.prefix_refl _
  · exact ⟨'.' :: rest.data, by simp⟩

theorem DottedPrefix.eq_of_length_eq {p q s : String} (dp : DottedPrefix p s)
    (dq : DottedPrefix q s) (same : p.length = q.length) : p = q :=
  String.ext ((List.prefix_of_prefix_length_le dp.isPrefix dq.isPrefix same.le).eq_of_length same)

theorem LongestSplit.slice_in_bounds {g : Graph} {s : String} {split : Split}
    (longest : LongestSplit g s split) (proper : split.vertex ≠ s) :
    split.vertex.length + 1 ≤ s.length := by
  rcases longest.rest with ⟨whole, -⟩ | shape
  · exact absurd whole proper
  · rw [shape]
    simp only [String.length_append, length_dot]
    omega

theorem LongestSplit.unique {g : Graph} {s : String} {a b : Split}
    (ha : LongestSplit g s a) (hb : LongestSplit g s b) : a = b := by
  have vertex : a.vertex = b.vertex := ha.dotted.eq_of_length_eq hb.dotted
    (Nat.le_antisymm (hb.longest _ ha.dotted ha.contains) (ha.longest _ hb.dotted hb.contains))
  have proper {c : Split} (hc : LongestSplit g s c) (shape : s = c.vertex ++ "." ++ c.middle) :
      c.vertex ≠ s := fun whole => by
    have := congrArg String.length shape
    simp only [String.length_append, length_dot, whole] at this
    omega
  have middle : a.middle = b.middle := by
    rcases ha.rest with ⟨wa, ma⟩ | sa <;> rcases hb.rest with ⟨wb, mb⟩ | sb
    · rw [ma, mb]
    · exact absurd (vertex ▸ wa) (proper hb sb)
    · exact absurd (vertex ▸ wb) (proper ha sa)
    · have := congrArg String.data (sa.symm.trans sb)
      simp only [String.data_append, vertex, data_dot, List.append_assoc, List.singleton_append,
        List.append_cancel_left_eq, List.cons.injEq, true_and] at this
      exact String.ext this
  have found : a.found = b.found := by rw [ha.found, hb.found]
  obtain ⟨va, ma, fa⟩ := a
  obtain ⟨vb, mb, fb⟩ := b
  simp only at vertex middle found
  simp [vertex, middle, found]

theorem vertexSplit_cases (g : Graph) (s : String) :
    vertexSplit g s = ⟨"", s, false⟩ ∧ (∀ p, DottedPrefix p s → g.contains p = false) ∨
      LongestSplit g s (vertexSplit g s) := by
  unfold vertexSplit
  rcases findResult : find (prefixes s) g.contains with ⟨pfx, _ | _⟩
  · obtain ⟨-, missing⟩ := find_not_found (by rw [findResult])
    exact .inl ⟨rfl, fun p dotted => missing p (mem_prefixes.mpr dotted)⟩
  · obtain ⟨member, accepts, longest⟩ := find_longest (prefixes_pairwise s) findResult
    have dotted := mem_prefixes.mp member
    have longest' (q : String) (dq : DottedPrefix q s) (cq : g.contains q = true) :
        q.length ≤ pfx.length :=
      longest q (mem_prefixes.mpr dq) cq
    right
    by_cases whole : pfx = s
    · simp only [whole, Bool.not_true, if_true]
      exact ⟨rfl, .refl s, whole ▸ accepts, whole ▸ longest', .inl ⟨rfl, rfl⟩⟩
    · obtain ⟨rest, split⟩ := dotted.resolve_left whole
      have middle : (⟨s.data.drop (pfx.length + 1)⟩ : String) = rest := by
        subst split
        refine String.ext (List.drop_left' ?_)
        simp only [List.length_append, data_dot, List.length_singleton]
        rfl
      simp only [whole, Bool.not_true, if_false, middle]
      exact ⟨rfl, dotted, accepts, longest', .inr split⟩

theorem vertexSplit_of_longestSplit {g : Graph} {s : String} {split : Split}
    (longest : LongestSplit g s split) : vertexSplit g s = split := by
  rcases vertexSplit_cases g s with ⟨-, missing⟩ | found
  · exact absurd longest.contains (by simp [missing _ longest.dotted])
  · exact found.unique longest

theorem vertexSplit_found_of_dottedPrefix {g : Graph} {s p : String}
    (dotted : DottedPrefix p s) (present : g.contains p = true) :
    LongestSplit g s (vertexSplit g s) := by
  rcases vertexSplit_cases g s with ⟨-, missing⟩ | found
  · exact absurd present (by simp [missing p dotted])
  · exact found

theorem vertexSplit_spec (g : Graph) (s : String) :
    ((vertexSplit g s).found = true ↔ ∃ p, DottedPrefix p s ∧ g.contains p = true) ∧
    ((vertexSplit g s).found = true → LongestSplit g s (vertexSplit g s) ∧
      ((vertexSplit g s).vertex ≠ s → (vertexSplit g s).vertex.length + 1 ≤ s.length)) ∧
    ((vertexSplit g s).found = false → vertexSplit g s = ⟨"", s, false⟩) := by
  rcases vertexSplit_cases g s with ⟨notFound, missing⟩ | longest
  · rw [notFound]
    refine ⟨⟨fun found => (by cases found), fun ⟨p, dotted, present⟩ => ?_⟩,
      fun found => (by cases found), fun _ => rfl⟩
    simp [missing p dotted] at present
  · exact ⟨⟨fun _ => ⟨_, longest.dotted, longest.contains⟩, fun _ => longest.found⟩,
      fun _ => ⟨longest, longest.slice_in_bounds⟩,
      fun notFound => absurd longest.found (by simp [notFound])⟩

/-! ## `DesugarCall` -/

/-- `width` hexadecimal digits of `n`, most significant first: `lowerhex[r>>uint(s)&0xF]` for `s`
from `4 * (width - 1)` down to 0. -/
def hexDigits (n : Nat) : Nat → List Char
  | 0 => []
  | width + 1 => Nat.digitChar (n / 16 ^ width % 16) :: hexDigits n width

/-- One rune under `%q`, as `appendEscapedRune` of `strconv.Quote` writes it: a quote or a
backslash escaped, a printable rune as it is, a control with its one-letter escape, and any
other rune as `\x`, `\u` or `\U` with its code in hexadecimal. A Lean string holds no invalid
UTF-8, whose bytes `%q` writes as `\x`. -/
def quoteChar (c : Char) : List Char :=
  if c = '"' ∨ c = '\\' then ['\\', c]
  else if Unicode.isPrint c then [c]
  else if c = '\x07' then ['\\', 'a']
  else if c = '\x08' then ['\\', 'b']
  else if c = '\x0c' then ['\\', 'f']
  else if c = '\n' then ['\\', 'n']
  else if c = '\r' then ['\\', 'r']
  else if c = '\t' then ['\\', 't']
  else if c = '\x0b' then ['\\', 'v']
  else if c.toNat < 0x20 ∨ c.toNat = 0x7f then '\\' :: 'x' :: hexDigits c.toNat 2
  else if c.toNat < 0x10000 then '\\' :: 'u' :: hexDigits c.toNat 4
  else '\\' :: 'U' :: hexDigits c.toNat 8

/-- `%q` of a string. -/
def goQuote (s : String) : String :=
  ⟨'"' :: s.data.flatMap quoteChar ++ ['"']⟩

/-- `MkCallPipeline`: the terms `b.c.d` become the pipeline `b | c | d`. -/
def mkCallPipeline (s : String) : String :=
  " | ".intercalate (splitTerms s)

/-- `DesugarCall`. -/
def desugarCall (g : Graph) (call : String) : Except String String :=
  let split := vertexSplit g call
  if !split.found then .error "syntax error call to non-existant dependency"
  else .ok ("(noderef " ++ goQuote split.vertex ++ ")" ++
    if split.middle ≠ "" then "| " ++ mkCallPipeline split.middle else "")

theorem desugarCall_spec (g : Graph) (call : String) :
    ((∃ message, desugarCall g call = .error message) ↔
      ∀ p, DottedPrefix p call → g.contains p = false) ∧
    ∀ split, LongestSplit g call split →
      desugarCall g call = .ok ("(noderef " ++ goQuote split.vertex ++ ")" ++
        if split.middle ≠ "" then "| " ++ " | ".intercalate (splitTerms split.middle) else "") ∧
      (split.middle ≠ "" → call = split.vertex ++ "." ++ joinTerms (splitTerms split.middle)) := by
  refine ⟨?_, fun split longest => ⟨?_, fun nonempty => ?_⟩⟩
  · rcases vertexSplit_cases g call with ⟨notFound, missing⟩ | longest
    · simpa [desugarCall, notFound] using missing
    · refine ⟨fun ⟨message, failed⟩ => ?_, fun missing => ?_⟩
      · simp [desugarCall, longest.found] at failed
      · exact absurd longest.contains (by simp [missing _ longest.dotted])
  · simp [desugarCall, vertexSplit_of_longestSplit longest, longest.found, mkCallPipeline]
  · rw [joinTerms_splitTerms]
    exact (longest.rest.resolve_left fun ⟨_, empty⟩ => nonempty empty)

/-- Spec scenario 6: the graph of `converge-build/go.hcl` contains `task.go-dl`. -/
def goBuild : Graph :=
  ⟨[("task.go-dl", .resource)], fun _ => [], by decide⟩

theorem desugarCall_goBuild :
    LongestSplit goBuild "task.go-dl.dir" ⟨"task.go-dl", "dir", true⟩ ∧
      desugarCall goBuild "task.go-dl.dir" = .ok "(noderef \"task.go-dl\")| dir" := by
  have split : vertexSplit goBuild "task.go-dl.dir" = ⟨"task.go-dl", "dir", true⟩ := by decide
  have dotted : DottedPrefix "task.go-dl" "task.go-dl.dir" := .inr ⟨"dir", by decide⟩
  have longest := split ▸ vertexSplit_found_of_dottedPrefix dotted (by decide)
  exact ⟨longest, ((desugarCall_spec _ _).2 _ longest).1.trans rfl⟩

end Converge.Preprocessor
