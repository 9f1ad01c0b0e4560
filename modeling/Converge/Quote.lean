import Converge.VertexSplit
import Mathlib.Tactic.Ring

/-!
# The vertex in the text of `DesugarCall`

`DesugarCall` writes the vertex it found as `(noderef %q)`, then the pipeline of the rest of the
call. `%q` escapes every quote and backslash, and writes every rune that `strconv.IsPrint` does
not hold of as a one-letter escape or as its code in hexadecimal. A scan of the literal from its
opening quote, undoing the escapes, stops at the quote that closes it, whatever follows
(`readQuoted_flatMap_quoteChar`): the text names the vertex, whatever characters its name holds
(`desugarCall_names_vertex`). `readQuoted` is that scan, as `strconv.Unquote` makes it for the
escapes `%q` writes.
-/

namespace Converge.Preprocessor

/-- The value of a hexadecimal digit as `Nat.digitChar` writes it. -/
def hexDigit (c : Char) : Nat :=
  if c.toNat < 'a'.toNat then c.toNat - '0'.toNat else c.toNat - 'a'.toNat + 10

theorem hexDigit_digitChar : ∀ d < 16, hexDigit (Nat.digitChar d) = d := by
  decide

/-- The value of hexadecimal digits, most significant first. -/
def hexValue (ds : List Char) : Nat :=
  ds.foldl (fun acc d => 16 * acc + hexDigit d) 0

theorem foldl_hexDigits (n : Nat) : ∀ (width acc : Nat),
    (hexDigits n width).foldl (fun acc d => 16 * acc + hexDigit d) acc =
      acc * 16 ^ width + n % 16 ^ width
  | 0, acc => by simp [hexDigits, Nat.mod_one]
  | width + 1, acc => by
    rw [hexDigits, List.foldl_cons, hexDigit_digitChar _ (Nat.mod_lt _ (by omega)),
      foldl_hexDigits n width, Nat.mod_pow_succ, pow_succ]
    ring

theorem hexValue_hexDigits (n width : Nat) : hexValue (hexDigits n width) = n % 16 ^ width := by
  simp [hexValue, foldl_hexDigits]

/-- The character a one-letter escape of `%q` stands for. -/
def unescape : Char → Option Char
  | '"' => some '"'
  | '\\' => some '\\'
  | 'a' => some '\x07'
  | 'b' => some '\x08'
  | 'f' => some '\x0c'
  | 'n' => some '\n'
  | 'r' => some '\r'
  | 't' => some '\t'
  | 'v' => some '\x0b'
  | _ => none

/-- Reads the body of a string literal up to its closing quote, undoing the escapes that `%q`
writes: the characters it stands for, and what follows the closing quote. -/
def readQuoted : List Char → Option (List Char × List Char)
  | [] => none
  | '"' :: rest => some ([], rest)
  | '\\' :: 'x' :: d₁ :: d₂ :: rest =>
    (readQuoted rest).map fun r => (Char.ofNat (hexValue [d₁, d₂]) :: r.1, r.2)
  | '\\' :: 'u' :: d₁ :: d₂ :: d₃ :: d₄ :: rest =>
    (readQuoted rest).map fun r => (Char.ofNat (hexValue [d₁, d₂, d₃, d₄]) :: r.1, r.2)
  | '\\' :: 'U' :: d₁ :: d₂ :: d₃ :: d₄ :: d₅ :: d₆ :: d₇ :: d₈ :: rest =>
    (readQuoted rest).map fun r =>
      (Char.ofNat (hexValue [d₁, d₂, d₃, d₄, d₅, d₆, d₇, d₈]) :: r.1, r.2)
  | '\\' :: e :: rest =>
    match unescape e with
    | some c => (readQuoted rest).map fun r => (c :: r.1, r.2)
    | none => none
  | c :: rest => (readQuoted rest).map fun r => (c :: r.1, r.2)

theorem readQuoted_plain {c : Char} (plain : ¬(c = '"' ∨ c = '\\')) (rest : List Char) :
    readQuoted (c :: rest) = (readQuoted rest).map fun r => (c :: r.1, r.2) :=
  readQuoted.eq_7 c rest (fun quote => plain (.inl quote))
    (fun _ _ _ backslash _ => plain (.inr backslash))
    (fun _ _ _ _ _ backslash _ => plain (.inr backslash))
    (fun _ _ _ _ _ _ _ _ _ backslash _ => plain (.inr backslash))
    (fun _ _ backslash _ => plain (.inr backslash))

theorem readQuoted_quoteChar (c : Char) (rest : List Char) :
    readQuoted (quoteChar c ++ rest) = (readQuoted rest).map fun r => (c :: r.1, r.2) := by
  have back (width : Nat) (small : c.toNat < 16 ^ width) :
      Char.ofNat (hexValue (hexDigits c.toNat width)) = c := by
    rw [hexValue_hexDigits, Nat.mod_eq_of_lt small, Char.ofNat_toNat]
  unfold quoteChar
  by_cases special : c = '"' ∨ c = '\\'
  · rw [if_pos special]
    rcases special with rfl | rfl <;> rfl
  rw [if_neg special]
  by_cases printable : Unicode.isPrint c
  · rw [if_pos printable]
    exact readQuoted_plain special rest
  by_cases named : c = '\x07' ∨ c = '\x08' ∨ c = '\x0c' ∨ c = '\n' ∨ c = '\r' ∨ c = '\t' ∨ c = '\x0b'
  · rcases named with rfl | rfl | rfl | rfl | rfl | rfl | rfl <;> rfl
  simp only [not_or] at named
  obtain ⟨bell, back', feed, line, ret, tab, vtab⟩ := named
  rw [if_neg printable, if_neg bell, if_neg back', if_neg feed, if_neg line, if_neg ret, if_neg tab,
    if_neg vtab]
  -- the escapes in hexadecimal, two, four or eight digits wide
  by_cases control : c.toNat < 0x20 ∨ c.toNat = 0x7f
  · rw [if_pos control]
    show (readQuoted rest).map (fun r => (Char.ofNat (hexValue (hexDigits c.toNat 2)) :: r.1, r.2)) = _
    rw [back 2 (show c.toNat < 256 by omega)]
  rw [if_neg control]
  by_cases basic : c.toNat < 0x10000
  · rw [if_pos basic]
    show (readQuoted rest).map (fun r => (Char.ofNat (hexValue (hexDigits c.toNat 4)) :: r.1, r.2)) = _
    rw [back 4 basic]
  · rw [if_neg basic]
    show (readQuoted rest).map (fun r => (Char.ofNat (hexValue (hexDigits c.toNat 8)) :: r.1, r.2)) = _
    rw [back 8 c.val.toNat_lt_size]

theorem readQuoted_flatMap_quoteChar (rest : List Char) :
    ∀ s : List Char, readQuoted (s.flatMap quoteChar ++ '"' :: rest) = some (s, rest)
  | [] => rfl
  | c :: s => by
    rw [List.flatMap_cons, List.append_assoc, readQuoted_quoteChar, readQuoted_flatMap_quoteChar rest s]
    rfl

theorem desugarCall_data {g : Graph} {call out : String} (run : desugarCall g call = .ok out) :
    ∃ tail, out.data = "(noderef ".data ++
      '"' :: ((vertexSplit g call).vertex.data.flatMap quoteChar ++ '"' :: tail) := by
  unfold desugarCall at run
  dsimp only at run
  split at run
  · cases run
  · cases run
    exact ⟨_, by simp [goQuote]; rfl⟩

theorem desugarCall_names_vertex {g g' : Graph} {call call' out : String}
    (run : desugarCall g call = .ok out) (run' : desugarCall g' call' = .ok out) :
    (vertexSplit g call).vertex = (vertexSplit g' call').vertex := by
  obtain ⟨tail, written⟩ := desugarCall_data run
  obtain ⟨tail', written'⟩ := desugarCall_data run'
  have same := List.cons_injective (List.append_cancel_left (written.symm.trans written'))
  have read := readQuoted_flatMap_quoteChar tail (vertexSplit g call).vertex.data
  rw [same, readQuoted_flatMap_quoteChar] at read
  exact String.ext (Prod.mk.inj (Option.some.inj read)).1.symm

theorem desugarCall_names_vertex_goBuild :
    (vertexSplit goBuild "task.go-dl.dir").vertex = (vertexSplit
      ⟨[("task", .resource), ("task.go-dl", .resource)], fun _ => [], by decide⟩ "task.go-dl.dir").vertex :=
  desugarCall_names_vertex
    (rfl : desugarCall goBuild "task.go-dl.dir" = .ok "(noderef \"task.go-dl\")| dir") rfl

end Converge.Preprocessor
