import Converge.Reflect

/-!
# `FieldMap`, `lookupMap`, `EvalMember`, `EvalTerms` and `HasPath`

`FieldMap` flattens a struct value: its own fields, and the fields of each non-nil embedded
field, where the struct's own field wins, and a name that two or more embedded fields promote
is taken from the struct's own field of that name or else removed. `EvalTerms` and `HasPath`
fold a case-insensitive field access over a list of terms, and `EvalMember` makes one such
access. The fold composes over a path split in two (`walkTerms_append`), and `HasPath` succeeds
and fails where `EvalTerms` does, with its own error at a nil pointer
(`hasPath_agrees_with_evalTerms`).

When every embedded field is exported and holds a record, and no two field paths share a name,
`FieldMap` promotes each name once and removes none: its keys are the names of the field paths
(`fieldMapFields_holds`).

A panic of `reflect` is a `Failure` like the errors the code returns, so that every function
here is total. Each `range` loop visits its map in the order that `RangeOrders` picks for it, by
default the order of `insertion`; `Converge.Determinism` says which results depend on it.
-/

namespace Converge.Preprocessor

open Reflect

/-- How a call ends without a value: a run-time panic in the named `reflect` call, or one of
the errors that the preprocessor returns. -/
inductive Failure where
  | panic (call : String)
  /-- `ErrUnresolvable` -/
  | unresolvable
  /-- the error of `HasPath` at a nil pointer -/
  | fieldIsNil
  /-- the missing-field error of `EvalTerms` and `HasPath` -/
  | noDefinedField (type term : String) (valid : List String)
  /-- the missing-field error of `EvalMember` -/
  | noField (type name : String) (valid : List String)
  /-- the missing-field error of `LookupCanonicalFieldName` -/
  | noMatchingField (type term : String) (valid : List String)
  /-- the error of `fieldMap` on a type that is not a struct -/
  | nonStruct (type : String)
  deriving DecidableEq, Repr

/-- `%v` of a `[]string`. -/
def formatList (items : List String) : String :=
  "[" ++ " ".intercalate items ++ "]"

/-- The text of an error, as `fmt.Errorf` writes it; a panic names the call that panicked. -/
def Failure.message : Failure → String
  | .panic call => "reflect: call of " ++ call
  | .unresolvable => "field is unresolvable"
  | .fieldIsNil => "field is nil"
  | .noDefinedField type term valid =>
    type ++ " has no defined field named " ++ term ++ ": should be one of: " ++ formatList valid
  | .noField type name valid =>
    type ++ " has no field " ++ name ++ ". Must be one of: " ++ formatList valid
  | .noMatchingField type term valid =>
    type ++ " has no field that matches " ++ term ++ ", should be one of " ++ formatList valid
  | .nonStruct type => "cannot access fields of non-struct type " ++ type

/-- `canBeNil`. -/
def canBeNil : Value → Bool
  | .pointer .. | .interface .. | .array _ | .nilable .. => true
  | _ => false

/-- `v.IsNil()`, which panics on an array and on every kind that `canBeNil` rejects. -/
def isNil : Value → Except Failure Bool
  | .pointer _ target => .ok target.isNone
  | .interface _ dynamic => .ok dynamic.isNone
  | .nilable _ isNil => .ok isNil
  | _ => .error (.panic "reflect.Value.IsNil")

/-- `canBeNil(v) && v.IsNil()`. -/
def nilCheck (v : Value) : Except Failure Bool :=
  if canBeNil v then isNil v else .ok false

/-! ## `FieldMap` -/

/-- The maps that `FieldMap` fills in its loop over the fields of a struct. `unembeddedRefs`
holds a field's value where the source holds its index, which it only uses to read that field
back. -/
structure FieldMapState where
  embeddedRefs : GoMap Nat
  unembeddedRefs : GoMap Value
  results : GoMap Value

def FieldMapState.empty : FieldMapState :=
  ⟨.empty, .empty, .empty⟩

/-- The loop over `FieldMap` of an embedded field, in `order`: count each name, and keep the value
of the first embedded field that promotes it. -/
def FieldMapState.promote (st : FieldMapState) (nested : GoMap Value) (order : RangeOrder) :
    FieldMapState :=
  (nested.range order).foldl (fun st entry =>
    { st with
      embeddedRefs := st.embeddedRefs.set entry.1 ((st.embeddedRefs.get entry.1).getD 0 + 1)
      results :=
        if (st.results.get entry.1).isSome then st.results else st.results.set entry.1 entry.2 })
    st

/-- The last loop of `FieldMap`, in `order`: a name that two or more embedded fields promote is
taken from the struct's own field of that name, or removed. -/
def FieldMapState.finish (st : FieldMapState) (order : RangeOrder) : GoMap Value :=
  (st.embeddedRefs.range order).foldl (fun results entry =>
    if entry.2 ≤ 1 then results
    else match st.unembeddedRefs.get entry.1 with
      | some v => results.set entry.1 v
      | none => results.delete entry.1)
    st.results

namespace FieldMapState

theorem promote_spec (st : FieldMapState) (nested : GoMap Value) (order : RangeOrder) :
    (st.promote nested order).unembeddedRefs = st.unembeddedRefs ∧ ∀ k,
      (st.promote nested order).embeddedRefs.get k =
          (if (nested.get k).isSome then some ((st.embeddedRefs.get k).getD 0 + 1)
            else st.embeddedRefs.get k) ∧
        (st.promote nested order).results.get k = (st.results.get k).or (nested.get k) := by
  unfold promote
  simp only [← nested.lookup_range order]
  have nodup := nested.nodup_range order
  generalize nested.range order = l at nodup ⊢
  induction l generalizing st with
  | nil => simp
  | cons e l ih =>
    obtain ⟨key, v⟩ := e
    simp only [List.map_cons, List.nodup_cons] at nodup
    simp only [List.foldl_cons]
    refine ⟨(ih _ nodup.2).1, fun k => ?_⟩
    rw [((ih _ nodup.2).2 k).1, ((ih _ nodup.2).2 k).2, GoMap.lookup_cons]
    by_cases same : k = key
    · subst same
      cases found : st.results.get k <;> simp [GoMap.lookup_of_not_mem nodup.1, found]
    · have kept : (if (st.results.get key).isSome then st.results
          else st.results.set key v).get k = st.results.get k := by
        split <;> simp [same]
      rw [if_neg same]
      simp [kept, same]

theorem finish_get (st : FieldMapState) (order : RangeOrder) (k : String) :
    (st.finish order).get k =
      if (st.embeddedRefs.get k).getD 0 ≤ 1 then st.results.get k
      else st.unembeddedRefs.get k := by
  unfold finish
  rw [← st.embeddedRefs.lookup_range order]
  have nodup := st.embeddedRefs.nodup_range order
  generalize st.embeddedRefs.range order = l at nodup ⊢
  generalize st.results = results
  induction l generalizing results with
  | nil => simp
  | cons e l ih =>
    obtain ⟨key, c⟩ := e
    simp only [List.map_cons, List.nodup_cons] at nodup
    rw [List.foldl_cons, ih nodup.2, GoMap.lookup_cons]
    by_cases same : k = key
    · subst same
      have absent := GoMap.lookup_of_not_mem nodup.1
      by_cases once : c ≤ 1
      · simp [absent, once]
      · cases found : st.unembeddedRefs.get k <;> simp [absent, once, found]
    · simp only [same, if_false]
      congr 1
      split
      · rfl
      · split <;> simp [same]

end FieldMapState

mutual

/-- `FieldMap` of a non-nil `interface{}` holding `v`. The map of a nil pointer, interface,
slice, map, channel or function is empty, `IsNil` panics on an array, and a non-nil pointer
goes on to `fieldMapElem`. An interface stands for what `Interface()` gives: its dynamic
value. The last loop visits in `order.loop 0`. -/
def fieldMapValue (order : RangeOrders) : Value → Except Failure (GoMap Value)
  | .pointer _ none | .interface _ none | .nilable _ true => .ok .empty
  | .array _ => .error (.panic "reflect.Value.IsNil")
  | .interface _ (some dynamic) => fieldMapValue order dynamic
  | .pointer _ (some target) => fieldMapElem order target
  | .struct _ fields => (fieldMapFields order fields .empty).map (·.finish (order.loop 0))
  | .basic .. | .nilable _ false => .error (.panic "reflect.Type.NumField")

/-- The loop of `FieldMap` that takes `Elem` while `indirectStruct` holds, through non-nil
pointers and interfaces, and then reads the fields of the struct it reaches. `Elem` of a nil
interface is the zero `reflect.Value`, whose `Type` panics; `NumField` panics on any type but
a struct. -/
def fieldMapElem (order : RangeOrders) : Value → Except Failure (GoMap Value)
  | .pointer _ (some target) => fieldMapElem order target
  | .interface _ (some dynamic) => fieldMapElem order dynamic
  | .interface _ none => .error (.panic "reflect.Value.Type")
  | .struct _ fields => (fieldMapFields order fields .empty).map (·.finish (order.loop 0))
  | .basic .. | .array _ | .nilable .. | .pointer _ none =>
    .error (.panic "reflect.Type.NumField")

/-- The loop of `FieldMap` over the fields of a struct. `Interface()` panics on a field that is
not exported. The `FieldMap` of the first field and the loop over it take their orders from
`order.call 1` and `order.loop 1`, the other fields from `order.call 2`. -/
def fieldMapFields (order : RangeOrders) :
    List (Field × Value) → FieldMapState → Except Failure FieldMapState
  | [], st => .ok st
  | (field, v) :: rest, st =>
    if field.anonymous then
      match nilCheck v with
      | .error e => .error e
      | .ok true =>
        fieldMapFields (order.call 2) rest { st with results := st.results.set field.name v }
      | .ok false =>
        if exported field.name then
          match fieldMapValue (order.call 1) v with
          | .error e => .error e
          | .ok nested =>
            let st := st.promote nested (order.loop 1)
            fieldMapFields (order.call 2) rest { st with results := st.results.set field.name v }
        else .error (.panic "reflect.Value.Interface")
    else
      fieldMapFields (order.call 2) rest
        { st with
          unembeddedRefs := st.unembeddedRefs.set field.name v
          results := st.results.set field.name v }

end

/-- `FieldMap(obj)` in a run whose `range` loops visit maps in the orders `order` picks, by
default the order in which the keys were set. `none` is the nil interface, whose
`reflect.Value` has no type. -/
def fieldMap (obj : Option Value) (order : RangeOrders := .insertion) :
    Except Failure (GoMap Value) :=
  match obj with
  | none => .error (.panic "reflect.Value.Type")
  | some v => fieldMapValue order v

/-- A struct `R` that embeds `A`, `C` and `B`, where `A` and `C` both declare a field `B`. -/
def diamond : Value :=
  .struct "R" [
    (⟨"A", .struct "A", true⟩, .struct "A" [(⟨"B", .basic "int", false⟩, .basic "int" "0")]),
    (⟨"C", .struct "C", true⟩, .struct "C" [(⟨"B", .basic "int", false⟩, .basic "int" "0")]),
    (⟨"B", .struct "B", true⟩, .struct "B" [])]

theorem fieldMap_drops_own_embedded_field :
    recordEmbedsRecords diamond = true ∧
      (fieldMap (some diamond)).map GoMap.keys = .ok ["A", "C"] :=
  ⟨rfl, rfl⟩

/-! ## Records whose field paths have distinct names -/

/-- The results of `FieldMap`'s loop hold the names `names`, and each promoted name is counted
once. -/
structure FieldMapState.Holds (st : FieldMapState) (names : String → Prop) : Prop where
  results : ∀ k, (st.results.get k).isSome ↔ names k
  counted : ∀ k c, st.embeddedRefs.get k = some c → c ≤ 1 ∧ names k

namespace FieldMapState

variable {st st' : FieldMapState} {names : String → Prop}

theorem Holds.empty : FieldMapState.empty.Holds fun _ => False :=
  ⟨fun _ => by simp [FieldMapState.empty], fun _ _ found => by simp [FieldMapState.empty] at found⟩

theorem Holds.of_iff {other : String → Prop} (holds : st.Holds names)
    (same : ∀ k, names k ↔ other k) : st.Holds other :=
  ⟨fun k => (holds.results k).trans (same k),
    fun k c found => ⟨(holds.counted k c found).1, (same k).mp (holds.counted k c found).2⟩⟩

theorem Holds.set (holds : st.Holds names) {k : String} {v : Value}
    (refs : st'.embeddedRefs = st.embeddedRefs) (results : st'.results = st.results.set k v) :
    st'.Holds fun x => names x ∨ x = k := by
  refine ⟨fun x => ?_, fun x c found => ?_⟩
  · by_cases same : x = k <;> simp [results, same, holds.results x]
  · rw [refs] at found
    exact ⟨(holds.counted x c found).1, .inl (holds.counted x c found).2⟩

theorem Holds.promote (holds : st.Holds names) (nested : GoMap Value) (order : RangeOrder)
    (fresh : ∀ k ∈ nested.keys, ¬ names k) :
    (st.promote nested order).Holds fun x => names x ∨ x ∈ nested.keys := by
  obtain ⟨-, step⟩ := st.promote_spec nested order
  refine ⟨fun k => ?_, fun k c found => ?_⟩
  · rw [(step k).2, Option.isSome_or, Bool.or_eq_true, holds.results k, GoMap.mem_keys]
  · rw [(step k).1] at found
    split at found
    · rename_i promoted
      have unseen : st.embeddedRefs.get k = none :=
        Option.eq_none_iff_forall_not_mem.mpr fun c' counted =>
          fresh k (GoMap.mem_keys.mpr promoted) (holds.counted k c' counted).2
      rw [unseen, Option.some.injEq] at found
      exact ⟨by simp [← found], .inr (GoMap.mem_keys.mpr promoted)⟩
    · exact ⟨(holds.counted k c found).1, .inl (holds.counted k c found).2⟩

theorem Holds.get_finish (holds : st.Holds names) (order : RangeOrder) (k : String) :
    (st.finish order).get k = st.results.get k := by
  rw [st.finish_get order k]
  cases found : st.embeddedRefs.get k with
  | none => rfl
  | some c => simp [(holds.counted k c found).1]

end FieldMapState

open FieldMapState

theorem nilCheck_of_record : ∀ {v : Value}, recordEmbedsRecords v = true → nilCheck v = .ok false
  | .struct .., _ | .pointer _ (some _), _ => rfl
  | .basic .., record | .array _, record | .nilable .., record | .pointer _ none, record
  | .interface .., record => nomatch record

private theorem fieldMap_of_walk {order : RangeOrders} {fields : List (Field × Value)}
    (walk : ∃ st, fieldMapFields order fields .empty = .ok st ∧
      st.Holds fun k => False ∨ k ∈ pathNames fields) :
    ∃ m : GoMap Value, (fieldMapFields order fields .empty).map (·.finish (order.loop 0)) = .ok m ∧
      ∀ k, (m.get k).isSome ↔ k ∈ pathNames fields :=
  let ⟨st, run, holds⟩ := walk
  ⟨st.finish (order.loop 0), by simp [run, Except.map],
    fun k => by simpa [holds.get_finish] using holds.results k⟩

mutual

theorem fieldMapFields_holds : ∀ (order : RangeOrders) (fields : List (Field × Value))
    (st : FieldMapState) (names : String → Prop), embedsRecords fields = true →
    (pathNames fields).Nodup → st.Holds names → (∀ k ∈ pathNames fields, ¬ names k) →
    ∃ st', fieldMapFields order fields st = .ok st' ∧
      st'.Holds fun k => names k ∨ k ∈ pathNames fields
  | _, [], st, _, _, _, holds, _ => ⟨st, rfl, holds.of_iff (by simp)⟩
  | order, (field, v) :: rest, st, names, embeds, distinct, holds, fresh => by
    rw [pathNames_cons] at distinct fresh ⊢
    cases anon : field.anonymous
    · simp only [embedsRecords, anon, Bool.not_false, Bool.true_or, Bool.true_and] at embeds
      simp only [anon, Bool.false_eq_true, if_false, List.nil_append, List.nodup_cons,
        List.mem_cons, forall_eq_or_imp] at distinct fresh ⊢
      have added : Holds { st with
          unembeddedRefs := st.unembeddedRefs.set field.name v
          results := st.results.set field.name v } fun x => names x ∨ x = field.name :=
        holds.set rfl rfl
      obtain ⟨st', run, holds'⟩ := fieldMapFields_holds (order.call 2) rest _ _ embeds distinct.2 added
        fun k member => by
          rintro (seen | rfl)
          · exact fresh.2 k member seen
          · exact distinct.1 member
      exact ⟨st', by simpa [fieldMapFields, anon] using run, holds'.of_iff fun _ => or_assoc⟩
    · simp only [embedsRecords, anon, Bool.not_true, Bool.false_or, Bool.and_eq_true] at embeds
      simp only [anon, if_true, List.nodup_cons, List.mem_append, List.mem_cons, List.nodup_append,
        forall_eq_or_imp] at distinct fresh ⊢
      obtain ⟨nested, value, keys⟩ := fieldMapValue_record (order.call 1) v embeds.1.2 distinct.2.1
      have promoted := holds.promote nested (order.loop 1) fun k member =>
        fresh.2 k (.inl ((keys k).mp (GoMap.mem_keys.mp member)))
      have added : Holds { st.promote nested (order.loop 1) with
          results := (st.promote nested (order.loop 1)).results.set field.name v }
          fun x => (names x ∨ x ∈ nested.keys) ∨ x = field.name :=
        promoted.set rfl rfl
      obtain ⟨st', run, holds'⟩ := fieldMapFields_holds (order.call 2) rest _ _ embeds.2 distinct.2.2.1 added
        fun k member => by
          rintro ((seen | inner) | rfl)
          · exact fresh.2 k (.inr member) seen
          · exact distinct.2.2.2 ((keys k).mp (GoMap.mem_keys.mp inner)) member
          · exact distinct.1 (.inr member)
      refine ⟨st', ?_, holds'.of_iff fun x => ?_⟩
      · simp [fieldMapFields, anon, nilCheck_of_record embeds.1.2, embeds.1.1, value, run]
      · simp only [GoMap.mem_keys, ← keys, or_assoc, or_left_comm]

theorem fieldMapValue_record (order : RangeOrders) : ∀ (v : Value), recordEmbedsRecords v = true →
    (recordNames v).Nodup →
    ∃ m : GoMap Value, fieldMapValue order v = .ok m ∧ ∀ k, (m.get k).isSome ↔ k ∈ recordNames v
  | .struct _ fields, embeds, distinct => fieldMap_of_walk
    (fieldMapFields_holds order fields .empty _ embeds distinct Holds.empty fun _ _ => id)
  | .pointer _ (some (.struct _ fields)), embeds, distinct => fieldMap_of_walk
    (fieldMapFields_holds order fields .empty _ embeds distinct Holds.empty fun _ _ => id)
  | .basic .., embeds, _ | .array _, embeds, _ | .nilable .., embeds, _
  | .interface .., embeds, _ | .pointer _ none, embeds, _
  | .pointer _ (some (.basic ..)), embeds, _ | .pointer _ (some (.array _)), embeds, _
  | .pointer _ (some (.nilable ..)), embeds, _ | .pointer _ (some (.pointer ..)), embeds, _
  | .pointer _ (some (.interface ..)), embeds, _ => nomatch embeds

end

/-! ## The case-insensitive lookups -/

/-- `lookupMap`, whose `range` visits `src` in `order`: each name under its lower-case form. Of two
names with one lower-case form, the one visited last wins. -/
def lookupMap (src : GoMap Value) (order : RangeOrder) : GoMap String :=
  (src.range order).foldl (fun keys entry => keys.set (toLower entry.1) entry.1) .empty

theorem lookupMap_get_isSome (src : GoMap Value) (order : RangeOrder) (key : String) :
    ((lookupMap src order).get key).isSome ↔ ∃ k ∈ src.keys, toLower k = key := by
  suffices ∀ (l : List (String × Value)) (acc : GoMap String),
      ((l.foldl (fun keys entry => keys.set (toLower entry.1) entry.1) acc).get key).isSome ↔
        (acc.get key).isSome ∨ ∃ k ∈ l.map Prod.fst, toLower k = key by
    simpa [lookupMap, ← ((src.range_perm order).map Prod.fst).mem_iff, GoMap.keys] using
      this (src.range order) .empty
  intro l
  induction l with
  | nil => simp
  | cons e l ih =>
    intro acc
    rw [List.foldl_cons, ih]
    by_cases same : key = toLower e.1
    · simp [same]
    · simp [same, Ne.symm same]

/-- `%T` of an `interface{}`. -/
def typeString : Option Value → String
  | none => "<nil>"
  | some v => v.type.name

/-- `EvalMember`, in a run whose `range` loops visit maps in the orders `order` picks:
`FieldMap` takes its orders from `order.call 0`, `lookupMap` visits in `order.loop 0` and the
listing of the keys in `order.loop 1`. On failure the source also returns `reflect.ValueOf(obj)`,
which no caller reads. -/
def evalMember (name : String) (obj : Option Value) (order : RangeOrders := .insertion) :
    Except Failure (Option Value) :=
  match fieldMap obj (order.call 0) with
  | .error e => .error e
  | .ok fields =>
    let keys := lookupMap fields (order.loop 0)
    match keys.get (toLower name) with
    | some k => .ok (fields.get k)
    | none => .error (.noField (typeString obj) name ((keys.range (order.loop 1)).map Prod.fst))

/-- `Interface()` of the value that `FieldMap` stored under `name`: it panics when the field is
not exported, and gives an interface's dynamic value. -/
def fieldInterface (name : String) (v : Value) : Except Failure (Option Value) :=
  if exported name then
    .ok (match v with
      | .interface _ dynamic => dynamic
      | v => some v)
  else .error (.panic "reflect.Value.Interface")

/-- The loop of `EvalTerms` and of `HasPath`, which differ only in the error they return when a
term selects a nil pointer. A step takes its orders as `EvalMember` does, and the steps after it
take theirs from `order.call 1`. -/
def walkTerms (nilPointer : Failure) (order : RangeOrders) :
    Option Value → List String → Except Failure (Option Value)
  | obj, [] => .ok obj
  | obj, term :: terms =>
    match fieldMap obj (order.call 0) with
    | .error e => .error e
    | .ok fields =>
      let keys := lookupMap fields (order.loop 0)
      match keys.get (toLower term) with
      | none => .error (.noDefinedField (typeString obj) (toLower term)
          ((keys.range (order.loop 1)).map Prod.fst))
      | some key =>
        match fields.get key with
        | none => .error (.panic "reflect.Value.Interface")
        | some (.pointer _ none) => .error nilPointer
        | some v =>
          match fieldInterface key v with
          | .error e => .error e
          | .ok obj => walkTerms nilPointer (order.call 1) obj terms

/-- `EvalTerms`, in a run whose `range` loops visit maps in the orders `order` picks. -/
def evalTerms (obj : Option Value) (terms : List String) (order : RangeOrders := .insertion) :
    Except Failure (Option Value) :=
  walkTerms .unresolvable order obj terms

/-- `HasPath`, in a run whose `range` loops visit maps in the orders `order` picks. -/
def hasPath (obj : Option Value) (terms : List String) (order : RangeOrders := .insertion) :
    Except Failure Unit :=
  (walkTerms .fieldIsNil order obj terms).map fun _ => ()

theorem walkTerms_append (nilPointer : Failure) (order : RangeOrder) (terms₁ terms₂ : List String) :
    ∀ obj, walkTerms nilPointer order obj (terms₁ ++ terms₂) =
      (walkTerms nilPointer order obj terms₁).bind fun obj => walkTerms nilPointer order obj terms₂ := by
  induction terms₁ with
  | nil => exact fun _ => rfl
  | cons term terms ih =>
    intro obj
    simp only [List.cons_append, walkTerms]
    -- every branch of one step fails alike on both sides, but the last, which recurses
    repeat' split
    all_goals first | rfl | exact ih _

theorem walkTerms_nilPointer (n₁ n₂ : Failure) (terms : List String) :
    ∀ (order : RangeOrders) obj, walkTerms n₂ order obj terms = walkTerms n₁ order obj terms ∨
      walkTerms n₁ order obj terms = .error n₁ ∧ walkTerms n₂ order obj terms = .error n₂ := by
  induction terms with
  | nil => exact fun _ _ => .inl rfl
  | cons term terms ih =>
    intro order obj
    simp only [walkTerms]
    repeat' split
    all_goals first | exact .inl rfl | exact .inr ⟨rfl, rfl⟩ | exact ih _ _

theorem hasPath_agrees_with_evalTerms (obj : Option Value) (terms : List String)
    (order : RangeOrders) :
    hasPath obj terms order = (evalTerms obj terms order).map (fun _ => ()) ∨
      evalTerms obj terms order = .error .unresolvable ∧
        hasPath obj terms order = .error .fieldIsNil := by
  unfold hasPath evalTerms
  rcases walkTerms_nilPointer .unresolvable .fieldIsNil terms order obj with same | ⟨nil₁, nil₂⟩
  · exact .inl (by rw [same])
  · exact .inr ⟨nil₁, by rw [nil₂]; rfl⟩

/-- A struct with a string field `Name` and a nil interface field `Cfg`. -/
def nameAndNilConfig : Value :=
  .struct "Config" [(⟨"Name", .basic "string", false⟩, .basic "string" "x"),
    (⟨"Cfg", .interface "interface {}", false⟩, .interface "interface {}" none)]

theorem evalTerms_panics_past_string_field :
    evalTerms (some nameAndNilConfig) ["name", "x"] = .error (.panic "reflect.Type.NumField") ∧
      evalTerms (some nameAndNilConfig) ["cfg"] = .ok none :=
  ⟨rfl, rfl⟩

end Converge.Preprocessor
