import Converge.FieldMap

/-!
# What `FieldMap` makes of a struct

The doc comment of `FieldMap`: a field defined in more than one embedded struct is excluded
unless it is also present in the parent struct, and the fields of the struct take priority over
those of embedded structs. `fieldMap_struct_get` says exactly what `FieldMap` maps each name to,
from the struct's own fields and the maps `FieldMap` makes of its embedded fields: a name that
two or more embedded fields promote takes the struct's own non-embedded field of that name, or is
absent; any other name takes the struct's own field of that name, embedded or not, and else the
value from the first embedded field that promotes it. An embedded field of the struct is not
"present in the parent" in this sense.

`fieldMapFields_spec` is the invariant of the loop over the fields, from any state, built on
`promote_spec` and `finish_get`.
-/

namespace Converge.Preprocessor

open Reflect

/-- The value of the struct's own field named `k`, embedded or not; of two, the later, which
`results[sfield.Name]` writes last. -/
def ownValue : List (Field × Value) → String → Option Value
  | [], _ => none
  | (field, v) :: rest, k => (ownValue rest k).or (if k = field.name then some v else none)

/-- The value of the struct's own non-embedded field named `k`, which `unembeddedRefs` keeps. -/
def declaredValue (fields : List (Field × Value)) (k : String) : Option Value :=
  ownValue (fields.filter fun p => !p.1.anonymous) k

/-- The maps `FieldMap` makes of the struct's embedded fields that are not nil, in the order of
the fields: the maps that its loop promotes names from. -/
def promotedMaps (order : RangeOrders) : List (Field × Value) → List (GoMap Value)
  | [] => []
  | (field, v) :: rest =>
    if field.anonymous then
      match nilCheck v, fieldMapValue (order.call 1) v with
      | .ok false, .ok nested => nested :: promotedMaps (order.call 2) rest
      | _, _ => promotedMaps (order.call 2) rest
    else promotedMaps (order.call 2) rest

/-- How many of `maps` have `k`: the count `embeddedRefs` keeps for it. -/
def promotions (maps : List (GoMap Value)) (k : String) : Nat :=
  maps.countP fun nested => (nested.get k).isSome

/-- The value of `k` in the first of `maps` that has it. -/
def firstPromoted : List (GoMap Value) → String → Option Value
  | [], _ => none
  | nested :: maps, k => (nested.get k).or (firstPromoted maps k)

theorem fieldMapFields_spec : ∀ (order : RangeOrders) (fields : List (Field × Value))
    (st st' : FieldMapState), fieldMapFields order fields st = .ok st' → ∀ k,
      st'.unembeddedRefs.get k = (declaredValue fields k).or (st.unembeddedRefs.get k) ∧
      st'.results.get k = (ownValue fields k).or
        ((st.results.get k).or (firstPromoted (promotedMaps order fields) k)) ∧
      (st'.embeddedRefs.get k).getD 0 =
        (st.embeddedRefs.get k).getD 0 + promotions (promotedMaps order fields) k
  | _, [], st, st', run, k => by
    cases run
    simp [declaredValue, ownValue, promotedMaps, promotions, firstPromoted]
  | order, (field, v) :: rest, st, st', run, k => by
    simp only [fieldMapFields] at run
    cases anon : field.anonymous
    · simp only [anon, Bool.false_eq_true, if_false] at run
      obtain ⟨unembedded, results, counted⟩ := fieldMapFields_spec (order.call 2) rest _ _ run k
      refine ⟨?_, ?_, ?_⟩
      · rw [unembedded]
        by_cases same : k = field.name <;>
          simp [same, declaredValue, List.filter_cons, anon, ownValue, Option.or_assoc]
      · rw [results]
        by_cases same : k = field.name <;>
          simp [same, ownValue, promotedMaps, anon, Option.or_assoc]
      · simpa [promotedMaps, anon] using counted
    · simp only [anon, if_true] at run
      cases nil : nilCheck v with
      | error e => simp [nil] at run
      | ok isNil =>
        cases isNil with
        | true =>
          simp only [nil] at run
          obtain ⟨unembedded, results, counted⟩ := fieldMapFields_spec (order.call 2) rest _ _ run k
          refine ⟨?_, ?_, ?_⟩
          · simp [unembedded, declaredValue, List.filter_cons, anon]
          · rw [results]
            by_cases same : k = field.name <;>
              simp [same, ownValue, promotedMaps, anon, nil, Option.or_assoc]
          · simpa [promotedMaps, anon, nil] using counted
        | false =>
          simp only [nil] at run
          cases exp : exported field.name
          · simp [exp] at run
          · cases value : fieldMapValue (order.call 1) v with
            | error e => simp [exp, value] at run
            | ok nested =>
              simp only [exp, value, if_true] at run
              obtain ⟨unembedded, results, counted⟩ := fieldMapFields_spec (order.call 2) rest _ _ run k
              obtain ⟨kept, step⟩ := st.promote_spec nested (order.loop 1)
              refine ⟨?_, ?_, ?_⟩
              · simp [unembedded, kept, declaredValue, List.filter_cons, anon]
              · rw [results, GoMap.get_set, (step k).2]
                by_cases same : k = field.name <;> simp [same, ownValue, promotedMaps, anon, nil,
                  value, firstPromoted, Option.or_assoc]
              · rw [counted, (step k).1]
                cases found : (nested.get k).isSome
                · simp [found, promotedMaps, anon, nil, value, promotions]
                · simp [found, promotedMaps, anon, nil, value, promotions]
                  omega

theorem fieldMap_struct_get (n : String) (fields : List (Field × Value)) (order : RangeOrders) :
    (fieldMap (some (.struct n fields)) order).map GoMap.get =
      (fieldMap (some (.struct n fields)) order).map fun _ k =>
        if promotions (promotedMaps order fields) k ≤ 1 then
          (ownValue fields k).or (firstPromoted (promotedMaps order fields) k)
        else declaredValue fields k := by
  simp only [fieldMap, fieldMapValue]
  cases walk : fieldMapFields order fields .empty with
  | error e => rfl
  | ok st =>
    simp only [Except.map, Except.ok.injEq]
    funext k
    obtain ⟨unembedded, results, counted⟩ := fieldMapFields_spec order fields _ _ walk k
    simp only [FieldMapState.empty, GoMap.get_empty, Option.getD_none, Nat.zero_add,
      Option.or_none, Option.none_or] at unembedded results counted
    rw [FieldMapState.finish_get, counted, results, unembedded]

end Converge.Preprocessor
