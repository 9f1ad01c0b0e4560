import Converge.FieldMap

/-!
# Map iteration order: what `FieldMap`, `EvalMember`, `EvalTerms` and `HasPath` depend on

Go visits a map in a new order on every `range` loop; the model runs each call under a
`RangeOrder`. `FieldMap`'s loops do not depend on it: `promote_spec` and `finish_get`, beside
their definitions, say pointwise what each loop computes, and from them `fieldMap_get` says that
the map `FieldMap` returns is, as a function, the same in every order.

`lookupMap` does depend on it. Of the names that share a lower-case form it keeps one
(`lookupMap_get_eq_some`), and each of them is kept in some order (`lookupMap_last_get`), so
`EvalMember` can return the value of any field whose name matches up to case
(`evalMember_ok_iff`), and `EvalTerms` and `HasPath` walk through such fields
(`walkTerms_selects`). Whether `EvalMember` fails, and with which error, does not depend on the
order, but for the order of the names a missing-field error lists (`evalMember_error_perm`).
Where no struct along a path has two names of one lower-case form, neither do `EvalTerms` and
`HasPath` (`walkTerms_order_free`). On `site`, a struct with a declared `Url` and a promoted
`URL`, `EvalMember`, `EvalTerms` and `HasPath` return different results in two orders.
-/

namespace Converge.Preprocessor

open Reflect

namespace FieldMapState

/-- What the later steps of `FieldMap` read of its loop's state: each map as a function. -/
def view (st : FieldMapState) :
    (String → Option Nat) × (String → Option Value) × (String → Option Value) :=
  (st.embeddedRefs.get, st.unembeddedRefs.get, st.results.get)

private theorem set_get_congr {α : Type} {m₁ m₂ : GoMap α} (same : m₁.get = m₂.get) (k : String)
    (v : α) : (m₁.set k v).get = (m₂.set k v).get :=
  funext fun k' => by rw [GoMap.get_set, GoMap.get_set, same]

section Congruence

variable {st₁ st₂ : FieldMapState} (same : st₁.view = st₂.view)
include same

theorem view_setField (name : String) (v : Value) :
    view { st₁ with
      unembeddedRefs := st₁.unembeddedRefs.set name v
      results := st₁.results.set name v } =
    view { st₂ with
      unembeddedRefs := st₂.unembeddedRefs.set name v
      results := st₂.results.set name v } := by
  simp only [view, Prod.mk.injEq] at same ⊢
  exact ⟨same.1, set_get_congr same.2.1 name v, set_get_congr same.2.2 name v⟩

theorem view_setResults (name : String) (v : Value) :
    view { st₁ with results := st₁.results.set name v } =
      view { st₂ with results := st₂.results.set name v } := by
  simp only [view, Prod.mk.injEq] at same ⊢
  exact ⟨same.1, same.2.1, set_get_congr same.2.2 name v⟩

theorem view_promote {nested₁ nested₂ : GoMap Value} (nestedSame : nested₁.get = nested₂.get)
    (o₁ o₂ : RangeOrder) : (st₁.promote nested₁ o₁).view = (st₂.promote nested₂ o₂).view := by
  obtain ⟨unembedded₁, step₁⟩ := promote_spec st₁ nested₁ o₁
  obtain ⟨unembedded₂, step₂⟩ := promote_spec st₂ nested₂ o₂
  simp only [view, Prod.mk.injEq] at same ⊢
  refine ⟨funext fun k => ?_, by rw [unembedded₁, unembedded₂, same.2.1], funext fun k => ?_⟩
  · rw [(step₁ k).1, (step₂ k).1, same.1, nestedSame]
  · rw [(step₁ k).2, (step₂ k).2, same.2.2, nestedSame]

theorem finish_congr (o₁ o₂ : RangeOrder) : (st₁.finish o₁).get = (st₂.finish o₂).get := by
  simp only [view, Prod.mk.injEq] at same
  funext k
  rw [finish_get, finish_get, same.1, same.2.1, same.2.2]

end Congruence

end FieldMapState

open FieldMapState

private theorem map_finish_get {o₁ o₂ : RangeOrder} {x₁ x₂ : Except Failure FieldMapState}
    (same : x₁.map view = x₂.map view) :
    (x₁.map (·.finish o₁)).map GoMap.get = (x₂.map (·.finish o₂)).map GoMap.get := by
  cases x₁ <;> cases x₂ <;>
    simp only [Except.map, Except.error.injEq, Except.ok.injEq, reduceCtorEq] at same ⊢
  · exact same
  · exact finish_congr same o₁ o₂

mutual

theorem fieldMapValue_get : ∀ (o₁ o₂ : RangeOrders) (v : Value),
    (fieldMapValue o₁ v).map GoMap.get = (fieldMapValue o₂ v).map GoMap.get
  | _, _, .pointer _ none | _, _, .interface _ none | _, _, .nilable _ true | _, _, .array _
  | _, _, .basic .. | _, _, .nilable _ false => rfl
  | o₁, o₂, .interface _ (some dynamic) => fieldMapValue_get o₁ o₂ dynamic
  | o₁, o₂, .pointer _ (some target) => fieldMapElem_get o₁ o₂ target
  | o₁, o₂, .struct _ fields => map_finish_get (fieldMapFields_view o₁ o₂ fields .empty .empty rfl)

theorem fieldMapElem_get : ∀ (o₁ o₂ : RangeOrders) (v : Value),
    (fieldMapElem o₁ v).map GoMap.get = (fieldMapElem o₂ v).map GoMap.get
  | o₁, o₂, .pointer _ (some target) => fieldMapElem_get o₁ o₂ target
  | o₁, o₂, .interface _ (some dynamic) => fieldMapElem_get o₁ o₂ dynamic
  | o₁, o₂, .struct _ fields => map_finish_get (fieldMapFields_view o₁ o₂ fields .empty .empty rfl)
  | _, _, .interface _ none | _, _, .basic .. | _, _, .array _ | _, _, .nilable ..
  | _, _, .pointer _ none => rfl

theorem fieldMapFields_view : ∀ (o₁ o₂ : RangeOrders) (fields : List (Field × Value))
    (st₁ st₂ : FieldMapState), st₁.view = st₂.view →
    (fieldMapFields o₁ fields st₁).map view = (fieldMapFields o₂ fields st₂).map view
  | _, _, [], _, _, same => congrArg Except.ok same
  | o₁, o₂, (field, v) :: rest, st₁, st₂, same => by
    have value := fieldMapValue_get (o₁.call 1) (o₂.call 1) v
    simp only [fieldMapFields]
    cases field.anonymous with
    | false => exact fieldMapFields_view _ _ rest _ _ (view_setField same field.name v)
    | true =>
      cases nilCheck v with
      | error e => rfl
      | ok isNil =>
        cases isNil with
        | true => exact fieldMapFields_view _ _ rest _ _ (view_setResults same field.name v)
        | false =>
          cases exported field.name with
          | false => rfl
          | true =>
            cases h₁ : fieldMapValue (o₁.call 1) v <;> cases h₂ : fieldMapValue (o₂.call 1) v <;>
              simp only [h₁, h₂, if_true, Except.map, Except.error.injEq, Except.ok.injEq,
                reduceCtorEq] at value ⊢
            · exact value
            · exact fieldMapFields_view _ _ rest _ _
                (view_setResults (view_promote same value (o₁.loop 1) (o₂.loop 1)) field.name v)

end

theorem fieldMap_get (obj : Option Value) (o₁ o₂ : RangeOrders) :
    (fieldMap obj o₁).map GoMap.get = (fieldMap obj o₂).map GoMap.get := by
  cases obj with
  | none => rfl
  | some v => exact fieldMapValue_get o₁ o₂ v

theorem fieldMap_ok_iff (obj : Option Value) (order : RangeOrders) {f : String → Option Value} :
    (∃ m, fieldMap obj order = .ok m ∧ m.get = f) ↔ ∃ m, fieldMap obj = .ok m ∧ m.get = f := by
  have same : (fieldMap obj order).map GoMap.get = (fieldMap obj).map GoMap.get := by
    cases obj with
    | none => rfl
    | some v => exact fieldMapValue_get order .insertion v
  cases h₁ : fieldMap obj order <;> cases h₂ : fieldMap obj .insertion <;>
    simp_all [Except.map]

theorem fieldMap_error_iff (obj : Option Value) (o₁ o₂ : RangeOrders) (e : Failure) :
    fieldMap obj o₁ = .error e ↔ fieldMap obj o₂ = .error e := by
  have same : (fieldMap obj o₁).map GoMap.get = (fieldMap obj o₂).map GoMap.get := by
    cases obj with
    | none => rfl
    | some v => exact fieldMapValue_get o₁ o₂ v
  cases h₁ : fieldMap obj o₁ <;> cases h₂ : fieldMap obj o₂ <;> simp_all [Except.map]

/-! ## `lookupMap` keeps the name visited last -/

theorem lookupMap_get_eq_some {src : GoMap Value} {order : RangeOrder} {key k : String}
    (found : (lookupMap src order).get key = some k) : k ∈ src.keys ∧ toLower k = key := by
  suffices ∀ (l : List (String × Value)) (acc : GoMap String),
      (l.foldl (fun keys entry => keys.set (toLower entry.1) entry.1) acc).get key = some k →
        acc.get key = some k ∨ k ∈ l.map Prod.fst ∧ toLower k = key by
    rcases this _ _ found with found | ⟨member, lower⟩
    · simp at found
    · exact ⟨((src.range_perm order).map Prod.fst).mem_iff.mp member, lower⟩
  intro l
  induction l with
  | nil => exact fun _ => .inl
  | cons e l ih =>
    intro acc found
    rcases ih _ found with found | ⟨member, lower⟩
    · rw [GoMap.get_set] at found
      split at found
      · rename_i same
        obtain rfl := Option.some.inj found
        exact .inr ⟨List.mem_cons_self _ _, same.symm⟩
      · exact .inl found
    · exact .inr ⟨List.mem_cons_of_mem _ member, lower⟩

theorem lookupMap_last_get {src : GoMap Value} {k : String} (member : k ∈ src.keys) :
    (lookupMap src (.last k)).get (toLower k) = some k := by
  have later (l : List (String × Value)) (acc : GoMap String) (named : ∀ e ∈ l, e.1 = k)
      (found : acc.get (toLower k) = some k) :
      (l.foldl (fun keys entry => keys.set (toLower entry.1) entry.1) acc).get (toLower k) =
        some k := by
    induction l generalizing acc with
    | nil => exact found
    | cons e l ih =>
      simp only [List.mem_cons, forall_eq_or_imp] at named
      exact ih _ named.2 (by simp [named.1])
  obtain ⟨v, entry⟩ : ∃ v, (k, v) ∈ src.entries := by simpa [GoMap.keys] using member
  have kept : (k, v) ∈ src.entries.filter fun e => e.1 == k :=
    List.mem_filter.mpr ⟨entry, beq_self_eq_true k⟩
  obtain ⟨l₁, l₂, split⟩ := List.append_of_mem kept
  have named (e) (member : e ∈ l₂) : e.1 = k := by
    have : e ∈ src.entries.filter fun e => e.1 == k := by simp [split, member]
    simpa using (List.mem_filter.mp this).2
  unfold lookupMap GoMap.range RangeOrder.last
  dsimp only
  rw [split, List.foldl_append, List.foldl_append, List.foldl_cons]
  exact later l₂ _ named (by simp)

theorem lookupMap_isSome_congr {m₁ m₂ : GoMap Value} (same : m₁.get = m₂.get) (o₁ o₂ : RangeOrder)
    (key : String) :
    ((lookupMap m₁ o₁).get key).isSome = ((lookupMap m₂ o₂).get key).isSome := by
  rw [Bool.eq_iff_iff, lookupMap_get_isSome, lookupMap_get_isSome]
  simp only [GoMap.mem_keys]
  rw [same]

theorem lookupMap_range_perm {m₁ m₂ : GoMap Value} (same : m₁.get = m₂.get)
    (o₁ o₂ l₁ l₂ : RangeOrder) :
    (((lookupMap m₁ o₁).range l₁).map Prod.fst).Perm (((lookupMap m₂ o₂).range l₂).map Prod.fst) := by
  rw [List.perm_ext_iff_of_nodup ((lookupMap m₁ o₁).nodup_range l₁)
    ((lookupMap m₂ o₂).nodup_range l₂)]
  intro x
  rw [(((lookupMap m₁ o₁).range_perm l₁).map Prod.fst).mem_iff,
    (((lookupMap m₂ o₂).range_perm l₂).map Prod.fst).mem_iff]
  change x ∈ (lookupMap m₁ o₁).keys ↔ x ∈ (lookupMap m₂ o₂).keys
  rw [GoMap.mem_keys, GoMap.mem_keys, lookupMap_isSome_congr same o₁ o₂]

/-! ## What `EvalMember` can return -/

theorem evalMember_ok_sound {name : String} {obj r : Option Value} {order : RangeOrders}
    (run : evalMember name obj order = .ok r) :
    ∃ fields, fieldMap obj = .ok fields ∧
      ∃ k ∈ fields.keys, toLower k = toLower name ∧ fields.get k = r := by
  unfold evalMember at run
  cases h : fieldMap obj (order.call 0) with
  | error e => simp [h] at run
  | ok m =>
    cases found : (lookupMap m (order.loop 0)).get (toLower name) with
    | none => simp [h, found] at run
    | some k =>
      simp only [h, found, Except.ok.injEq] at run
      obtain ⟨member, lower⟩ := lookupMap_get_eq_some found
      obtain ⟨fields, h', same⟩ := (fieldMap_ok_iff obj (order.call 0)).mp ⟨m, h, rfl⟩
      refine ⟨fields, h', k, ?_, lower, by rw [same, run]⟩
      rwa [GoMap.mem_keys, same, ← GoMap.mem_keys]

theorem evalMember_ok_iff (name : String) (obj r : Option Value) :
    (∃ order : RangeOrders, evalMember name obj order = .ok r) ↔
      ∃ fields, fieldMap obj = .ok fields ∧
        ∃ k ∈ fields.keys, toLower k = toLower name ∧ fields.get k = r := by
  refine ⟨fun ⟨_, run⟩ => evalMember_ok_sound run, ?_⟩
  rintro ⟨fields, h, k, member, lower, rfl⟩
  obtain ⟨m, h', same⟩ := (fieldMap_ok_iff obj (.last k)).mpr ⟨fields, h, rfl⟩
  have found : (lookupMap m (.last k)).get (toLower k) = some k :=
    lookupMap_last_get (by rwa [GoMap.mem_keys, same, ← GoMap.mem_keys])
  refine ⟨.last k, ?_⟩
  simp only [evalMember, RangeOrders.last, RangeOrder.uniform_call, RangeOrder.uniform_loop]
  simp only [RangeOrders.last] at h'
  simp only [h', ← lower, found, same]

theorem evalMember_ok_unique {name : String} {obj r₁ r₂ : Option Value} {fields : GoMap Value}
    (h : fieldMap obj = .ok fields) (distinct : (fields.keys.map toLower).Nodup)
    {o₁ o₂ : RangeOrders} (run₁ : evalMember name obj o₁ = .ok r₁)
    (run₂ : evalMember name obj o₂ = .ok r₂) : r₁ = r₂ := by
  obtain ⟨_, h₁, k₁, member₁, lower₁, rfl⟩ := evalMember_ok_sound run₁
  obtain ⟨_, h₂, k₂, member₂, lower₂, rfl⟩ := evalMember_ok_sound run₂
  obtain rfl := Except.ok.inj (h₁.symm.trans h)
  obtain rfl := Except.ok.inj (h₂.symm.trans h)
  rw [List.inj_on_of_nodup_map distinct member₁ member₂ (lower₁.trans lower₂.symm)]

theorem evalMember_error_perm {name : String} {obj : Option Value} {o₁ o₂ : RangeOrders}
    {e₁ : Failure} (run₁ : evalMember name obj o₁ = .error e₁) :
    ∃ e₂, evalMember name obj o₂ = .error e₂ ∧ (e₁ = e₂ ∨ ∃ l₁ l₂,
      e₁ = .noField (typeString obj) name l₁ ∧ e₂ = .noField (typeString obj) name l₂ ∧
        l₁.Perm l₂) := by
  unfold evalMember at run₁ ⊢
  cases h₁ : fieldMap obj (o₁.call 0) with
  | error e =>
    rw [h₁] at run₁
    rw [(fieldMap_error_iff obj (o₁.call 0) (o₂.call 0) e).mp h₁]
    exact ⟨e, rfl, .inl (Except.error.inj run₁).symm⟩
  | ok m₁ =>
    obtain ⟨m₂, h₂, same⟩ := (fieldMap_ok_iff obj (o₂.call 0)).mpr
      ((fieldMap_ok_iff obj (o₁.call 0)).mp ⟨m₁, h₁, rfl⟩)
    rw [h₁] at run₁
    rw [h₂]
    dsimp only at run₁ ⊢
    cases found : (lookupMap m₁ (o₁.loop 0)).get (toLower name) with
    | some k => simp [found] at run₁
    | none =>
      have missing : (lookupMap m₂ (o₂.loop 0)).get (toLower name) = none := by
        rw [← Option.not_isSome_iff_eq_none, lookupMap_isSome_congr same (o₂.loop 0) (o₁.loop 0),
          found]
        exact Bool.false_ne_true
      simp only [found, missing, Except.error.injEq] at run₁ ⊢
      exact ⟨_, rfl, .inr ⟨_, _, run₁.symm, rfl, lookupMap_range_perm same.symm _ _ _ _⟩⟩

theorem evalMember_error_perm_config :
    evalMember "title" (some nameAndNilConfig) = .error (.noField "Config" "title" ["name", "cfg"]) ∧
      ∃ e₂, evalMember "title" (some nameAndNilConfig) (.last "Name") = .error e₂ ∧
        (Failure.noField "Config" "title" ["name", "cfg"] = e₂ ∨ ∃ l₁ l₂,
          Failure.noField "Config" "title" ["name", "cfg"] =
            .noField (typeString (some nameAndNilConfig)) "title" l₁ ∧
          e₂ = .noField (typeString (some nameAndNilConfig)) "title" l₂ ∧ l₁.Perm l₂) :=
  have run : evalMember "title" (some nameAndNilConfig) =
      .error (.noField "Config" "title" ["name", "cfg"]) := rfl
  ⟨run, evalMember_error_perm run⟩

/-! ## The walks of `EvalTerms` and `HasPath` -/

/-- The walks that `EvalTerms` and `HasPath` may take, whatever the order of their `range`
loops: at each term, the field of `FieldMap(obj)` under any name that is the term up to case,
unless it is a nil pointer. -/
inductive Selects : Option Value → List String → Option Value → Prop where
  | nil (obj : Option Value) : Selects obj [] obj
  | cons {obj : Option Value} {term : String} {terms : List String} {fields : GoMap Value}
      {k : String} {v : Value} {next r : Option Value} :
      fieldMap obj = .ok fields → k ∈ fields.keys → toLower k = toLower term →
      fields.get k = some v → (∀ t, v ≠ .pointer t none) → fieldInterface k v = .ok next →
      Selects next terms r → Selects obj (term :: terms) r

theorem walkTerms_selects (nilPointer : Failure) (order : RangeOrders) (obj : Option Value)
    (terms : List String) (r : Option Value) (run : walkTerms nilPointer order obj terms = .ok r) :
    Selects obj terms r := by
  induction terms generalizing obj order with
  | nil =>
    obtain rfl : obj = r := by simpa [walkTerms] using run
    exact .nil obj
  | cons term terms ih =>
    unfold walkTerms at run
    split at run
    · cases run
    · rename_i m h
      dsimp only at run
      split at run
      · cases run
      · rename_i k found
        obtain ⟨member, lower⟩ := lookupMap_get_eq_some found
        obtain ⟨fields, h', same⟩ := (fieldMap_ok_iff obj (order.call 0)).mp ⟨m, h, rfl⟩
        split at run
        · cases run
        · cases run
        · rename_i v notNil value
          split at run
          · cases run
          · rename_i next interface
            exact .cons h' (by rwa [GoMap.mem_keys, same, ← GoMap.mem_keys]) lower
              (by rw [same]; exact value) notNil interface (ih _ next run)

theorem walkTerms_selects_config :
    Selects (some nameAndNilConfig) ["name"] (some (.basic "string" "x")) :=
  walkTerms_selects .unresolvable .insertion _ _ _ rfl

/-! ## Walks without two names of one lower-case form -/

/-- No struct that the walk of `EvalTerms` and `HasPath` over `terms` meets has two names of one
lower-case form in its `FieldMap`. -/
inductive CaseDistinct : Option Value → List String → Prop where
  | nil (obj : Option Value) : CaseDistinct obj []
  | cons {obj : Option Value} {term : String} {terms : List String} :
      (∀ fields, fieldMap obj = .ok fields → (fields.keys.map toLower).Nodup) →
      (∀ fields k v next, fieldMap obj = .ok fields → fields.get k = some v →
        toLower k = toLower term → fieldInterface k v = .ok next → CaseDistinct next terms) →
      CaseDistinct obj (term :: terms)

/-- Two results of the walk that are equal, but for the order of the names that a missing-field
error lists. -/
inductive SameResult : Except Failure (Option Value) → Except Failure (Option Value) → Prop where
  | same (r : Except Failure (Option Value)) : SameResult r r
  | listed {type term : String} {l₁ l₂ : List String} : l₁.Perm l₂ →
      SameResult (.error (.noDefinedField type term l₁)) (.error (.noDefinedField type term l₂))

theorem lookupMap_get_eq {m₁ m₂ : GoMap Value} (same : m₁.get = m₂.get) {fields : GoMap Value}
    (reference : fields.get = m₁.get) (distinct : (fields.keys.map toLower).Nodup)
    {o₁ o₂ : RangeOrder} {key k₁ k₂ : String} (found₁ : (lookupMap m₁ o₁).get key = some k₁)
    (found₂ : (lookupMap m₂ o₂).get key = some k₂) : k₁ = k₂ := by
  obtain ⟨member₁, lower₁⟩ := lookupMap_get_eq_some found₁
  obtain ⟨member₂, lower₂⟩ := lookupMap_get_eq_some found₂
  rw [GoMap.mem_keys, ← reference, ← GoMap.mem_keys] at member₁
  rw [GoMap.mem_keys, ← same, ← reference, ← GoMap.mem_keys] at member₂
  exact List.inj_on_of_nodup_map distinct member₁ member₂ (lower₁.trans lower₂.symm)

theorem walkTerms_order_free (nilPointer : Failure) {obj : Option Value} {terms : List String}
    (distinct : CaseDistinct obj terms) (o₁ o₂ : RangeOrders) :
    SameResult (walkTerms nilPointer o₁ obj terms) (walkTerms nilPointer o₂ obj terms) := by
  induction distinct generalizing o₁ o₂ with
  | nil obj => exact .same _
  | @cons obj term terms keysDistinct _ ih =>
    unfold walkTerms
    cases h₁ : fieldMap obj (o₁.call 0) with
    | error e =>
      rw [(fieldMap_error_iff obj (o₁.call 0) (o₂.call 0) e).mp h₁]
      exact .same _
    | ok m₁ =>
      -- the map of the reference order, whose keys are distinct up to case
      have reference := (fieldMap_ok_iff obj (o₁.call 0)).mp ⟨m₁, h₁, rfl⟩
      obtain ⟨m₂, h₂, same⟩ := (fieldMap_ok_iff obj (o₂.call 0)).mpr reference
      obtain ⟨fields, h, reference⟩ := reference
      have keysDistinct := keysDistinct fields h
      rw [h₂]
      dsimp only
      cases found₁ : (lookupMap m₁ (o₁.loop 0)).get (toLower term) with
      | none =>
        have found₂ : (lookupMap m₂ (o₂.loop 0)).get (toLower term) = none := by
          rw [← Option.not_isSome_iff_eq_none, lookupMap_isSome_congr same (o₂.loop 0) (o₁.loop 0),
            found₁]
          exact Bool.false_ne_true
        rw [found₂]
        exact .listed (lookupMap_range_perm same.symm _ _ _ _)
      | some k =>
        obtain ⟨k₂, found₂⟩ : ∃ k₂, (lookupMap m₂ (o₂.loop 0)).get (toLower term) = some k₂ :=
          Option.isSome_iff_exists.mp
            (by rw [lookupMap_isSome_congr same (o₂.loop 0) (o₁.loop 0), found₁]; rfl)
        obtain rfl := lookupMap_get_eq same.symm reference keysDistinct found₁ found₂
        rw [found₂, same]
        dsimp only
        split
        · exact .same _
        · exact .same _
        · next _ v _ found =>
          split
          · exact .same _
          · next _ following interface =>
            exact ih fields k v following h (by rw [reference]; exact found)
              (lookupMap_get_eq_some found₁).2 interface _ _

theorem walkTerms_order_free_config :
    SameResult (walkTerms .unresolvable .insertion (some nameAndNilConfig) ["name"])
      (walkTerms .unresolvable .rotate (some nameAndNilConfig) ["name"]) := by
  refine walkTerms_order_free .unresolvable (.cons (fun fields found => ?_) fun _ _ _ _ _ _ _ _ => .nil _)
    .insertion .rotate
  have keys : (fieldMap (some nameAndNilConfig)).map GoMap.keys = .ok ["Name", "Cfg"] := rfl
  simp only [found, Except.map, Except.ok.injEq] at keys
  rw [keys]
  decide

/-! ## A declared `Url` and a promoted `URL` -/

/-- `type Link struct { URL *string }` and `type Site struct { Url string; Link }`. -/
def siteTypes : TypeEnv :=
  ⟨[("Site", [⟨"Url", .basic "string", false⟩, ⟨"Link", .struct "Link", true⟩]),
    ("Link", [⟨"URL", .pointer (.basic "string"), false⟩])], by decide⟩

/-- A `Site` whose `Url` is set and whose embedded `Link` has a nil `URL`. -/
def site : Value :=
  .struct "Site" [
    (⟨"Url", .basic "string", false⟩, .basic "string" "https://example.org"),
    (⟨"Link", .struct "Link", true⟩,
      .struct "Link" [(⟨"URL", .pointer (.basic "string"), false⟩, .pointer (.basic "string") none)])]

theorem evalTerms_depends_on_range_order :
    site.typed siteTypes = true ∧
      (fieldMap (some site)).map GoMap.keys = .ok ["Url", "URL", "Link"] ∧
      evalMember "url" (some site) = .ok (some (.pointer (.basic "string") none)) ∧
      evalMember "url" (some site) .rotate = .ok (some (.basic "string" "https://example.org")) ∧
      evalTerms (some site) ["url"] = .error .unresolvable ∧
      evalTerms (some site) ["url"] .rotate = .ok (some (.basic "string" "https://example.org")) ∧
      hasPath (some site) ["url"] = .error .fieldIsNil ∧
      hasPath (some site) ["url"] .rotate = .ok () ∧
      evalTerms (some site) ["title"] = .error (.noDefinedField "Site" "title" ["url", "link"]) ∧
      evalTerms (some site) ["title"] .rotate =
        .error (.noDefinedField "Site" "title" ["link", "url"]) :=
  ⟨rfl, rfl, rfl, rfl, rfl, rfl, rfl, rfl, rfl, rfl⟩

end Converge.Preprocessor
