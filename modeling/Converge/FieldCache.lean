import Converge.FieldMap

/-!
# `addFieldsToMap`, `fieldMap`, `LookupCanonicalFieldName` and `HasField`

`addFieldsToMap` works on Go maps by reference. It adds the names of a struct type, and of the
struct types it embeds, to the map object `m` it is given, under their lower-case forms. It
reads the process-wide `fieldMapCache` at every struct type it enters, and writes `m` itself
there for every struct type it leaves. A `Store` holds the map objects, addressed by index,
and the cache, which maps a struct type to the index of a map object; the store is threaded
from one call to the next, as the cache lives for the whole process.

From an empty cache, the walk of a well-typed record whose embedded fields hold records, and
whose field paths have distinct names, never reads the cache. In the one map object it was given
it sets each lower-case form under the first name of the field paths of that form, and sends a
later name of that form to the conflicts (`canonicalFieldMap_of_nodup`).

`FieldByName` belongs to `reflect` and is modelled from its documentation.
-/

namespace Converge.Preprocessor

open Reflect

/-- The map objects that `addFieldsToMap` writes, addressed by index, and `fieldMapCache`. -/
structure Store where
  maps : List (GoMap String)
  cache : GoMap Nat

namespace Store

def empty : Store :=
  ⟨[], .empty⟩

/-- The map object at `ref`. -/
def read (s : Store) (ref : Nat) : GoMap String :=
  s.maps.getD ref .empty

/-- `m[k] = v` on the map object at `ref`. -/
def write (s : Store) (ref : Nat) (k v : String) : Store :=
  { s with maps := s.maps.set ref ((s.read ref).set k v) }

/-- `make(map[string]string)`: a new empty map object and its reference. -/
def alloc (s : Store) : Nat × Store :=
  (s.maps.length, { s with maps := s.maps ++ [.empty] })

/-- `fieldMapCache.Put(t, m)`. -/
def put (s : Store) (t : String) (ref : Nat) : Store :=
  { s with cache := s.cache.set t ref }

variable {s : Store} {r r' : Nat} {k v t : String}

@[simp] theorem length_write : (s.write r k v).maps.length = s.maps.length := by
  simp [write]

@[simp] theorem cache_write : (s.write r k v).cache = s.cache := rfl

theorem read_write_self (valid : r < s.maps.length) :
    (s.write r k v).read r = (s.read r).set k v := by
  simp [read, write, valid]

theorem read_write (r' : Nat) : (s.write r k v).read r' =
    if r' = r ∧ r < s.maps.length then (s.read r).set k v else s.read r' := by
  split
  · next same => rw [same.1, read_write_self same.2]
  · next other =>
    simp only [write, read, List.getD_eq_getElem?_getD, List.getElem?_set]
    split
    · next same =>
      subst same
      have long : s.maps.length ≤ r := by omega
      simp [List.getElem?_eq_none long, Nat.not_lt.mpr long]
    · rfl

@[simp] theorem read_alloc : s.alloc.2.read r = s.read r := by
  simp only [alloc, read, List.getD_eq_getElem?_getD]
  rcases Nat.lt_or_ge r s.maps.length with short | long
  · rw [List.getElem?_append_left short]
  · rw [List.getElem?_append_right long, List.getElem?_eq_none long]
    cases r - s.maps.length <;> simp

@[simp] theorem cache_alloc : s.alloc.2.cache = s.cache := rfl

@[simp] theorem maps_put : (s.put t r).maps = s.maps := rfl

@[simp] theorem read_put : (s.put t r).read r' = s.read r' := rfl

@[simp] theorem cache_put : (s.put t r).cache = s.cache.set t r := rfl

end Store

/-- `interfaceToConcreteType` of a `reflect.Type`: the type under all its pointers. -/
def interfaceToConcreteType : GoType → GoType
  | .pointer elem => interfaceToConcreteType elem
  | t => t

/-- The loop of `addFieldsToMap` over the fields of a struct type; `recurse` is the call on an
embedded struct type. The loop carries the reference `m` it goes on with, which that call may
replace, the conflicts, and the store. -/
def addFields (recurse : Nat → List String → String → Store → Option (Nat × List String × Store)) :
    List Field → Nat → List String → Store → Option (Nat × List String × Store)
  | [], m, conflicts, store => some (m, conflicts, store)
  | field :: rest, m, conflicts, store =>
    let lower := toLower field.name
    if field.anonymous then
      let store :=
        if ((store.read m).get lower).isSome then store else store.write m lower field.name
      match interfaceToConcreteType field.type with
      | .struct anon =>
        match recurse m conflicts anon store with
        | some (m, conflicts, store) => addFields recurse rest m conflicts store
        | none => none
      | _ => addFields recurse rest m conflicts store
    else if ((store.read m).get lower).isSome then
      addFields recurse rest m (conflicts.insert lower) store
    else if lower ∈ conflicts then addFields recurse rest m conflicts store
    else addFields recurse rest m conflicts (store.write m lower field.name)

/-- `addFieldsToMap`, with its recursion through embedded struct types bounded by `fuel`;
`none` when the fuel runs out. It returns the reference its caller goes on with: `m`, or the
map object cached for `t`. The source's error result is never made, and is left out. -/
def addFieldsToMap (env : TypeEnv) :
    Nat → Nat → List String → String → Store → Option (Nat × List String × Store)
  | 0, _, _, _, _ => none
  | fuel + 1, m, conflicts, t, store =>
    match store.cache.get t with
    | some cached => some (cached, conflicts, store)
    | none =>
      match addFields (addFieldsToMap env fuel) (env.fields t) m conflicts store with
      | some (m, conflicts, store) => some (m, conflicts, store.put t m)
      | none => none

theorem addFieldsToMap_uncached {env : TypeEnv} {fuel m : Nat} {conflicts : List String}
    {t : String} {store : Store} (miss : store.cache.get t = none) :
    addFieldsToMap env (fuel + 1) m conflicts t store =
      (addFields (addFieldsToMap env fuel) (env.fields t) m conflicts store).map
        fun r => (r.1, r.2.1, r.2.2.put t r.1) := by
  simp only [addFieldsToMap, miss]
  cases addFields (addFieldsToMap env fuel) (env.fields t) m conflicts store <;> rfl

/-- `fieldMap` of the source, not `FieldMap`: a new map object filled by `addFieldsToMap` and
read when it returns. The `%T` in its error is that of its `reflect.Type` argument. -/
def canonicalFieldMap (env : TypeEnv) (fuel : Nat) (t : GoType) (store : Store) :
    Option (Except Failure (GoMap String) × Store) :=
  let (m, store) := store.alloc
  match interfaceToConcreteType t with
  | .struct name =>
    match addFieldsToMap env fuel m [] name store with
    | some (m, _, store) => some (.ok (store.read m), store)
    | none => none
  | _ => some (.error (.nonStruct "*reflect.rtype"), store)

/-- `LookupCanonicalFieldName`. -/
def lookupCanonicalFieldName (env : TypeEnv) (fuel : Nat) (t : GoType) (term : String)
    (store : Store) : Option (Except Failure String × Store) :=
  let term := toLower term
  match canonicalFieldMap env fuel t store with
  | some (.ok m, store) =>
    match m.get term with
    | some correctCase => some (.ok correctCase, store)
    | none => some (.error (.noMatchingField t.name term m.keys), store)
  | some (.error e, store) => some (.error e, store)
  | none => none

/-- Calls of `LookupCanonicalFieldName` one after another, each on the cache that the one
before it left. -/
def lookupCanonicalFieldNames (env : TypeEnv) (fuel : Nat) :
    List (GoType × String) → Store → Option (List (Except Failure String))
  | [], _ => some []
  | (t, term) :: calls, store =>
    match lookupCanonicalFieldName env fuel t term store with
    | some (result, store) => (lookupCanonicalFieldNames env fuel calls store).map (result :: ·)
    | none => none

/-- `Outer` embeds `Inner` ahead of its own field `X`. -/
def innerOuter : TypeEnv :=
  ⟨[("Inner", [⟨"A", .basic "string", false⟩]),
    ("Outer", [⟨"Inner", .struct "Inner", true⟩, ⟨"X", .basic "string", false⟩])], by decide⟩

theorem lookupCanonicalFieldName_reads_outer_fields :
    lookupCanonicalFieldNames innerOuter 3 [(.struct "Outer", "x"), (.struct "Inner", "x")] .empty =
      some [.ok "X", .ok "X"] ∧
    lookupCanonicalFieldNames innerOuter 3 [(.struct "Inner", "x")] .empty =
      some [.error (.noMatchingField "Inner" "x" ["a"])] :=
  ⟨rfl, rfl⟩

/-! ## Records whose field paths have distinct names -/

/-- The map that `addFieldsToMap` makes of `names`: each lower-case form that is not there yet,
under the first of the names of that form. -/
def setFirst (names : List String) (m : GoMap String) : GoMap String :=
  names.foldl (fun acc k => if (acc.get (toLower k)).isSome then acc else acc.set (toLower k) k) m

@[simp] theorem setFirst_nil (m : GoMap String) : setFirst [] m = m := rfl

@[simp] theorem setFirst_cons (k : String) (names : List String) (m : GoMap String) :
    setFirst (k :: names) m =
      setFirst names (if (m.get (toLower k)).isSome then m else m.set (toLower k) k) := rfl

@[simp] theorem setFirst_append (a b : List String) (m : GoMap String) :
    setFirst (a ++ b) m = setFirst b (setFirst a m) :=
  List.foldl_append _ _ _ _

theorem setFirst_isSome (names : List String) (m : GoMap String) (key : String) :
    ((setFirst names m).get key).isSome ↔ (m.get key).isSome ∨ ∃ k ∈ names, toLower k = key := by
  induction names generalizing m with
  | nil => simp
  | cons k names ih =>
    rw [setFirst_cons, ih]
    by_cases same : key = toLower k
    · subst same
      split <;> simp_all
    · split <;> simp [same, Ne.symm same]

theorem setFirst_eq_some {names : List String} {m : GoMap String} {key c : String}
    (found : (setFirst names m).get key = some c) :
    m.get key = some c ∨ c ∈ names ∧ toLower c = key := by
  induction names generalizing m with
  | nil => exact .inl found
  | cons k names ih =>
    rcases ih found with found | ⟨member, lower⟩
    · by_cases here : (m.get (toLower k)).isSome
      · simp only [here, if_true] at found
        exact .inl found
      · simp only [here, Bool.false_eq_true, if_false, GoMap.get_set] at found
        split at found
        · next same =>
          cases found
          exact .inr ⟨List.mem_cons_self _ _, same.symm⟩
        · exact .inl found
    · exact .inr ⟨List.mem_cons_of_mem _ member, lower⟩

/-- What a walk that enters the struct types `entered` needs of the store: the map object at
`m` exists and has every conflict as a key, and the cache holds none of the types. -/
structure Fresh (store : Store) (m : Nat) (conflicts entered : List String) : Prop where
  valid : m < store.maps.length
  conflicted : ∀ x ∈ conflicts, ((store.read m).get x).isSome
  uncached : ∀ t ∈ entered, store.cache.get t = none

/-- `after` is `before` with `names` set in the map object at `m` as `setFirst` sets them, and
with no cache entry changed but those of `entered`. -/
structure AddsNames (before after : Store) (m : Nat) (names entered : List String) : Prop where
  length : after.maps.length = before.maps.length
  read : after.read m = setFirst names (before.read m)
  cache : ∀ t ∉ entered, after.cache.get t = before.cache.get t

theorem AddsNames.trans {s₁ s₂ s₃ : Store} {m : Nat} {a b ea eb : List String}
    (first : AddsNames s₁ s₂ m a ea) (second : AddsNames s₂ s₃ m b eb) :
    AddsNames s₁ s₃ m (a ++ b) (ea ++ eb) :=
  ⟨second.length.trans first.length, by rw [second.read, first.read, setFirst_append],
    fun t absent => by
      simp only [List.mem_append, not_or] at absent
      rw [second.cache t absent.2, first.cache t absent.1]⟩

/-- The store after one name is set the way `addFieldsToMap` sets it: only when its lower-case
form is not there yet. -/
def Store.setFirst (store : Store) (m : Nat) (name : String) : Store :=
  if ((store.read m).get (toLower name)).isSome then store else store.write m (toLower name) name

theorem AddsNames.setFirst {store : Store} {m : Nat} (valid : m < store.maps.length)
    (name : String) : AddsNames store (store.setFirst m name) m [name] [] := by
  unfold Store.setFirst
  split
  · exact ⟨rfl, by simp [*], fun _ _ => rfl⟩
  · exact ⟨by simp, by simp [*, Store.read_write_self valid], fun _ _ => rfl⟩

theorem Fresh.set {store store' : Store} {m : Nat} {conflicts names entered : List String}
    (fresh : Fresh store m conflicts entered) (adds : AddsNames store store' m names []) :
    Fresh store' m conflicts entered :=
  ⟨adds.length ▸ fresh.valid, fun x member => by
    rw [adds.read, setFirst_isSome]
    exact .inl (fresh.conflicted x member),
    fun t member => by rw [adds.cache t (List.not_mem_nil t)]; exact fresh.uncached t member⟩

theorem record_cases {env : TypeEnv} : ∀ {v : Value}, recordEmbedsRecords v = true →
    v.typed env = true → ∃ t fields, recordPaths v = fieldPaths fields ∧
      interfaceToConcreteType v.type = .struct t ∧ embeddedStruct v.type = some t ∧
      (Value.struct t fields).typed env = true ∧ embedsRecords fields = true
  | .struct t fields, embeds, typed => ⟨t, fields, rfl, rfl, rfl, typed, embeds⟩
  | .pointer elem (some (.struct t fields)), embeds, typed => by
    rw [Value.typed, Bool.and_eq_true, beq_iff_eq] at typed
    obtain ⟨rfl, typed⟩ := typed
    exact ⟨t, fields, rfl, rfl, rfl, typed, embeds⟩
  | .basic .., embeds, _ | .array _, embeds, _ | .nilable .., embeds, _
  | .interface .., embeds, _ | .pointer _ none, embeds, _
  | .pointer _ (some (.basic ..)), embeds, _ | .pointer _ (some (.array _)), embeds, _
  | .pointer _ (some (.nilable ..)), embeds, _ | .pointer _ (some (.pointer ..)), embeds, _
  | .pointer _ (some (.interface ..)), embeds, _ => nomatch embeds

private theorem addFieldsToMap_of_walk {env : TypeEnv} {fields : List (Field × Value)} {t : String}
    {fuel m : Nat} {conflicts : List String} {store : Store}
    (typed : (Value.struct t fields).typed env = true) (enough : (fieldPaths fields).length < fuel)
    (fresh : Fresh store m conflicts (t :: embeddedNames fields))
    (walk : ∀ fuel, Value.fieldsTyped env fields = true → (∀ p ∈ fields, p.1 ∈ env.fields t) →
      (fieldPaths fields).length ≤ fuel → Fresh store m conflicts (embeddedNames fields) →
      ∃ conflicts' store', addFields (addFieldsToMap env fuel) (fields.map Prod.fst) m conflicts
        store = some (m, conflicts', store') ∧
          AddsNames store store' m (pathNames fields) (embeddedNames fields) ∧
          Fresh store' m conflicts' []) :
    ∃ conflicts' store', addFieldsToMap env fuel m conflicts t store = some (m, conflicts', store') ∧
      AddsNames store store' m (pathNames fields) (t :: embeddedNames fields) ∧
      Fresh store' m conflicts' [] := by
  obtain ⟨fuel, rfl⟩ : ∃ f, fuel = f + 1 := ⟨fuel - 1, by omega⟩
  simp only [Value.typed, Bool.and_eq_true, beq_iff_eq] at typed
  obtain ⟨conflicts', store', run, adds, fresh'⟩ := walk fuel typed.2
    (fun p member => typed.1 ▸ List.mem_map_of_mem _ member) (Nat.le_of_lt_succ enough)
    ⟨fresh.valid, fresh.conflicted, fun x member => fresh.uncached x (.tail _ member)⟩
  refine ⟨conflicts', store'.put t m, ?_, ⟨adds.length, adds.read, fun t' absent => ?_⟩,
    ⟨fresh'.valid, fresh'.conflicted, nofun⟩⟩
  · rw [addFieldsToMap_uncached (fresh.uncached t (List.mem_cons_self _ _)), ← typed.1, run]
    rfl
  · simp only [List.mem_cons, not_or] at absent
    simp [absent.1, adds.cache t' absent.2]

mutual

theorem addFields_of_nodup (env : TypeEnv) : ∀ (fields : List (Field × Value)) (n : String)
    (fuel m : Nat) (conflicts : List String) (store : Store),
    Value.fieldsTyped env fields = true → embedsRecords fields = true → (pathNames fields).Nodup →
    (∀ p ∈ fields, p.1 ∈ env.fields n) → (fieldPaths fields).length ≤ fuel →
    Fresh store m conflicts (embeddedNames fields) →
    ∃ conflicts' store', addFields (addFieldsToMap env fuel) (fields.map Prod.fst) m conflicts
      store = some (m, conflicts', store') ∧
        AddsNames store store' m (pathNames fields) (embeddedNames fields) ∧
        Fresh store' m conflicts' []
  | [], _, _, _, conflicts, store, _, _, _, _, _, fresh =>
    ⟨conflicts, store, rfl, ⟨rfl, rfl, fun _ _ => rfl⟩, ⟨fresh.valid, fresh.conflicted, nofun⟩⟩
  | (field, v) :: rest, n, fuel, m, conflicts, store, typed, embeds, distinct, declared, enough,
      fresh => by
    simp only [Value.fieldsTyped, Bool.and_eq_true, beq_iff_eq] at typed
    rw [pathNames_cons] at distinct ⊢
    rw [embeddedNames_cons] at fresh ⊢
    have declaredRest : ∀ p ∈ rest, p.1 ∈ env.fields n := fun p member => declared p (.tail _ member)
    have first := AddsNames.setFirst fresh.valid field.name
    cases anon : field.anonymous
    · simp only [embedsRecords, anon, Bool.not_false, Bool.true_or, Bool.true_and] at embeds
      simp only [anon, Bool.false_eq_true, if_false, List.nil_append] at distinct fresh ⊢
      rw [List.nodup_cons] at distinct
      have lengths : (fieldPaths rest).length ≤ fuel := by
        simp [fieldPaths, anon] at enough
        omega
      -- a declared field whose lower-case form is there goes to the conflicts, and changes no map
      by_cases present : ((store.read m).get (toLower field.name)).isSome
      · have same : store = store.setFirst m field.name := by simp [Store.setFirst, present]
        obtain ⟨conflicts', store', run, adds, fresh'⟩ := addFields_of_nodup env rest n fuel m
          (conflicts.insert (toLower field.name)) store typed.2 embeds distinct.2 declaredRest
          lengths ⟨fresh.valid, fun x member => by
            rcases List.mem_insert_iff.mp member with rfl | member
            · exact present
            · exact fresh.conflicted x member, fresh.uncached⟩
        rw [← same] at first
        exact ⟨conflicts', store', by simp [addFields, anon, present, run], first.trans adds, fresh'⟩
      · have free : toLower field.name ∉ conflicts := fun member =>
          present (fresh.conflicted _ member)
        have same : store.setFirst m field.name = store.write m (toLower field.name) field.name := by
          simp [Store.setFirst, present]
        obtain ⟨conflicts', store', run, adds, fresh'⟩ := addFields_of_nodup env rest n fuel m
          conflicts _ typed.2 embeds distinct.2 declaredRest lengths (fresh.set first)
        exact ⟨conflicts', store', by simp [addFields, anon, present, free, ← same, run],
          first.trans adds, fresh'⟩
    · simp only [embedsRecords, anon, Bool.not_true, Bool.false_or, Bool.and_eq_true] at embeds
      simp only [anon, if_true] at distinct fresh ⊢
      obtain ⟨t, -, -, concrete, reflected, -, -⟩ := record_cases embeds.1.2 typed.1.2
      have concreteField : interfaceToConcreteType field.type = .struct t := typed.1.1 ▸ concrete
      rw [typed.1.1] at reflected
      have named : t = field.name := by
        rcases env.embeddedNamed_of_mem (declared _ (List.mem_cons_self _ _)) anon with none | some
        · simp [reflected] at none
        · exact Option.some.inj (reflected.symm.trans some)
      subst named
      set t := field.name with named
      rw [List.nodup_cons, List.nodup_append] at distinct
      have lengths : (recordPaths v).length < fuel ∧ (fieldPaths rest).length ≤ fuel := by
        simp [fieldPaths, anon] at enough
        omega
      have recordFresh : Fresh (store.setFirst m t) m conflicts (t :: recordEmbedded v) :=
        ((⟨fresh.valid, fresh.conflicted, fun t' member => fresh.uncached t'
          (List.mem_append_left _ member)⟩ : Fresh store m conflicts (t :: recordEmbedded v))).set
          first
      obtain ⟨conflicts₁, store₁, run₁, adds₁, fresh₁⟩ := addFieldsToMap_of_record env v t fuel m
        conflicts _ typed.1.2 embeds.1.2 distinct.2.1 concrete lengths.1 recordFresh
      have head := first.trans adds₁
      have restFresh : Fresh store₁ m conflicts₁ (embeddedNames rest) := by
        refine ⟨fresh₁.valid, fresh₁.conflicted, fun t' member => ?_⟩
        have inRest := mem_pathNames_of_embedded member
        have other : t' ∉ [] ++ t :: recordEmbedded v := by
          simp only [List.nil_append, List.mem_cons, not_or]
          exact ⟨fun same => distinct.1 (List.mem_append_right _ (same ▸ inRest)),
            fun inside => distinct.2.2.2 (mem_recordNames_of_embedded inside) inRest⟩
        rw [head.cache t' other]
        exact fresh.uncached t' (List.mem_append_right _ member)
      obtain ⟨conflicts₂, store₂, run₂, adds₂, fresh₂⟩ := addFields_of_nodup env rest n fuel m
        conflicts₁ store₁ typed.2 embeds.2 distinct.2.2.1 declaredRest lengths.2 restFresh
      refine ⟨conflicts₂, store₂, ?_, head.trans adds₂, fresh₂⟩
      simp only [List.map_cons, addFields, anon, if_true, concreteField]
      rw [show (if ((store.read m).get (toLower t)).isSome then store
        else store.write m (toLower t) t) = store.setFirst m t from rfl, run₁]
      exact run₂

theorem addFieldsToMap_of_record (env : TypeEnv) : ∀ (v : Value) (t : String) (fuel m : Nat)
    (conflicts : List String) (store : Store),
    v.typed env = true → recordEmbedsRecords v = true → (recordNames v).Nodup →
    interfaceToConcreteType v.type = .struct t → (recordPaths v).length < fuel →
    Fresh store m conflicts (t :: recordEmbedded v) →
    ∃ conflicts' store', addFieldsToMap env fuel m conflicts t store = some (m, conflicts', store') ∧
      AddsNames store store' m (recordNames v) (t :: recordEmbedded v) ∧ Fresh store' m conflicts' []
  | .struct name fields, t, fuel, m, conflicts, store, typed, embeds, distinct, concrete, enough,
      fresh => by
    obtain rfl : t = name := by simpa [Value.type, interfaceToConcreteType] using concrete.symm
    exact addFieldsToMap_of_walk typed enough fresh fun fuel typed =>
      addFields_of_nodup env fields t fuel m conflicts store typed embeds distinct
  | .pointer _ (some (.struct name fields)), t, fuel, m, conflicts, store, typed, embeds, distinct,
      concrete, enough, fresh => by
    rw [Value.typed, Bool.and_eq_true, beq_iff_eq] at typed
    obtain ⟨rfl, typed⟩ := typed
    obtain rfl : t = name := by simpa [Value.type, interfaceToConcreteType] using concrete.symm
    exact addFieldsToMap_of_walk typed enough fresh fun fuel typed =>
      addFields_of_nodup env fields t fuel m conflicts store typed embeds distinct
  | .basic .., _, _, _, _, _, _, embeds, _, _, _, _
  | .array _, _, _, _, _, _, _, embeds, _, _, _, _
  | .nilable .., _, _, _, _, _, _, embeds, _, _, _, _
  | .interface .., _, _, _, _, _, _, embeds, _, _, _, _
  | .pointer _ none, _, _, _, _, _, _, embeds, _, _, _, _
  | .pointer _ (some (.basic ..)), _, _, _, _, _, _, embeds, _, _, _, _
  | .pointer _ (some (.array _)), _, _, _, _, _, _, embeds, _, _, _, _
  | .pointer _ (some (.nilable ..)), _, _, _, _, _, _, embeds, _, _, _, _
  | .pointer _ (some (.pointer ..)), _, _, _, _, _, _, embeds, _, _, _, _
  | .pointer _ (some (.interface ..)), _, _, _, _, _, _, embeds, _, _, _, _ => nomatch embeds

end

theorem canonicalFieldMap_of_nodup {env : TypeEnv} {n : String}
    {fields : List (Field × Value)} (typed : (Value.struct n fields).typed env = true)
    (embeds : embedsRecords fields = true) (distinct : (pathNames fields).Nodup) {fuel : Nat}
    (enough : (fieldPaths fields).length < fuel) :
    ∃ store, canonicalFieldMap env fuel (.struct n) .empty =
      some (.ok (setFirst (pathNames fields) .empty), store) := by
  obtain ⟨conflicts, store, run, adds, -⟩ := addFieldsToMap_of_record env (.struct n fields) n fuel 0
    [] ⟨[.empty], .empty⟩ typed embeds distinct rfl enough ⟨by decide, nofun, fun _ _ => rfl⟩
  refine ⟨store, ?_⟩
  simp only [canonicalFieldMap, Store.alloc, Store.empty, List.nil_append, List.length_nil,
    interfaceToConcreteType, run, adds.read]
  rfl

theorem lookupCanonicalFieldName_of_mem {env : TypeEnv} {n : String}
    {fields : List (Field × Value)} (typed : (Value.struct n fields).typed env = true)
    (embeds : embedsRecords fields = true) (distinct : (pathNames fields).Nodup) {fuel : Nat}
    (enough : (fieldPaths fields).length < fuel) {c term : String} (member : c ∈ pathNames fields)
    (same : toLower c = toLower term) :
    ∃ c' ∈ pathNames fields, toLower c' = toLower term ∧ ∃ store,
      lookupCanonicalFieldName env fuel (.struct n) term .empty = some (.ok c', store) := by
  obtain ⟨store, run⟩ := canonicalFieldMap_of_nodup typed embeds distinct enough
  obtain ⟨c', found⟩ := Option.isSome_iff_exists.mp
    ((setFirst_isSome (pathNames fields) .empty (toLower term)).mpr (.inr ⟨c, member, same⟩))
  obtain ⟨member', lower⟩ := (setFirst_eq_some found).resolve_left fun found => by
    simp [GoMap.get_empty] at found
  exact ⟨c', member', lower, store, by simp [lookupCanonicalFieldName, run, found]⟩

theorem lookupCanonicalFieldName_of_not_mem {env : TypeEnv} {n : String}
    {fields : List (Field × Value)} (typed : (Value.struct n fields).typed env = true)
    (embeds : embedsRecords fields = true) (distinct : (pathNames fields).Nodup) {fuel : Nat}
    (enough : (fieldPaths fields).length < fuel) {term : String}
    (missing : ∀ c ∈ pathNames fields, toLower c ≠ toLower term) :
    ∃ store e, lookupCanonicalFieldName env fuel (.struct n) term .empty = some (.error e, store) := by
  obtain ⟨store, run⟩ := canonicalFieldMap_of_nodup typed embeds distinct enough
  have absent : (setFirst (pathNames fields) .empty).get (toLower term) = none := by
    rw [← Option.not_isSome_iff_eq_none, setFirst_isSome]
    simpa using missing
  exact ⟨store, .noMatchingField n (toLower term) (setFirst (pathNames fields) .empty).keys,
    by simp [lookupCanonicalFieldName, run, absent, GoType.name]⟩

/-! ## `FieldByName` and `HasField` -/

/-- The names of the fields of struct `t` at embedding depth `depth`: its own fields at depth 0,
and at depth `d + 1` the fields at depth `d` of the structs its embedded fields lead into. A
name occurs once for every way to reach it. -/
def fieldsAtDepth (env : TypeEnv) : Nat → String → List String
  | 0, t => (env.fields t).map Field.name
  | depth + 1, t => (env.fields t).flatMap fun field =>
    if field.anonymous then
      match embeddedStruct field.type with
      | some inner => fieldsAtDepth env depth inner
      | none => []
    else []

/-- Modelled from the documentation of `reflect`: `t.FieldByName(name)` finds the field named
`name` at the shallowest depth of struct `t` that has one, unless that depth has two. A
shallowest field is reached through no declared field twice, so only the depths below
the number of declared fields are searched. It panics on a type that is not a struct, which `HasField`
never passes it. -/
def fieldByName (env : TypeEnv) (t : GoType) (name : String) : Bool :=
  match t with
  | .struct t =>
    match (List.range env.allFields.length).find? fun depth => name ∈ fieldsAtDepth env depth t with
    | some depth => (fieldsAtDepth env depth t).count name == 1
    | none => false
  | _ => false

/-- `HasField` on the type of its argument: a `reflect.Type`, the type of a `reflect.Value`, or
the dynamic type of any other value. -/
def hasField (env : TypeEnv) (fuel : Nat) (t : GoType) (fieldName : String) (store : Store) :
    Option (Bool × Store) :=
  let v := interfaceToConcreteType t
  match lookupCanonicalFieldName env fuel v fieldName store with
  | some (.ok fieldName, store) => some (fieldByName env v fieldName, store)
  | some (.error _, store) => some (false, store)
  | none => none

/-- `ListFields` on the type of its argument: the names of the struct's own fields, an embedded
one under the name of its type, in declaration order. On any other kind it returns an error and
its nil list of results, which is left out. -/
def listFields (env : TypeEnv) (t : GoType) : Except String (List String) :=
  match interfaceToConcreteType t with
  | .struct name => .ok ((env.fields name).map Field.name)
  | v => .error ("element is " ++ v.name ++ ", not a struct")

end Converge.Preprocessor
