import Converge.Cycles

/-!
# `fieldMapCache` over whole runs

`fieldMapCache` lives as long as the process: each call of `fieldMap`, `LookupCanonicalFieldName`
or `HasField` reads and fills it on the store the calls before it left. `Call` is one such call
that returns, and `Reachable` the stores that a run of them reaches from the empty store.

Two things hold along every run. Every map object maps each lower-case form to the name of a
declared field of that form (`Store.Sound`, `reachable_sound`): so `LookupCanonicalFieldName`
returns a declared field name equal to its term up to case, and `HasField` accepts a name only
when `FieldByName` finds a field of that name up to case. And no call changes or drops an entry
of the cache (`reaches_cache_extends`): once a call on a struct type has returned, every later
call on it is answered from the cache with the same map object, without walking the type's
fields (`canonicalFieldMap_answered_from_cache`). What that object holds may still change, as it
is shared with the walks of other types (`lookupCanonicalFieldName_reads_outer_fields`).
-/

namespace Converge.Preprocessor

open Reflect Relation

variable {env : TypeEnv}

/-- One call that reads and fills `fieldMapCache`, and returns. -/
inductive Call (env : TypeEnv) : Store → Store → Prop where
  | ofFieldMap {fuel : Nat} {t : GoType} {s s' : Store} {r : Except Failure (GoMap String)} :
      canonicalFieldMap env fuel t s = some (r, s') → Call env s s'
  | ofLookup {fuel : Nat} {t : GoType} {term : String} {s s' : Store} {r : Except Failure String} :
      lookupCanonicalFieldName env fuel t term s = some (r, s') → Call env s s'
  | ofHasField {fuel : Nat} {t : GoType} {name : String} {s s' : Store} {b : Bool} :
      hasField env fuel t name s = some (b, s') → Call env s s'

/-- The stores that a run of calls reaches from the empty cache. -/
def Reachable (env : TypeEnv) (s : Store) : Prop :=
  ReflTransGen (Call env) .empty s

/-! ## Each call is a call of `fieldMap` -/

theorem lookupCanonicalFieldName_cases {fuel : Nat} {t : GoType} {term : String} {s s' : Store}
    {r : Except Failure String} (run : lookupCanonicalFieldName env fuel t term s = some (r, s')) :
    ∃ result, canonicalFieldMap env fuel t s = some (result, s') ∧
      ∀ c, r = .ok c → ∃ m, result = .ok m ∧ m.get (toLower term) = some c := by
  unfold lookupCanonicalFieldName at run
  rcases h : canonicalFieldMap env fuel t s with _ | ⟨_ | m, store⟩ <;> rw [h] at run
  · cases run
  · obtain ⟨rfl, rfl⟩ := Prod.mk.inj (Option.some.inj run)
    exact ⟨_, rfl, fun _ => nofun⟩
  · dsimp only at run
    split at run <;> obtain ⟨rfl, rfl⟩ := Prod.mk.inj (Option.some.inj run)
    · exact ⟨_, rfl, fun c same => ⟨m, rfl, by rename_i found; rw [found, Except.ok.inj same]⟩⟩
    · exact ⟨_, rfl, fun _ => nofun⟩

theorem hasField_cases {fuel : Nat} {t : GoType} {name : String} {s s' : Store} {b : Bool}
    (run : hasField env fuel t name s = some (b, s')) :
    ∃ r, lookupCanonicalFieldName env fuel (interfaceToConcreteType t) name s = some (r, s') ∧
      (b = true → ∃ c, r = .ok c ∧ fieldByName env (interfaceToConcreteType t) c = true) := by
  unfold hasField at run
  dsimp only at run
  rcases h : lookupCanonicalFieldName env fuel (interfaceToConcreteType t) name s with
    _ | ⟨_ | c, store⟩ <;> rw [h] at run
  · cases run
  · obtain ⟨rfl, rfl⟩ := Prod.mk.inj (Option.some.inj run)
    exact ⟨_, rfl, nofun⟩
  · obtain ⟨rfl, rfl⟩ := Prod.mk.inj (Option.some.inj run)
    exact ⟨_, rfl, fun accepted => ⟨c, rfl, accepted⟩⟩

theorem canonicalFieldMap_cases {fuel : Nat} {t : GoType} {s s' : Store}
    {result : Except Failure (GoMap String)} (run : canonicalFieldMap env fuel t s = some (result, s')) :
    (∃ name ref c, interfaceToConcreteType t = .struct name ∧
      addFieldsToMap env fuel s.alloc.1 [] name s.alloc.2 = some (ref, c, s') ∧
      result = .ok (s'.read ref)) ∨
    ((∀ name, interfaceToConcreteType t ≠ .struct name) ∧ s' = s.alloc.2 ∧
      ∃ e, result = .error e) := by
  unfold canonicalFieldMap at run
  dsimp only at run
  split at run
  · next name concrete =>
    rcases walk : addFieldsToMap env fuel s.alloc.1 [] name s.alloc.2 with _ | ⟨ref, c, store⟩ <;>
      rw [walk] at run
    · cases run
    · obtain ⟨rfl, rfl⟩ := Prod.mk.inj (Option.some.inj run)
      exact .inl ⟨name, ref, c, concrete, walk, rfl⟩
  · next other =>
    obtain ⟨rfl, rfl⟩ := Prod.mk.inj (Option.some.inj run)
    exact .inr ⟨other, rfl, _, rfl⟩

theorem Call.canonical {s s' : Store} (call : Call env s s') :
    ∃ fuel t r, canonicalFieldMap env fuel t s = some (r, s') := by
  cases call with
  | ofFieldMap run => exact ⟨_, _, _, run⟩
  | ofLookup run =>
    obtain ⟨_, run, -⟩ := lookupCanonicalFieldName_cases run
    exact ⟨_, _, _, run⟩
  | ofHasField run =>
    obtain ⟨_, run, -⟩ := hasField_cases run
    obtain ⟨_, run, -⟩ := lookupCanonicalFieldName_cases run
    exact ⟨_, _, _, run⟩

/-! ## Every map object maps lower-case forms to declared names -/

/-- Every map object maps each lower-case form to the name of a declared field of that form. -/
def Store.Sound (env : TypeEnv) (s : Store) : Prop :=
  ∀ r k v, (s.read r).get k = some v → toLower v = k ∧ v ∈ env.allFields.map Field.name

namespace Store.Sound

variable {s : Store}

theorem empty : Store.empty.Sound env := fun r k v found => by
  simp [Store.read, Store.empty] at found

theorem write (sound : s.Sound env) {field : Field} (declared : field ∈ env.allFields) (r : Nat) :
    (s.write r (toLower field.name) field.name).Sound env := fun r' k v found => by
  rw [Store.read_write] at found
  split at found
  · rw [GoMap.get_set] at found
    split at found
    · next same =>
      obtain rfl := Option.some.inj found
      exact ⟨same.symm, List.mem_map_of_mem _ declared⟩
    · exact sound r k v found
  · exact sound r' k v found

theorem alloc (sound : s.Sound env) : s.alloc.2.Sound env := fun r k v found =>
  sound r k v (by rwa [Store.read_alloc] at found)

theorem put (sound : s.Sound env) (t : String) (ref : Nat) : (s.put t ref).Sound env :=
  fun r k v found => sound r k v (by rwa [Store.read_put] at found)

end Store.Sound

theorem addFieldsToMap_sound : ∀ fuel m c t s r, addFieldsToMap env fuel m c t s = some r →
    s.Sound env → r.2.2.Sound env
  | 0, _, _, _, _, _, run, _ => nomatch run
  | fuel + 1, m, c, t, s, r, run, sound => by
    cases hit : s.cache.get t with
    | some cached =>
      obtain rfl : (cached, c, s) = r := by simpa [addFieldsToMap, hit] using run
      exact sound
    | none =>
      rw [addFieldsToMap_uncached hit] at run
      obtain ⟨⟨m', c', s'⟩, walk, rfl⟩ := Option.map_eq_some'.mp run
      exact (addFields_preserves _ (addFieldsToMap_sound fuel) _
        (fun s m _ member sound => sound.write (TypeEnv.mem_allFields member) m)
        _ _ _ _ walk sound).put t m'

theorem Call.sound {s s' : Store} (call : Call env s s') (sound : s.Sound env) :
    s'.Sound env := by
  obtain ⟨fuel, t, result, run⟩ := call.canonical
  rcases canonicalFieldMap_cases run with ⟨_, _, _, -, walk, -⟩ | ⟨-, rfl, -⟩
  · exact addFieldsToMap_sound _ _ _ _ _ _ walk sound.alloc
  · exact sound.alloc

theorem Reachable.sound {s : Store} (reachable : Reachable env s) : s.Sound env := by
  induction reachable with
  | refl => exact Store.Sound.empty
  | tail _ call sound => exact call.sound sound

theorem Store.Sound.lookup {s s' : Store} (sound : s.Sound env) {fuel : Nat} {t : GoType}
    {term c : String} (run : lookupCanonicalFieldName env fuel t term s = some (.ok c, s')) :
    toLower c = toLower term ∧ c ∈ env.allFields.map Field.name := by
  obtain ⟨result, canonical, found⟩ := lookupCanonicalFieldName_cases run
  obtain ⟨m, rfl, get⟩ := found c rfl
  rcases canonicalFieldMap_cases canonical with ⟨_, ref, _, -, walk, same⟩ | ⟨-, -, _, wrong⟩
  · rw [Except.ok.inj same] at get
    exact addFieldsToMap_sound _ _ _ _ _ _ walk sound.alloc ref _ _ get
  · cases wrong

theorem lookupCanonicalFieldName_sound {s s' : Store} (reachable : Reachable env s)
    {fuel : Nat} {t : GoType} {term c : String}
    (run : lookupCanonicalFieldName env fuel t term s = some (.ok c, s')) :
    toLower c = toLower term ∧ c ∈ env.allFields.map Field.name :=
  reachable.sound.lookup run

theorem lookupCanonicalFieldName_sound_outer :
    toLower "X" = toLower "x" ∧ "X" ∈ innerOuter.allFields.map Field.name :=
  lookupCanonicalFieldName_sound .refl
    (rfl : lookupCanonicalFieldName innerOuter 3 (.struct "Outer") "x" .empty = some (.ok "X", _))

theorem hasField_sound {s s' : Store} (reachable : Reachable env s) {fuel : Nat} {t : GoType}
    {name : String} (run : hasField env fuel t name s = some (true, s')) :
    ∃ c, toLower c = toLower name ∧ fieldByName env (interfaceToConcreteType t) c = true := by
  obtain ⟨r, lookup, accepted⟩ := hasField_cases run
  obtain ⟨c, rfl, found⟩ := accepted rfl
  exact ⟨c, (reachable.sound.lookup lookup).1, found⟩

theorem hasField_sound_outer :
    ∃ c, toLower c = toLower "x" ∧ fieldByName innerOuter (.struct "Outer") c = true :=
  hasField_sound .refl
    (rfl : hasField innerOuter 3 (.struct "Outer") "x" .empty = some (true, _))

/-! ## Cache entries are never changed -/

theorem addFieldsToMap_cache : ∀ fuel m c t s r, addFieldsToMap env fuel m c t s = some r →
    (∀ x ref, s.cache.get x = some ref → r.2.2.cache.get x = some ref) ∧
      r.2.2.cache.get t = some r.1
  | 0, _, _, _, _, _, run => nomatch run
  | fuel + 1, m, c, t, s, r, run => by
    cases hit : s.cache.get t with
    | some cached =>
      obtain rfl : (cached, c, s) = r := by simpa [addFieldsToMap, hit] using run
      exact ⟨fun _ _ => id, hit⟩
    | none =>
      rw [addFieldsToMap_uncached hit] at run
      obtain ⟨⟨m', c', s'⟩, walk, rfl⟩ := Option.map_eq_some'.mp run
      have kept := addFields_preserves
        (fun s' => ∀ x ref, s.cache.get x = some ref → s'.cache.get x = some ref)
        (fun _ _ _ _ _ called kept x ref found =>
          (addFieldsToMap_cache fuel _ _ _ _ _ called).1 x ref (kept x ref found))
        _ (fun _ _ _ _ kept => by simpa using kept) _ _ _ _ walk fun _ _ => id
      refine ⟨fun x ref found => ?_, by simp⟩
      have other : x ≠ t := fun same => by rw [same, hit] at found; cases found
      simp [other, kept x ref found]

theorem Call.cache_extends {s s' : Store} (call : Call env s s') :
    ∀ x ref, s.cache.get x = some ref → s'.cache.get x = some ref := by
  obtain ⟨fuel, t, result, run⟩ := call.canonical
  rcases canonicalFieldMap_cases run with ⟨_, _, _, -, walk, -⟩ | ⟨-, rfl, -⟩
  · exact (addFieldsToMap_cache _ _ _ _ _ _ walk).1
  · exact fun _ _ => id

theorem reaches_cache_extends {s s' : Store} (path : ReflTransGen (Call env) s s') :
    ∀ x ref, s.cache.get x = some ref → s'.cache.get x = some ref := by
  induction path with
  | refl => exact fun _ _ => id
  | tail _ call kept => exact fun x ref found => call.cache_extends x ref (kept x ref found)

theorem canonicalFieldMap_answered_from_cache {fuel : Nat} {t : String} {s s' : Store}
    {result : Except Failure (GoMap String)}
    (first : canonicalFieldMap env fuel (.struct t) s = some (result, s')) :
    ∃ ref, result = .ok (s'.read ref) ∧ ∀ s'', ReflTransGen (Call env) s' s'' → ∀ fuel',
      canonicalFieldMap env (fuel' + 1) (.struct t) s'' = some (.ok (s''.read ref), s''.alloc.2) := by
  rcases canonicalFieldMap_cases first with ⟨name, ref, _, concrete, walk, rfl⟩ | ⟨other, -⟩
  · cases concrete
    refine ⟨ref, rfl, fun s'' later fuel' => ?_⟩
    have cached := reaches_cache_extends later t ref (addFieldsToMap_cache _ _ _ _ _ _ walk).2
    simp [canonicalFieldMap, interfaceToConcreteType, addFieldsToMap, cached]
  · exact absurd rfl (other t)

theorem canonicalFieldMap_answered_from_cache_outer :
    ∃ result s', canonicalFieldMap innerOuter 3 (.struct "Outer") .empty = some (result, s') ∧
      ∃ ref, result = .ok (s'.read ref) ∧ ∀ s'', ReflTransGen (Call innerOuter) s' s'' →
        ∀ fuel', canonicalFieldMap innerOuter (fuel' + 1) (.struct "Outer") s'' =
          some (.ok (s''.read ref), s''.alloc.2) :=
  ⟨_, _, rfl, canonicalFieldMap_answered_from_cache
    (rfl : canonicalFieldMap innerOuter 3 (.struct "Outer") .empty = _)⟩

end Converge.Preprocessor
