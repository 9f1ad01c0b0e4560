import Converge.FieldCache
import Mathlib.Logic.Relation
import Mathlib.Data.List.Perm.Subperm

/-!
# Embedding cycles: when `fieldMap` returns

`addFieldsToMap` caches a struct type only once its walk has returned, so a walk that reaches a
struct type it is still walking enters it again, with nothing in the cache to stop it. From an
empty cache, `fieldMap`, `LookupCanonicalFieldName` and `HasField` on a struct type return
exactly when no cycle of embedded fields lies ahead of it (`fieldMap_lookups_return_iff`), and
then on fuel one more than the number of declared struct types. A struct that embeds a pointer
to itself runs out of every fuel (`fieldMap_diverges_on_self_embedding`).

`addFields_cons` says once what one field of the walk does, and the three lemmas on the walk
are proved from it.
-/

namespace Converge.Preprocessor

open Reflect Relation

variable {env : TypeEnv}

/-- Struct type `t` has an embedded field that `addFieldsToMap` follows into struct type `u`. -/
def Embeds (env : TypeEnv) (t u : String) : Prop :=
  ∃ field ∈ env.fields t, field.anonymous = true ∧ interfaceToConcreteType field.type = .struct u

/-- The embedded fields of struct type `t` lead, directly or through others, into a cycle. -/
def ReachesCycle (env : TypeEnv) (t : String) : Prop :=
  ∃ c, ReflTransGen (Embeds env) t c ∧ TransGen (Embeds env) c c

theorem ReachesCycle.of_embeds {t u : String} (embeds : Embeds env t u)
    (cycle : ReachesCycle env u) : ReachesCycle env t :=
  let ⟨c, reach, loop⟩ := cycle
  ⟨c, .head embeds reach, loop⟩

theorem ReachesCycle.step {t : String} (cycle : ReachesCycle env t) :
    ∃ u, Embeds env t u ∧ ReachesCycle env u := by
  obtain ⟨c, reach, loop⟩ := cycle
  rcases reach.cases_head with rfl | ⟨u, embeds, reach⟩
  · obtain ⟨u, embeds, back⟩ := TransGen.head'_iff.mp loop
    exact ⟨u, embeds, t, back, loop⟩
  · exact ⟨u, embeds, c, reach, loop⟩

section Walk

variable {recurse : Nat → List String → String → Store → Option (Nat × List String × Store)}

theorem addFields_cons (field : Field) (rest : List Field) (m : Nat) (c : List String)
    (s : Store) :
    (∃ u s', field.anonymous = true ∧ interfaceToConcreteType field.type = .struct u ∧
      (s' = s ∨ s' = s.write m (toLower field.name) field.name) ∧
      addFields recurse (field :: rest) m c s =
        (recurse m c u s').bind fun r => addFields recurse rest r.1 r.2.1 r.2.2) ∨
    (∃ c' s', (field.anonymous = true → ∀ u, interfaceToConcreteType field.type ≠ .struct u) ∧
      (s' = s ∨ s' = s.write m (toLower field.name) field.name) ∧
      addFields recurse (field :: rest) m c s = addFields recurse rest m c' s') := by
  rw [addFields.eq_2]
  dsimp only
  have entered : (if ((s.read m).get (toLower field.name)).isSome then s
      else s.write m (toLower field.name) field.name) = s ∨
      (if ((s.read m).get (toLower field.name)).isSome then s
        else s.write m (toLower field.name) field.name) =
          s.write m (toLower field.name) field.name := by
    split
    · exact .inl rfl
    · exact .inr rfl
  cases anon : field.anonymous
  · rw [if_neg Bool.false_ne_true]
    split
    · exact .inr ⟨_, s, nofun, .inl rfl, rfl⟩
    · split
      · exact .inr ⟨c, s, nofun, .inl rfl, rfl⟩
      · exact .inr ⟨c, _, nofun, .inr rfl, rfl⟩
  · rw [if_pos rfl]
    cases concrete : interfaceToConcreteType field.type with
    | struct u =>
      refine .inl ⟨u, _, rfl, rfl, entered, ?_⟩
      dsimp only
      split <;> next found => rw [found]; rfl
    | _ => exact .inr ⟨c, _, fun _ _ => nofun, entered, rfl⟩

private theorem inv_of_written {inv : Store → Prop} {s s' : Store} {m : Nat} {k v : String}
    (shape : s' = s ∨ s' = s.write m k v) (holds : inv s) (written : inv s → inv (s.write m k v)) :
    inv s' := by
  rcases shape with rfl | rfl
  exacts [holds, written holds]

theorem addFields_preserves (inv : Store → Prop)
    (recursed : ∀ m c u s r, recurse m c u s = some r → inv s → inv r.2.2) :
    ∀ (fields : List Field),
      (∀ s m, ∀ field ∈ fields, inv s → inv (s.write m (toLower field.name) field.name)) →
      ∀ m c s r, addFields recurse fields m c s = some r → inv s → inv r.2.2
  | [], _, _, _, _, _, run, holds => by
    cases run
    exact holds
  | field :: rest, written, m, c, s, r, run, holds => by
    have later := addFields_preserves inv recursed rest
      fun s m f member => written s m f (List.mem_cons_of_mem _ member)
    have here := written s m field (List.mem_cons_self _ _)
    rcases addFields_cons field rest m c s with
      ⟨u, s', -, -, shape, step⟩ | ⟨c', s', -, shape, step⟩ <;> rw [step] at run
    · obtain ⟨r', called, run⟩ := Option.bind_eq_some.mp run
      exact later _ _ _ _ run (recursed _ _ _ _ _ called (inv_of_written shape holds here))
    · exact later _ _ _ _ run (inv_of_written shape holds here)

theorem addFields_none (inv : Store → Prop)
    (recursed : ∀ m c u s r, recurse m c u s = some r → inv s → inv r.2.2)
    (written : ∀ s m k v, inv s → inv (s.write m k v)) {u : String}
    (stuck : ∀ m c s, inv s → recurse m c u s = none) :
    ∀ (fields : List Field) m c s, (∃ field ∈ fields, field.anonymous = true ∧
      interfaceToConcreteType field.type = .struct u) → inv s → addFields recurse fields m c s = none
  | [], _, _, _, ⟨_, member, _⟩, _ => nomatch member
  | field :: rest, m, c, s, ⟨bad, member, anon, concrete⟩, holds => by
    rcases addFields_cons field rest m c s with
      ⟨u', s', -, concrete', shape, step⟩ | ⟨c', s', skip, shape, step⟩ <;> rw [step]
    · have entered := inv_of_written shape holds (written _ _ _ _)
      cases called : recurse m c u' s' with
      | none => rfl
      | some r =>
        rcases List.mem_cons.mp member with rfl | later
        · obtain rfl : u' = u := GoType.struct.inj (concrete'.symm.trans concrete)
          rw [stuck _ _ _ entered] at called
          cases called
        · exact addFields_none inv recursed written stuck rest _ _ _ ⟨bad, later, anon, concrete⟩
            (recursed _ _ _ _ _ called entered)
    · rcases List.mem_cons.mp member with rfl | later
      · exact absurd concrete (skip anon u)
      · exact addFields_none inv recursed written stuck rest _ _ _ ⟨bad, later, anon, concrete⟩
          (inv_of_written shape holds (written _ _ _ _))

theorem addFields_isSome : ∀ {fields : List Field}, (∀ field ∈ fields, field.anonymous = true →
      ∀ u, interfaceToConcreteType field.type = .struct u → ∀ m c s, ∃ r, recurse m c u s = some r) →
    ∀ m c s, ∃ r, addFields recurse fields m c s = some r
  | [], _, m, c, s => ⟨(m, c, s), rfl⟩
  | field :: rest, returns, m, c, s => by
    have later := addFields_isSome fun f member => returns f (List.mem_cons_of_mem _ member)
    rcases addFields_cons field rest m c s with
      ⟨u, s', anon, concrete, -, step⟩ | ⟨c', s', -, -, step⟩ <;> rw [step]
    · obtain ⟨⟨m', c', s''⟩, called⟩ := returns field (List.mem_cons_self _ _) anon u concrete m c s'
      rw [called]
      exact later m' c' s''
    · exact later m c' s'

end Walk

/-! ## Divergence -/

/-- No struct type that leads into a cycle is in the cache. -/
def CyclesUncached (env : TypeEnv) (store : Store) : Prop :=
  ∀ t, ReachesCycle env t → store.cache.get t = none

theorem addFieldsToMap_of_reachesCycle (env : TypeEnv) : ∀ fuel,
    (∀ m c t s, ReachesCycle env t → CyclesUncached env s →
      addFieldsToMap env fuel m c t s = none) ∧
    (∀ m c t s r, addFieldsToMap env fuel m c t s = some r → CyclesUncached env s →
      CyclesUncached env r.2.2)
  | 0 => ⟨fun _ _ _ _ _ _ => rfl, fun _ _ _ _ _ run _ => nomatch run⟩
  | fuel + 1 => by
    obtain ⟨diverges, keeps⟩ := addFieldsToMap_of_reachesCycle env fuel
    have written (s : Store) (m : Nat) (k v : String) (uncached : CyclesUncached env s) :
        CyclesUncached env (s.write m k v) := uncached
    have diverges' (m : Nat) (c : List String) (t : String) (s : Store)
        (cycle : ReachesCycle env t) (uncached : CyclesUncached env s) :
        addFieldsToMap env (fuel + 1) m c t s = none := by
      obtain ⟨u, ⟨field, declared, anon, concrete⟩, cycle'⟩ := cycle.step
      rw [addFieldsToMap_uncached (uncached t cycle), addFields_none _ keeps written
        (fun m c s => diverges m c u s cycle') _ _ _ _ ⟨field, declared, anon, concrete⟩ uncached]
      rfl
    refine ⟨diverges', fun m c t s r run uncached x cycle => ?_⟩
    cases hit : s.cache.get t with
    | some cached =>
      obtain rfl : (cached, c, s) = r := by simpa [addFieldsToMap, hit] using run
      exact uncached x cycle
    | none =>
      have other : x ≠ t := fun same => by
        rw [diverges' m c t s (same ▸ cycle) uncached] at run
        cases run
      rw [addFieldsToMap_uncached hit] at run
      obtain ⟨⟨m', c', s'⟩, walk, rfl⟩ := Option.map_eq_some'.mp run
      simp [other, addFields_preserves _ keeps _ (fun s m _ _ => written s m _ _) _ _ _ _ walk
        uncached x cycle]

theorem canonicalFieldMap_of_reachesCycle {t : String} (cycle : ReachesCycle env t)
    (fuel : Nat) : canonicalFieldMap env fuel (.struct t) .empty = none := by
  have uncached : CyclesUncached env Store.empty.alloc.2 := fun _ _ => rfl
  simp only [canonicalFieldMap, interfaceToConcreteType]
  rw [(addFieldsToMap_of_reachesCycle env fuel).1 _ _ _ _ cycle uncached]

/-! ## Termination -/

theorem addFieldsToMap_returns (env : TypeEnv) : ∀ (fuel : Nat) (t : String) (path : List String)
    (m : Nat) (c : List String) (s : Store), ¬ ReachesCycle env t → path.Nodup →
    (∀ x ∈ path, x ∈ env.structs.map Prod.fst) → (∀ x ∈ path, TransGen (Embeds env) x t) →
    env.structs.length < fuel + path.length → ∃ r, addFieldsToMap env fuel m c t s = some r
  | 0, _, path, _, _, _, _, nodup, declared, _, enough => by
    have := (nodup.subperm declared).length_le
    simp only [List.length_map] at this
    omega
  | fuel + 1, t, path, m, c, s, acyclic, nodup, declared, below, enough => by
    cases hit : s.cache.get t with
    | some cached => exact ⟨(cached, c, s), by simp [addFieldsToMap, hit]⟩
    | none =>
      have fresh : t ∉ path := fun onPath => acyclic ⟨t, .refl, below t onPath⟩
      obtain ⟨r, walk⟩ := addFields_isSome (fun field member anon u concrete m c s =>
        have embeds : Embeds env t u := ⟨field, member, anon, concrete⟩
        addFieldsToMap_returns env fuel u (t :: path) m c s
          (fun cycle => acyclic (.of_embeds embeds cycle)) (List.nodup_cons.mpr ⟨fresh, nodup⟩)
          (List.forall_mem_cons.mpr ⟨TypeEnv.mem_names_of_mem_fields member, declared⟩)
          (List.forall_mem_cons.mpr ⟨.single embeds, fun x onPath => (below x onPath).tail embeds⟩)
          (by simp only [List.length_cons]; omega)) m c s
      rw [addFieldsToMap_uncached hit, walk]
      exact ⟨_, rfl⟩

theorem canonicalFieldMap_returns_iff (env : TypeEnv) (t : String) :
    (∃ fuel r, canonicalFieldMap env fuel (.struct t) .empty = some r) ↔ ¬ ReachesCycle env t := by
  refine ⟨fun ⟨fuel, r, run⟩ cycle => ?_, fun acyclic => ?_⟩
  · rw [canonicalFieldMap_of_reachesCycle cycle] at run
    cases run
  · obtain ⟨⟨m, c, s⟩, run⟩ := addFieldsToMap_returns env (env.structs.length + 1) t []
      Store.empty.alloc.1 [] Store.empty.alloc.2 acyclic List.nodup_nil (fun _ => nofun)
      (fun _ => nofun) (by simp)
    exact ⟨env.structs.length + 1, (.ok (s.read m), s),
      by simp only [canonicalFieldMap, interfaceToConcreteType, run]⟩

theorem lookupCanonicalFieldName_isSome (env : TypeEnv) (fuel : Nat) (t : GoType) (term : String)
    (s : Store) : (lookupCanonicalFieldName env fuel t term s).isSome =
      (canonicalFieldMap env fuel t s).isSome := by
  unfold lookupCanonicalFieldName
  rcases canonicalFieldMap env fuel t s with _ | ⟨_ | m, _⟩
  · rfl
  · rfl
  · dsimp only
    split <;> rfl

theorem hasField_isSome (env : TypeEnv) (fuel : Nat) (t : GoType) (term : String) (s : Store) :
    (hasField env fuel t term s).isSome =
      (canonicalFieldMap env fuel (interfaceToConcreteType t) s).isSome := by
  rw [← lookupCanonicalFieldName_isSome]
  unfold hasField
  dsimp only
  rcases lookupCanonicalFieldName env fuel (interfaceToConcreteType t) term s with _ | ⟨_ | _, _⟩ <;> rfl

theorem fieldMap_lookups_return_iff (env : TypeEnv) (t term : String) :
    ((∃ fuel r, canonicalFieldMap env fuel (.struct t) .empty = some r) ↔ ¬ ReachesCycle env t) ∧
    ((∃ fuel r, lookupCanonicalFieldName env fuel (.struct t) term .empty = some r) ↔
      ¬ ReachesCycle env t) ∧
    ((∃ fuel r, hasField env fuel (.struct t) term .empty = some r) ↔ ¬ ReachesCycle env t) := by
  have returns := canonicalFieldMap_returns_iff env t
  simp only [← Option.isSome_iff_exists] at returns ⊢
  exact ⟨returns, by simpa only [lookupCanonicalFieldName_isSome] using returns,
    by simpa only [hasField_isSome, interfaceToConcreteType] using returns⟩

/-- `type Node struct { *Node; V int }`. -/
def node : TypeEnv :=
  ⟨[("Node", [⟨"Node", .pointer (.struct "Node"), true⟩, ⟨"V", .basic "int", false⟩])], by decide⟩

theorem fieldMap_diverges_on_self_embedding (fuel : Nat) (term : String) :
    canonicalFieldMap node fuel (.struct "Node") .empty = none ∧
      lookupCanonicalFieldName node fuel (.struct "Node") term .empty = none ∧
      hasField node fuel (.struct "Node") term .empty = none := by
  have cycle : ReachesCycle node "Node" := ⟨"Node", .refl, .single ⟨_, .head _, rfl, rfl⟩⟩
  have diverges := canonicalFieldMap_of_reachesCycle cycle fuel
  refine ⟨diverges, ?_, ?_⟩
  · simpa [diverges] using lookupCanonicalFieldName_isSome node fuel (.struct "Node") term .empty
  · simpa [diverges, interfaceToConcreteType] using hasField_isSome node fuel (.struct "Node") term .empty

end Converge.Preprocessor
