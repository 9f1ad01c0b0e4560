import Converge.Goroutines

/-!
# `fieldMapCache` shared by goroutines

`lockedFieldMapCache` holds a lock in each `Get` and `Put`, so goroutines may call `fieldMap`,
`LookupCanonicalFieldName` and `HasField` at once. The lock guards the cache and nothing else:
the map objects that the cache hands out are read and written by `addFieldsToMap` with no lock
held, and a read of `m[lower]` and the write it decides on are two steps between which other
goroutines run.

A `Process` is any number of goroutines, started at any time and run in any interleaving, each
step of one goroutine taken at once; `Runtime` (in `Converge.Runtime`) splits the steps as Go
runs them, and each of its steps is a step of `Process` or none. Calls made one after another are
one of the runs of `Process` (`reachable_by_goroutines`). `Process.Safe` is its invariant, kept by
every step: every map object maps each lower-case form to the name of a declared field of that
form, and no struct type that leads into a cycle of embedded fields is cached
(`cycles_never_cached`). A goroutine called on such a type has not returned in any state the
process goes on to, whatever the others do (`cyclic_call_never_returns`). A frame whose struct
type leads into a cycle never finishes: either one of the fields it has still to visit leads into
a cycle, or the call it waits for never returns (`Frame.Guarded`).
-/

namespace Converge.Preprocessor

open Reflect Relation

variable {env : TypeEnv}

/-- The goroutines of the process, and the store they share, between steps taken at once. -/
structure Process where
  store : Store
  goroutines : List Goroutine

/-- A step of the process: a goroutine calls `fieldMap`, on its own or as the first thing
`LookupCanonicalFieldName` and `HasField` do, or goroutine `i` takes a step. -/
inductive Process.Step (env : TypeEnv) : Process → Process → Prop where
  | spawn (p : Process) (t : GoType) : Step env p ⟨p.store, p.goroutines ++ [⟨.call t, []⟩]⟩
  | run {p : Process} {i : Nat} {g : Goroutine} {s : Store} {g' : Goroutine} :
      p.goroutines[i]? = some g → g.step env p.store = some (s, g') →
      Step env p ⟨s, p.goroutines.set i g'⟩

/-- The states the process reaches from an empty cache and no goroutine. -/
def Process.Reachable (env : TypeEnv) (p : Process) : Prop :=
  ReflTransGen (Process.Step env) ⟨.empty, []⟩ p

/-- Where the loop goes after a field: into the struct type under an embedded one, or on to the
next field. -/
def Thread.afterField (field : Field) (frame : Frame) (stack : List Frame) : Thread :=
  if field.anonymous then Thread.afterEmbedded field frame stack else .loop frame stack

theorem Goroutine.step_field {s s' : Store} {t : String} {field : Field} {rest : List Field}
    {m : Nat} {stack : List Frame} {c : List String} {g' : Goroutine}
    (step : Goroutine.step env s ⟨.loop ⟨t, field :: rest, m⟩ stack, c⟩ = some (s', g')) :
    s' = s ∧ (g'.thread = Thread.afterField field ⟨t, rest, m⟩ stack ∨
      g'.thread = .writing m field (Thread.afterField field ⟨t, rest, m⟩ stack)) := by
  simp only [Goroutine.step] at step
  cases anon : field.anonymous
  · simp only [anon, Bool.false_eq_true, if_false] at step
    have next : Thread.afterField field ⟨t, rest, m⟩ stack = .loop ⟨t, rest, m⟩ stack := by
      simp [Thread.afterField, anon]
    rw [next]
    split at step
    · cases step
      exact ⟨rfl, .inl rfl⟩
    · split at step <;> cases step
      · exact ⟨rfl, .inl rfl⟩
      · exact ⟨rfl, .inr rfl⟩
  · simp only [anon, if_true] at step
    cases step
    refine ⟨rfl, ?_⟩
    simp only [Thread.afterField, anon, if_true]
    split
    · exact .inl rfl
    · exact .inr rfl

/-! ## What every goroutine holds is declared -/

/-- Every field of the frames is declared. -/
def Frame.Declared (env : TypeEnv) (stack : List Frame) : Prop :=
  ∀ frame ∈ stack, frame.fields ⊆ env.allFields

/-- Every field a goroutine has still to visit, or is about to write the name of, is declared. -/
def Thread.Declared (env : TypeEnv) : Thread → Prop
  | .call _ | .done _ | .refused => True
  | .enter _ _ stack | .leave _ stack => Frame.Declared env stack
  | .loop frame stack => Frame.Declared env (frame :: stack)
  | .writing _ field next => field ∈ env.allFields ∧ next.Declared env

theorem Thread.declared_afterField {field : Field} {t : String} {rest : List Field} {m : Nat}
    {stack : List Frame} (declared : Frame.Declared env (⟨t, rest, m⟩ :: stack)) :
    (Thread.afterField field ⟨t, rest, m⟩ stack).Declared env := by
  unfold Thread.afterField Thread.afterEmbedded
  split
  · split <;> exact declared
  · exact declared

theorem Goroutine.step_sound {s s' : Store} {g g' : Goroutine} (sound : s.Sound env)
    (declared : g.thread.Declared env) (step : g.step env s = some (s', g')) :
    s'.Sound env ∧ g'.thread.Declared env := by
  obtain ⟨thread, c⟩ := g
  cases thread with
  | call t =>
    simp only [Goroutine.step] at step
    split at step <;> cases step <;> exact ⟨sound.alloc, by simp [Thread.Declared, Frame.Declared]⟩
  | enter t m stack =>
    simp only [Goroutine.step] at step
    split at step <;> cases step
    · exact ⟨sound, declared⟩
    · exact ⟨sound, List.forall_mem_cons.mpr ⟨fun _ => TypeEnv.mem_allFields, declared⟩⟩
  | loop frame stack =>
    obtain ⟨t, _ | ⟨field, rest⟩, m⟩ := frame
    · cases step
      exact ⟨sound.put t m, (List.forall_mem_cons.mp declared).2⟩
    · obtain ⟨fields, stack_declared⟩ := List.forall_mem_cons.mp declared
      have rest_declared : Frame.Declared env (⟨t, rest, m⟩ :: stack) :=
        List.forall_mem_cons.mpr ⟨fun _ inside => fields (List.mem_cons_of_mem _ inside), stack_declared⟩
      obtain ⟨rfl, next | next⟩ := Goroutine.step_field step <;> rw [next]
      · exact ⟨sound, Thread.declared_afterField rest_declared⟩
      · exact ⟨sound, fields (List.mem_cons_self _ _), Thread.declared_afterField rest_declared⟩
  | writing m field next =>
    cases step
    exact ⟨sound.write declared.1 m, declared.2⟩
  | leave m stack =>
    cases stack with
    | nil =>
      cases step
      exact ⟨sound, trivial⟩
    | cons frame stack =>
      cases step
      obtain ⟨fields, stack_declared⟩ := List.forall_mem_cons.mp declared
      exact ⟨sound, List.forall_mem_cons.mpr ⟨fields, stack_declared⟩⟩
  | done m => cases step
  | refused => cases step

/-! ## Struct types that lead into a cycle -/

/-- One of `fields` is embedded and leads into a struct type that leads into a cycle. -/
def LeadsToCycle (env : TypeEnv) (fields : List Field) : Prop :=
  ∃ field ∈ fields, field.anonymous = true ∧
    ∃ u, interfaceToConcreteType field.type = .struct u ∧ ReachesCycle env u

theorem reachesCycle_iff_leadsToCycle {t : String} :
    ReachesCycle env t ↔ LeadsToCycle env (env.fields t) := by
  constructor
  · intro cycle
    obtain ⟨u, ⟨field, declared, anon, concrete⟩, cycle'⟩ := cycle.step
    exact ⟨field, declared, anon, u, concrete, cycle'⟩
  · rintro ⟨field, declared, anon, u, concrete, cycle⟩
    exact .of_embeds ⟨field, declared, anon, concrete⟩ cycle

@[simp] theorem leadsToCycle_nil : LeadsToCycle env [] ↔ False := by
  simp [LeadsToCycle]

theorem leadsToCycle_cons {field : Field} {rest : List Field} :
    LeadsToCycle env (field :: rest) ↔ (field.anonymous = true ∧
      ∃ u, interfaceToConcreteType field.type = .struct u ∧ ReachesCycle env u) ∨
        LeadsToCycle env rest := by
  simp [LeadsToCycle]

/-- The bottom frame of `stack` never finishes. -/
def Frame.Stuck (env : TypeEnv) (above : Prop) : List Frame → Prop
  | [] => above
  | frame :: stack => Frame.Stuck env (above ∨ LeadsToCycle env frame.fields) stack

/-- No frame of `stack` whose struct type leads into a cycle finishes. -/
def Frame.Guarded (env : TypeEnv) (above : Prop) : List Frame → Prop
  | [] => True
  | frame :: stack => (ReachesCycle env frame.t → above ∨ LeadsToCycle env frame.fields) ∧
      Frame.Guarded env (above ∨ LeadsToCycle env frame.fields) stack

theorem Frame.stuck_iff {above : Prop} : ∀ stack : List Frame,
    Frame.Stuck env above stack ↔ above ∨ ∃ frame ∈ stack, LeadsToCycle env frame.fields
  | [] => by simp [Frame.Stuck]
  | frame :: stack => by simp [Frame.Stuck, Frame.stuck_iff stack, or_assoc]

/-- The goroutine's call of `fieldMap` never returns. -/
def Thread.Stuck (env : TypeEnv) : Thread → Prop
  | .call t => ∃ name, interfaceToConcreteType t = .struct name ∧ ReachesCycle env name
  | .enter t _ stack => Frame.Stuck env (ReachesCycle env t) stack
  | .loop frame stack => Frame.Stuck env False (frame :: stack)
  | .writing _ _ next => next.Stuck env
  | .leave _ stack => Frame.Stuck env False stack
  | .done _ | .refused => False

/-- No frame of the goroutine whose struct type leads into a cycle finishes. -/
def Thread.Guarded (env : TypeEnv) : Thread → Prop
  | .call _ | .done _ | .refused => True
  | .enter t _ stack => Frame.Guarded env (ReachesCycle env t) stack
  | .loop frame stack => Frame.Guarded env False (frame :: stack)
  | .writing _ _ next => next.Guarded env
  | .leave _ stack => Frame.Guarded env False stack

theorem Thread.guarded_afterField {field : Field} {t : String} {rest : List Field} {m : Nat}
    {stack : List Frame} (guarded : Frame.Guarded env False (⟨t, field :: rest, m⟩ :: stack)) :
    (Thread.afterField field ⟨t, rest, m⟩ stack).Guarded env ∧
      (Frame.Stuck env False (⟨t, field :: rest, m⟩ :: stack) ↔
        (Thread.afterField field ⟨t, rest, m⟩ stack).Stuck env) := by
  unfold Thread.afterField Thread.afterEmbedded
  split
  · next anon =>
    split
    · next u concrete =>
      simp only [Thread.Guarded, Thread.Stuck, Frame.Guarded, Frame.Stuck, false_or,
        leadsToCycle_cons, anon, concrete, GoType.struct.injEq, true_and, exists_eq_left'] at guarded ⊢
      exact ⟨guarded, trivial⟩
    · next other =>
      have skipped : ¬ ∃ u, interfaceToConcreteType field.type = .struct u ∧ ReachesCycle env u :=
        fun ⟨u, concrete, _⟩ => other u concrete
      simp only [Thread.Guarded, Thread.Stuck, Frame.Guarded, Frame.Stuck, false_or,
        leadsToCycle_cons, skipped, and_false] at guarded ⊢
      exact ⟨guarded, trivial⟩
  · next named =>
    simp only [Thread.Guarded, Thread.Stuck, Frame.Guarded, Frame.Stuck, false_or,
      leadsToCycle_cons, named, Bool.false_eq_true, false_and] at guarded ⊢
    exact ⟨guarded, trivial⟩

theorem Goroutine.step_guarded {s s' : Store} {g g' : Goroutine} (uncached : CyclesUncached env s)
    (guarded : g.thread.Guarded env) (step : g.step env s = some (s', g')) :
    CyclesUncached env s' ∧ g'.thread.Guarded env ∧ (g.thread.Stuck env ↔ g'.thread.Stuck env) := by
  obtain ⟨thread, c⟩ := g
  cases thread with
  | call t =>
    simp only [Goroutine.step] at step
    split at step <;> cases step
    · next name concrete =>
      refine ⟨uncached, trivial, fun ⟨name', concrete', cycle⟩ => ?_, fun cycle => ⟨name, concrete, cycle⟩⟩
      rwa [GoType.struct.inj (concrete.symm.trans concrete')]
    · next other =>
      exact ⟨uncached, trivial, fun ⟨name, concrete, _⟩ => other name concrete, False.elim⟩
  | enter t m stack =>
    simp only [Goroutine.step] at step
    split at step <;> cases step
    · next r cached =>
      have acyclic : ReachesCycle env t = False :=
        eq_false fun cycle => by rw [uncached t cycle] at cached; cases cached
      simp only [Thread.Guarded, Thread.Stuck, acyclic] at guarded ⊢
      exact ⟨uncached, guarded, trivial⟩
    · have same : (False ∨ LeadsToCycle env (env.fields t)) = ReachesCycle env t :=
        (false_or _).trans (propext reachesCycle_iff_leadsToCycle).symm
      simp only [Thread.Guarded, Thread.Stuck, Frame.Guarded, Frame.Stuck, same] at guarded ⊢
      exact ⟨uncached, ⟨id, guarded⟩, trivial⟩
  | loop frame stack =>
    obtain ⟨t, _ | ⟨field, rest⟩, m⟩ := frame
    · cases step
      simp only [Thread.Guarded, Thread.Stuck, Frame.Guarded, Frame.Stuck, leadsToCycle_nil,
        or_false] at guarded ⊢
      refine ⟨fun u cycle => ?_, guarded.2, trivial⟩
      simp only [Store.cache_put, GoMap.get_set]
      split
      · next same => exact (guarded.1 (same ▸ cycle)).elim
      · exact uncached u cycle
    · obtain ⟨after, stuck⟩ := Thread.guarded_afterField guarded
      obtain ⟨rfl, next | next⟩ := Goroutine.step_field step <;> rw [next] <;>
        exact ⟨uncached, after, stuck⟩
  | writing m field next =>
    cases step
    exact ⟨uncached, guarded, Iff.rfl⟩
  | leave m stack =>
    cases stack with
    | nil =>
      cases step
      exact ⟨uncached, trivial, Iff.rfl⟩
    | cons frame stack =>
      cases step
      exact ⟨uncached, guarded, Iff.rfl⟩
  | done m => cases step
  | refused => cases step

/-- `fieldMap` has returned. -/
def Thread.Returned : Thread → Prop
  | .done _ | .refused => True
  | _ => False

theorem Goroutine.step_isSome {s : Store} {g : Goroutine} (running : ¬ g.thread.Returned) :
    (g.step env s).isSome := by
  obtain ⟨thread, c⟩ := g
  cases thread with
  | done _ | refused => exact absurd trivial running
  | call t | enter t m stack =>
    simp only [Goroutine.step]
    split <;> rfl
  | loop frame stack =>
    obtain ⟨t, _ | ⟨field, rest⟩, m⟩ := frame
    · rfl
    · simp only [Goroutine.step]
      split_ifs <;> rfl
  | writing m field next => rfl
  | leave m stack => cases stack <;> rfl

theorem Thread.not_returned_of_stuck : ∀ {thread : Thread}, thread.Stuck env → ¬ thread.Returned
  | .done _, stuck, _ | .refused, stuck, _ => stuck
  | .call _, _, returned | .enter .., _, returned | .loop .., _, returned
  | .writing .., _, returned | .leave .., _, returned => returned

/-! ## The invariant of the process -/

/-- The invariant of the process: a sound store that caches no struct type leading into a cycle,
and goroutines that hold declared fields and guarded frames. -/
structure Process.Safe (env : TypeEnv) (p : Process) : Prop where
  sound : p.store.Sound env
  uncached : CyclesUncached env p.store
  goroutines : ∀ g ∈ p.goroutines, g.thread.Declared env ∧ g.thread.Guarded env

theorem Process.Step.safe {p p' : Process} (step : Process.Step env p p') (safe : p.Safe env) :
    p'.Safe env := by
  cases step with
  | spawn t =>
    refine ⟨safe.sound, safe.uncached, fun g member => ?_⟩
    rcases List.mem_append.mp member with member | member
    · exact safe.goroutines g member
    · rw [List.mem_singleton.mp member]
      exact ⟨trivial, trivial⟩
  | run found step =>
    obtain ⟨declared, guarded⟩ := safe.goroutines _ (List.getElem?_mem found)
    obtain ⟨sound, declared⟩ := Goroutine.step_sound safe.sound declared step
    obtain ⟨uncached, guarded, -⟩ := Goroutine.step_guarded safe.uncached guarded step
    refine ⟨sound, uncached, fun g member => ?_⟩
    rcases List.mem_or_eq_of_mem_set member with member | rfl
    · exact safe.goroutines g member
    · exact ⟨declared, guarded⟩

theorem Process.Reachable.safe {p : Process} (reachable : p.Reachable env) : p.Safe env := by
  induction reachable with
  | refl => exact ⟨Store.Sound.empty, fun _ _ => rfl, fun _ => nofun⟩
  | tail _ step safe => exact step.safe safe

theorem Process.stuck_along {p p' : Process} (reachable : p.Reachable env)
    (run : ReflTransGen (Process.Step env) p p') {i : Nat} {g : Goroutine}
    (found : p.goroutines[i]? = some g) :
    ∃ g', p'.goroutines[i]? = some g' ∧ (g.thread.Stuck env ↔ g'.thread.Stuck env) := by
  induction run with
  | refl => exact ⟨g, found, Iff.rfl⟩
  | tail before step ih =>
    obtain ⟨g₁, found₁, stuck⟩ := ih
    have safe := Process.Reachable.safe (ReflTransGen.trans reachable before)
    cases step with
    | spawn u =>
      exact ⟨g₁, by rw [List.getElem?_append_left (List.getElem?_eq_some_iff.mp found₁).1, found₁],
        stuck⟩
    | @run j g₂ s g' found₂ step =>
      by_cases same : j = i
      · subst same
        cases found₂.symm.trans found₁
        have guarded := (safe.goroutines _ (List.getElem?_mem found₁)).2
        exact ⟨g', List.getElem?_set_self (List.getElem?_eq_some_iff.mp found₁).1,
          stuck.trans (Goroutine.step_guarded safe.uncached guarded step).2.2⟩
      · exact ⟨g₁, by rw [List.getElem?_set_ne same, found₁], stuck⟩

theorem cycles_never_cached {p : Process} (reachable : p.Reachable env) :
    CyclesUncached env p.store :=
  reachable.safe.uncached

theorem cyclic_call_never_returns {p p' : Process} (reachable : p.Reachable env)
    (run : ReflTransGen (Process.Step env) p p') {i : Nat} {t : GoType} {name : String}
    {c : List String} (called : p.goroutines[i]? = some ⟨.call t, c⟩)
    (concrete : interfaceToConcreteType t = .struct name) (cycle : ReachesCycle env name) :
    ∃ g, p'.goroutines[i]? = some g ∧ (g.step env p'.store).isSome := by
  obtain ⟨g, found, stuck⟩ := Process.stuck_along reachable run called
  exact ⟨g, found, Goroutine.step_isSome (Thread.not_returned_of_stuck (stuck.mp ⟨name, concrete, cycle⟩))⟩

/-! ## Calls one after another are an interleaving -/

theorem Alone.process (goroutines : List Goroutine) (i : Nat) (inside : i < goroutines.length)
    {a b : Store × Goroutine} (run : Alone env a b) :
    ReflTransGen (Process.Step env) ⟨a.1, goroutines.set i a.2⟩ ⟨b.1, goroutines.set i b.2⟩ := by
  induction run with
  | refl => exact .refl
  | tail _ step before =>
    refine before.tail ?_
    have next := Process.Step.run (p := ⟨_, goroutines.set i _⟩)
      (List.getElem?_set_self (by simpa using inside)) step
    rwa [List.set_set] at next

theorem Call.process {s s' : Store} (call : Call env s s') (goroutines : List Goroutine) :
    ∃ g : Goroutine, g.thread.Returned ∧
      ReflTransGen (Process.Step env) ⟨s, goroutines⟩ ⟨s', goroutines ++ [g]⟩ := by
  obtain ⟨fuel, t, r, run⟩ := call.canonical
  obtain ⟨g, returned, alone⟩ : ∃ g : Goroutine, g.thread.Returned ∧
      Alone env (s, ⟨.call t, []⟩) (s', g) := by
    rcases canonicalFieldMap_cases run with ⟨name, ref, c, concrete, walk, -⟩ | ⟨other, rfl, -⟩
    · exact ⟨⟨.done ref, c⟩, trivial, .head (by simp [Goroutine.step, concrete])
        ((addFieldsToMap_runs_alone _ _ _ _ _ _ walk []).tail rfl)⟩
    · exact ⟨⟨.refused, []⟩, trivial, .single (by simp only [Goroutine.step, other])⟩
  have run := Alone.process (goroutines ++ [⟨.call t, []⟩]) goroutines.length (by simp) alone
  simp only [List.set_append_right _ _ (le_refl _), Nat.sub_self, List.set_cons_zero] at run
  exact ⟨g, returned, .head (.spawn ⟨s, goroutines⟩ t) run⟩

theorem reachable_by_goroutines {s : Store} (reachable : Reachable env s) :
    ∃ p : Process, p.Reachable env ∧ p.store = s ∧ ∀ g ∈ p.goroutines, g.thread.Returned := by
  induction reachable with
  | refl => exact ⟨⟨.empty, []⟩, .refl, rfl, fun _ => nofun⟩
  | tail _ call before =>
    obtain ⟨⟨s, goroutines⟩, reachable, rfl, returned⟩ := before
    obtain ⟨g, done, run⟩ := call.process goroutines
    refine ⟨_, ReflTransGen.trans reachable run, rfl, fun g' member => ?_⟩
    rcases List.mem_append.mp member with member | member
    · exact returned g' member
    · rw [List.mem_singleton.mp member]
      exact done

theorem reachable_by_goroutines_outer :
    ∃ r s, canonicalFieldMap innerOuter 3 (.struct "Outer") .empty = some (r, s) ∧
      ∃ p : Process, p.Reachable innerOuter ∧ p.store = s ∧ ∀ g ∈ p.goroutines, g.thread.Returned :=
  ⟨_, _, rfl, reachable_by_goroutines
    (.single (.ofFieldMap (rfl : canonicalFieldMap innerOuter 3 (.struct "Outer") .empty = _)))⟩

/-! ## Schedules -/

/-- What the scheduler does next: start a goroutine on a call of `fieldMap`, or run goroutine `i`
one step. -/
inductive Sched where
  | spawn (t : GoType)
  | run (i : Nat)
  deriving DecidableEq, Repr

/-- The process after the scheduler's choice; a goroutine that has returned, or that does not
exist, does not move. -/
def Process.schedule (env : TypeEnv) (p : Process) : Sched → Process
  | .spawn t => ⟨p.store, p.goroutines ++ [⟨.call t, []⟩]⟩
  | .run i =>
    match p.goroutines[i]? with
    | some g =>
      match g.step env p.store with
      | some (s, g') => ⟨s, p.goroutines.set i g'⟩
      | none => p
    | none => p

theorem Process.reaches_schedule (p : Process) :
    ∀ a : Sched, ReflTransGen (Process.Step env) p (p.schedule env a)
  | .spawn t => .single (.spawn p t)
  | .run i => by
    simp only [Process.schedule]
    split
    · next g found =>
      split
      · next s g' step => exact .single (.run found step)
      · exact .refl
    · exact .refl

theorem Process.runs_schedule :
    ∀ (schedule : List Sched) (p : Process),
      ReflTransGen (Process.Step env) p (schedule.foldl (Process.schedule env) p)
  | [], _ => .refl
  | a :: rest, p => ReflTransGen.trans (p.reaches_schedule a) (Process.runs_schedule rest _)

theorem Process.Reachable.schedule (schedule : List Sched) {p : Process}
    (reachable : p.Reachable env) : (schedule.foldl (Process.schedule env) p).Reachable env :=
  ReflTransGen.trans reachable (Process.runs_schedule schedule p)

/-- A goroutine on `Node` of `node`, six steps on: it is about to go into `Node` a third time. -/
def recursingNode : Process :=
  (List.replicate 6 (Sched.run 0)).foldl (Process.schedule node)
    ⟨.empty, [⟨.call (.struct "Node"), []⟩]⟩

theorem cycles_never_cached_node :
    recursingNode.Reachable node ∧
      recursingNode.goroutines.map Goroutine.thread =
        [.enter "Node" 0 (List.replicate 2 ⟨"Node", [⟨"V", .basic "int", false⟩], 0⟩)] ∧
      CyclesUncached node recursingNode.store :=
  have reachable : recursingNode.Reachable node :=
    Process.Reachable.schedule _ (.single (.spawn ⟨.empty, []⟩ (.struct "Node")))
  ⟨reachable, rfl, cycles_never_cached reachable⟩

theorem cyclic_call_never_returns_node :
    ∃ g, recursingNode.goroutines[0]? = some g ∧ (g.step node recursingNode.store).isSome :=
  cyclic_call_never_returns (p := ⟨.empty, [⟨.call (.struct "Node"), []⟩]⟩)
    (.single (.spawn ⟨.empty, []⟩ (.struct "Node"))) (Process.runs_schedule _ _) rfl rfl
    ⟨"Node", .refl, .single ⟨_, .head _, rfl, rfl⟩⟩

end Converge.Preprocessor
