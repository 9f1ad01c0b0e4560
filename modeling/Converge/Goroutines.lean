import Converge.CacheRuns

/-!
# `addFieldsToMap` as a goroutine runs it

A `Goroutine` is a call of `fieldMap` as a machine whose steps are exactly those that touch shared
state: the making of its map object, each `Get` and `Put` of `fieldMapCache`, and each read or
write of a map object. Its frames are the calls of `addFieldsToMap` under way. The machine takes
each of these steps at once; `Runtime` (in `Converge.Runtime`) runs them as Go does, with the
cache's mutex and the writing flag of each map, and each of its steps is one of these or none.

Running alone, the machine and the recursive function are one computation: a run of the function
is a run of the machine (`canonicalFieldMap_runs_alone`), and a run of the machine that stops is a
run of the function on some fuel (`alone_canonicalFieldMap`), through `Inside`, the runs that stay
inside one call, by strong induction on their number of steps. From an empty cache the machine
stops exactly when no cycle of embedded fields lies ahead of the type (`alone_stops_iff`): on a
recursive type the source's recursion never returns.
-/

namespace Converge.Preprocessor

open Reflect Relation

variable {env : TypeEnv}

/-- A call of `addFieldsToMap` under way: the struct type it walks, the fields of it still to
visit, and the map object `m` it writes to. -/
structure Frame where
  t : String
  fields : List Field
  m : Nat
  deriving DecidableEq, Repr

/-- Where a goroutine is in its call of `fieldMap`; `stack` holds the frames of the callers of the
`addFieldsToMap` it is in. -/
inductive Thread where
  /-- about to make the map object of `fieldMap(t)` -/
  | call (t : GoType)
  /-- about to call `addFieldsToMap(m, conflicts, t)` -/
  | enter (t : String) (m : Nat) (stack : List Frame)
  /-- in the loop over the fields of a struct type -/
  | loop (frame : Frame) (stack : List Frame)
  /-- has found `m[lower]` unset, and is about to set it to `field.Name` and go on as `next` -/
  | writing (m : Nat) (field : Field) (next : Thread)
  /-- returning map object `m` to the frame on top of `stack` -/
  | leave (m : Nat) (stack : List Frame)
  /-- `fieldMap` has returned map object `m` -/
  | done (m : Nat)
  /-- `fieldMap` has returned its error on a type that is not a struct -/
  | refused
  deriving DecidableEq, Repr

/-- A goroutine: where it is, and the `conflicts` map of its call of `fieldMap`, which no other
goroutine sees. -/
structure Goroutine where
  thread : Thread
  conflicts : List String
  deriving DecidableEq, Repr

/-- Where the loop goes after an embedded field: into the struct type under it, to resume `frame`
with the map object that call returns, or on to the next field. -/
def Thread.afterEmbedded (field : Field) (frame : Frame) (stack : List Frame) : Thread :=
  match interfaceToConcreteType field.type with
  | .struct anon => .enter anon frame.m (frame :: stack)
  | _ => .loop frame stack

/-- One step of a goroutine on the shared store, taken at once, `none` once its call has
returned. -/
def Goroutine.step (env : TypeEnv) (s : Store) : Goroutine → Option (Store × Goroutine)
  | ⟨.call t, c⟩ =>
    match interfaceToConcreteType t with
    | .struct name => some (s.alloc.2, ⟨.enter name s.alloc.1 [], c⟩)
    | _ => some (s.alloc.2, ⟨.refused, c⟩)
  | ⟨.enter t m stack, c⟩ =>
    match s.cache.get t with
    | some cached => some (s, ⟨.leave cached stack, c⟩)
    | none => some (s, ⟨.loop ⟨t, env.fields t, m⟩ stack, c⟩)
  | ⟨.loop ⟨t, [], m⟩ stack, c⟩ => some (s.put t m, ⟨.leave m stack, c⟩)
  | ⟨.loop ⟨t, field :: rest, m⟩ stack, c⟩ =>
    let lower := toLower field.name
    let present := ((s.read m).get lower).isSome
    if field.anonymous then
      let next := Thread.afterEmbedded field ⟨t, rest, m⟩ stack
      some (s, ⟨if present then next else .writing m field next, c⟩)
    else if present then some (s, ⟨.loop ⟨t, rest, m⟩ stack, c.insert lower⟩)
    else if lower ∈ c then some (s, ⟨.loop ⟨t, rest, m⟩ stack, c⟩)
    else some (s, ⟨.writing m field (.loop ⟨t, rest, m⟩ stack), c⟩)
  | ⟨.writing m field next, c⟩ => some (s.write m (toLower field.name) field.name, ⟨next, c⟩)
  | ⟨.leave m [], c⟩ => some (s, ⟨.done m, c⟩)
  | ⟨.leave m (frame :: stack), c⟩ => some (s, ⟨.loop ⟨frame.t, frame.fields, m⟩ stack, c⟩)
  | ⟨.done _, _⟩ | ⟨.refused, _⟩ => none

/-- The runs of one goroutine that no other goroutine interrupts. -/
def Alone (env : TypeEnv) : Store × Goroutine → Store × Goroutine → Prop :=
  ReflTransGen fun a b => a.2.step env a.1 = some b

/-! ## Running alone, a goroutine computes `fieldMap` -/

theorem Alone.writing {s : Store} {m : Nat} {field : Field} {next : Thread} {c : List String}
    {z : Store × Goroutine} (rest : Alone env (s.write m (toLower field.name) field.name, ⟨next, c⟩) z) :
    Alone env (s, ⟨.writing m field next, c⟩) z :=
  .head rfl rest

section Alone

variable {recurse : Nat → List String → String → Store → Option (Nat × List String × Store)}

theorem addFields_runs_alone
    (recursed : ∀ m c u s r, recurse m c u s = some r → ∀ stack,
      Alone env (s, ⟨.enter u m stack, c⟩) (r.2.2, ⟨.leave r.1 stack, r.2.1⟩))
    (t : String) (stack : List Frame) :
    ∀ (fields : List Field) m c s r, addFields recurse fields m c s = some r →
      Alone env (s, ⟨.loop ⟨t, fields, m⟩ stack, c⟩) (r.2.2, ⟨.loop ⟨t, [], r.1⟩ stack, r.2.1⟩)
  | [], m, c, s, r, walk => by
    cases walk
    exact .refl
  | field :: rest, m, c, s, r, walk => by
    have ih := addFields_runs_alone recursed t stack rest
    unfold addFields at walk
    by_cases anon : field.anonymous = true
    · simp only [anon, if_true] at walk
      -- the store after the embedded field's name is set, if it was not, and the run to there
      obtain ⟨s₁, written, toNext⟩ : ∃ s₁, s₁ = (if ((s.read m).get (toLower field.name)).isSome
          then s else s.write m (toLower field.name) field.name) ∧
          Alone env (s, ⟨.loop ⟨t, field :: rest, m⟩ stack, c⟩)
            (s₁, ⟨Thread.afterEmbedded field ⟨t, rest, m⟩ stack, c⟩) := by
        refine ⟨_, rfl, ?_⟩
        cases present : ((s.read m).get (toLower field.name)).isSome
        · exact .head (by simp [Goroutine.step, anon, present]) (Alone.writing .refl)
        · exact .single (by simp [Goroutine.step, anon, present])
      rw [← written] at walk
      unfold Thread.afterEmbedded at toNext
      split at walk
      · next anonType concrete =>
        rw [concrete] at toNext
        rcases into : recurse m c anonType s₁ with _ | ⟨m₂, c₂, s₂⟩ <;> rw [into] at walk
        · cases walk
        · exact toNext.trans (((recursed _ _ _ _ _ into _).tail (by rfl)).trans (ih _ _ _ _ walk))
      · next other =>
        split at toNext
        · next name concrete => exact absurd concrete (other name)
        · exact toNext.trans (ih _ _ _ _ walk)
    · simp only [anon, Bool.false_eq_true, if_false] at walk
      have named : field.anonymous = false := by simpa using anon
      cases present : ((s.read m).get (toLower field.name)).isSome
      · simp only [present, Bool.false_eq_true, if_false] at walk
        by_cases conflicting : toLower field.name ∈ c
        · simp only [conflicting, if_true] at walk
          exact .head (by simp [Goroutine.step, named, present, conflicting]) (ih _ _ _ _ walk)
        · simp only [conflicting, if_false] at walk
          exact .head (by simp [Goroutine.step, named, present, conflicting])
            (Alone.writing (ih _ _ _ _ walk))
      · simp only [present, if_true] at walk
        exact .head (by simp [Goroutine.step, named, present]) (ih _ _ _ _ walk)

theorem addFieldsToMap_runs_alone : ∀ fuel m c t s r,
    addFieldsToMap env fuel m c t s = some r → ∀ stack,
      Alone env (s, ⟨.enter t m stack, c⟩) (r.2.2, ⟨.leave r.1 stack, r.2.1⟩)
  | 0, _, _, _, _, _, walk, _ => by cases walk
  | fuel + 1, m, c, t, s, r, walk, stack => by
    unfold addFieldsToMap at walk
    cases cached : s.cache.get t with
    | some ref =>
      simp only [cached, Option.some.injEq] at walk
      subst walk
      exact .single (by simp [Goroutine.step, cached])
    | none =>
      simp only [cached] at walk
      rcases fields : addFields (addFieldsToMap env fuel) (env.fields t) m c s with
        _ | ⟨m', c', s'⟩ <;> rw [fields] at walk
      · cases walk
      · cases walk
        have loop := addFields_runs_alone (fun m c u s r into stack =>
          addFieldsToMap_runs_alone fuel m c u s r into stack) t stack _ _ _ _ _ fields
        exact .head (by simp [Goroutine.step, cached]) (loop.tail rfl)

end Alone

theorem canonicalFieldMap_runs_alone {fuel : Nat} {t : GoType} {s s' : Store}
    {result : Except Failure (GoMap String)} (run : canonicalFieldMap env fuel t s = some (result, s')) :
    (∃ ref c, Alone env (s, ⟨.call t, []⟩) (s', ⟨.done ref, c⟩) ∧ result = .ok (s'.read ref)) ∨
      Alone env (s, ⟨.call t, []⟩) (s', ⟨.refused, []⟩) ∧ ∃ e, result = .error e := by
  rcases canonicalFieldMap_cases run with ⟨name, ref, c, concrete, walk, rfl⟩ | ⟨other, rfl, e, rfl⟩
  · exact .inl ⟨ref, c, .head (by simp [Goroutine.step, concrete])
      ((addFieldsToMap_runs_alone _ _ _ _ _ _ walk []).tail (by rfl)), rfl⟩
  · refine .inr ⟨.single ?_, e, rfl⟩
    simp only [Goroutine.step]

theorem canonicalFieldMap_runs_alone_outer :
    ∃ result s', canonicalFieldMap innerOuter 3 (.struct "Outer") .empty = some (result, s') ∧
      ((∃ ref c, Alone innerOuter (.empty, ⟨.call (.struct "Outer"), []⟩) (s', ⟨.done ref, c⟩) ∧
          result = .ok (s'.read ref)) ∨
        Alone innerOuter (.empty, ⟨.call (.struct "Outer"), []⟩) (s', ⟨.refused, []⟩) ∧
          ∃ e, result = .error e) :=
  ⟨_, _, rfl,
    canonicalFieldMap_runs_alone (rfl : canonicalFieldMap innerOuter 3 (.struct "Outer") .empty = _)⟩

/-! ## A run alone is a call of `fieldMap` -/

theorem addFields_of_agree
    {recurse recurse' : Nat → List String → String → Store → Option (Nat × List String × Store)}
    (agree : ∀ m c u s r, recurse m c u s = some r → recurse' m c u s = some r) :
    ∀ (fields : List Field) m c s r, addFields recurse fields m c s = some r →
      addFields recurse' fields m c s = some r
  | [], _, _, _, _, walk => walk
  | field :: rest, m, c, s, r, walk => by
    have ih := addFields_of_agree agree rest
    revert walk
    simp only [addFields]
    split
    · split
      · rename_i anonType _
        rcases into : recurse m c anonType _ with _ | ⟨m', c', s'⟩
        · exact nofun
        · rw [agree _ _ _ _ _ into]
          exact ih _ _ _ _
      · exact ih _ _ _ _
    · split
      · exact ih _ _ _ _
      · split
        · exact ih _ _ _ _
        · exact ih _ _ _ _

theorem addFieldsToMap_succ : ∀ fuel m c t s r, addFieldsToMap env fuel m c t s = some r →
    addFieldsToMap env (fuel + 1) m c t s = some r
  | 0, _, _, _, _, _, walk => by cases walk
  | fuel + 1, m, c, t, s, r, walk => by
    cases cached : s.cache.get t with
    | some ref => simpa only [addFieldsToMap.eq_2, cached] using walk
    | none =>
      rw [addFieldsToMap_uncached cached] at walk ⊢
      obtain ⟨r', fields, rfl⟩ := Option.map_eq_some'.mp walk
      rw [addFields_of_agree (addFieldsToMap_succ fuel) _ _ _ _ _ fields]
      rfl

theorem addFieldsToMap_mono {fuel fuel' m : Nat} {c : List String} {t : String} {s : Store}
    {r : Nat × List String × Store} (le : fuel ≤ fuel') (walk : addFieldsToMap env fuel m c t s = some r) :
    addFieldsToMap env fuel' m c t s = some r := by
  induction le with
  | refl => exact walk
  | step _ more => exact addFieldsToMap_succ _ _ _ _ _ _ more

theorem addFields_mono {fuel fuel' : Nat} {fields : List Field} {m : Nat} {c : List String}
    {s : Store} {r : Nat × List String × Store} (le : fuel ≤ fuel')
    (walk : addFields (addFieldsToMap env fuel) fields m c s = some r) :
    addFields (addFieldsToMap env fuel') fields m c s = some r :=
  addFields_of_agree (fun _ _ _ _ _ => addFieldsToMap_mono le) _ _ _ _ _ walk

/-- The goroutine is inside a call of `addFieldsToMap` that has not yet returned to the bottom of
its stack. -/
def Thread.Running : Thread → Prop
  | .enter .. | .loop .. => True
  | .writing _ _ next => next.Running
  | .leave _ stack => stack ≠ []
  | .call _ | .done _ | .refused => False

/-- The same goroutine with the frames `base` below its stack. -/
def Thread.under (base : List Frame) : Thread → Thread
  | .enter t m stack => .enter t m (stack ++ base)
  | .loop frame stack => .loop frame (stack ++ base)
  | .writing m field next => .writing m field (next.under base)
  | .leave m stack => .leave m (stack ++ base)
  | .call t => .call t
  | .done m => .done m
  | .refused => .refused

theorem Thread.afterEmbedded_under (field : Field) (frame : Frame) (stack base : List Frame) :
    (Thread.afterEmbedded field frame stack).under base =
      Thread.afterEmbedded field frame (stack ++ base) := by
  unfold Thread.afterEmbedded
  split <;> rfl

theorem Thread.afterEmbedded_running (field : Field) (frame : Frame) (stack : List Frame) :
    (Thread.afterEmbedded field frame stack).Running := by
  unfold Thread.afterEmbedded
  split <;> trivial

theorem Goroutine.step_of_running (env : TypeEnv) {s : Store} {g : Goroutine}
    (running : g.thread.Running) :
    ∃ s' g', g.step env s = some (s', g') ∧ (g'.thread.Running ∨ ∃ r, g'.thread = .leave r []) := by
  obtain ⟨thread, c⟩ := g
  cases thread with
  | call _ | done _ | refused => cases running
  | enter t m stack =>
    simp only [Goroutine.step]
    split
    · exact ⟨_, _, rfl, by cases stack <;> simp [Thread.Running]⟩
    · exact ⟨_, _, rfl, .inl trivial⟩
  | loop frame stack =>
    obtain ⟨t, _ | ⟨field, rest⟩, m⟩ := frame
    · exact ⟨_, _, rfl, by cases stack <;> simp [Thread.Running]⟩
    · -- after an embedded field the loop goes on by `afterEmbedded`, after another to `loop`
      simp only [Goroutine.step]
      split_ifs <;> first
        | exact ⟨_, _, rfl, .inl (Thread.afterEmbedded_running _ _ _)⟩
        | exact ⟨_, _, rfl, .inl trivial⟩
  | writing m field next => exact ⟨_, _, rfl, .inl running⟩
  | leave m stack =>
    obtain _ | ⟨frame, stack⟩ := stack
    · cases running rfl
    · exact ⟨_, _, rfl, .inl trivial⟩

theorem Goroutine.step_under {s : Store} {g : Goroutine} (running : g.thread.Running)
    (base : List Frame) :
    Goroutine.step env s ⟨g.thread.under base, g.conflicts⟩ =
      (g.step env s).map fun p => (p.1, ⟨p.2.thread.under base, p.2.conflicts⟩) := by
  obtain ⟨thread, c⟩ := g
  cases thread with
  | call _ | done _ | refused => cases running
  | enter t m stack =>
    simp only [Thread.under, Goroutine.step]
    split <;> rfl
  | loop frame stack =>
    obtain ⟨t, _ | ⟨field, rest⟩, m⟩ := frame
    · rfl
    · simp only [Thread.under, Goroutine.step]
      split_ifs <;> simp [Thread.under, Thread.afterEmbedded_under]
  | writing m field next => rfl
  | leave m stack =>
    obtain _ | ⟨frame, stack⟩ := stack
    · cases running rfl
    · rfl

/-- A run of `n` steps inside a call: every state but the last is inside it. -/
inductive Inside (env : TypeEnv) : Nat → Store × Goroutine → Store × Goroutine → Prop where
  | refl (a : Store × Goroutine) : Inside env 0 a a
  | head {n : Nat} {a b z : Store × Goroutine} : a.2.thread.Running → a.2.step env a.1 = some b →
      Inside env n b z → Inside env (n + 1) a z

/-- A state with the frames `base` below its stack. -/
def underState (base : List Frame) (a : Store × Goroutine) : Store × Goroutine :=
  (a.1, ⟨a.2.thread.under base, a.2.conflicts⟩)

theorem Thread.running_under (base : List Frame) : ∀ thread : Thread, thread.Running →
    (thread.under base).Running
  | .enter .., _ | .loop .., _ => trivial
  | .writing _ _ next, running => Thread.running_under base next running
  | .leave _ _, running => by
    simp only [Thread.under, Thread.Running, ne_eq, List.append_eq_nil, not_and]
    exact fun empty => absurd empty running

theorem Inside.under {n : Nat} {a z : Store × Goroutine} (run : Inside env n a z) (base : List Frame) :
    Inside env n (underState base a) (underState base z) := by
  induction run with
  | refl a => exact .refl _
  | head running step _ rest =>
    refine .head (Thread.running_under base _ running) ?_ rest
    rw [underState, Goroutine.step_under running base, step]
    rfl

theorem Thread.under_ne_leave_nil (frame : Frame) (r : Nat) :
    ∀ thread : Thread, thread.under [frame] ≠ .leave r []
  | .leave _ stack => by simp [Thread.under]
  | .enter .. | .loop .. | .writing .. | .call _ | .done _ | .refused => nofun

theorem Inside.split_under {frame : Frame} {r : Nat} : ∀ {n : Nat} {a z : Store × Goroutine},
    a.2.thread.Running → Inside env n (underState [frame] a) z → z.2.thread = .leave r [] →
      ∃ j k b, n = j + k ∧ Inside env j a b ∧ (∃ r', b.2.thread = .leave r' []) ∧
        Inside env k (underState [frame] b) z := by
  intro n
  induction n with
  | zero =>
    intro a z _ run final
    cases run
    exact absurd final (Thread.under_ne_leave_nil frame r _)
  | succ n ih =>
    intro a z running run final
    cases run with
    | head _ step rest =>
      obtain ⟨s', g', step', next⟩ := Goroutine.step_of_running env (s := a.1) running
      rw [underState, Goroutine.step_under running, step'] at step
      cases step
      rcases next with running' | ⟨r', left⟩
      · obtain ⟨j, k, b, rfl, inside, left, tail⟩ := ih running' rest final
        exact ⟨j + 1, k, b, by omega, .head running step' inside, left, tail⟩
      · exact ⟨1, n, (s', g'), by omega, .head running step' (.refl _), ⟨r', left⟩, rest⟩

theorem Inside.leave_nil {n : Nat} {a : Store × Goroutine} {s' : Store} {r : Nat} {c' : List String}
    (run : Inside env n a (s', ⟨.leave r [], c'⟩)) (stopped : ¬ a.2.thread.Running) :
    n = 0 ∧ a = (s', ⟨.leave r [], c'⟩) := by
  cases run with
  | refl => exact ⟨rfl, rfl⟩
  | head running => exact absurd running stopped

theorem Inside.embedded {n : Nat} {t : String} {field : Field} {rest : List Field} {m : Nat}
    {stack : List Frame} {c : List String} {s : Store} {z : Store × Goroutine}
    (anon : field.anonymous = true) (run : Inside env n (s, ⟨.loop ⟨t, field :: rest, m⟩ stack, c⟩) z)
    (stopped : ¬ z.2.thread.Running) :
    ∃ n' < n, ∃ s₁, s₁ = (if ((s.read m).get (toLower field.name)).isSome then s
      else s.write m (toLower field.name) field.name) ∧
        Inside env n' (s₁, ⟨Thread.afterEmbedded field ⟨t, rest, m⟩ stack, c⟩) z := by
  cases run with
  | refl => exact absurd trivial stopped
  | @head n₁ _ _ _ _ step rest =>
    cases present : ((s.read m).get (toLower field.name)).isSome
    · simp only [Goroutine.step, anon, present, if_true] at step
      cases step
      cases rest with
      | refl => exact absurd (Thread.afterEmbedded_running _ _ _) stopped
      | @head n₂ _ _ _ _ step rest =>
        cases step
        exact ⟨n₂, by omega, _, by simp [present], rest⟩
    · simp only [Goroutine.step, anon, present, if_true] at step
      cases step
      exact ⟨n₁, by omega, _, by simp [present], rest⟩

theorem Inside.declared {n : Nat} {t : String} {field : Field} {rest : List Field} {m : Nat}
    {stack : List Frame} {c : List String} {s : Store} {z : Store × Goroutine}
    (named : field.anonymous = false) (run : Inside env n (s, ⟨.loop ⟨t, field :: rest, m⟩ stack, c⟩) z)
    (stopped : ¬ z.2.thread.Running) :
    ∃ n' < n, ∃ s₁ c₁, Inside env n' (s₁, ⟨.loop ⟨t, rest, m⟩ stack, c₁⟩) z ∧
      ∀ recurse, addFields recurse (field :: rest) m c s = addFields recurse rest m c₁ s₁ := by
  cases run with
  | refl => exact absurd trivial stopped
  | @head n₁ _ _ _ _ step rest =>
    cases present : ((s.read m).get (toLower field.name)).isSome
    · by_cases conflicting : toLower field.name ∈ c
      · simp only [Goroutine.step, named, present, conflicting, Bool.false_eq_true, if_false,
          if_true] at step
        cases step
        exact ⟨n₁, by omega, _, _, rest, fun _ => by simp [addFields, named, present, conflicting]⟩
      · simp only [Goroutine.step, named, present, conflicting, Bool.false_eq_true, if_false] at step
        cases step
        cases rest with
        | refl => exact absurd trivial stopped
        | @head n₂ _ _ _ _ step rest =>
          cases step
          exact ⟨n₂, by omega, _, _, rest, fun _ => by simp [addFields, named, present, conflicting]⟩
    · simp only [Goroutine.step, named, present, Bool.false_eq_true, if_false, if_true] at step
      cases step
      exact ⟨n₁, by omega, _, _, rest, fun _ => by simp [addFields, named, present]⟩

theorem inside_addFieldsToMap : ∀ n,
    (∀ {t m c s s' r c'}, Inside env n (s, ⟨.enter t m [], c⟩) (s', ⟨.leave r [], c'⟩) →
      addFieldsToMap env n m c t s = some (r, c', s')) ∧
    (∀ {t fields m c s s' r c'}, Inside env n (s, ⟨.loop ⟨t, fields, m⟩ [], c⟩) (s', ⟨.leave r [], c'⟩) →
      ∃ s₁, addFields (addFieldsToMap env n) fields m c s = some (r, c', s₁) ∧ s' = s₁.put t r) := by
  intro n
  induction n using Nat.strong_induction_on with
  | _ n ih =>
  refine ⟨fun {t m c s s' r c'} run => ?_, fun {t fields m c s s' r c'} run => ?_⟩ <;>
    have stopped : ¬ (Thread.leave r []).Running := fun running => running rfl
  -- the call: answered from the cache, or the loop over the fields
  · cases run with
    | @head n' _ _ _ _ step rest =>
      cases cached : s.cache.get t with
      | some ref =>
        simp only [Goroutine.step, cached] at step
        cases step
        obtain ⟨rfl, same⟩ := rest.leave_nil stopped
        cases same
        simp [addFieldsToMap, cached]
      | none =>
        simp only [Goroutine.step, cached] at step
        cases step
        obtain ⟨s₁, walk, rfl⟩ := (ih n' (by omega)).2 rest
        rw [addFieldsToMap_uncached cached, walk]
        rfl
  -- the loop, field by field
  · cases fields with
    | nil =>
      cases run with
      | head _ step rest =>
        cases step
        obtain ⟨rfl, same⟩ := rest.leave_nil stopped
        cases same
        exact ⟨s, rfl, rfl⟩
    | cons field rest =>
      cases anon : field.anonymous
      · obtain ⟨n', lt, s₁, c₁, run, walked⟩ := run.declared anon stopped
        obtain ⟨s₂, walk, rfl⟩ := (ih n' lt).2 run
        exact ⟨s₂, (walked _).trans (addFields_mono lt.le walk), rfl⟩
      · obtain ⟨n', lt, s₁, stored, run⟩ := run.embedded anon stopped
        unfold Thread.afterEmbedded at run
        split at run
        · next anonType concrete =>
          -- the call on the embedded struct type, then the rest of the loop
          obtain ⟨j, k, ⟨s₂, thread₂, c₂⟩, rfl, inner, ⟨r₂, left⟩, outer⟩ :=
            Inside.split_under (a := (_, ⟨.enter anonType m [], c⟩)) trivial run rfl
          cases left
          have called := (ih j (by omega)).1 inner
          cases outer with
          | @head k' _ _ _ _ step rest =>
            cases step
            obtain ⟨s₃, walk, rfl⟩ := (ih k' (by omega)).2 rest
            refine ⟨s₃, ?_, rfl⟩
            simp only [addFields, anon, if_true, concrete, ← stored]
            rw [addFieldsToMap_mono (by omega) called]
            exact addFields_mono (by omega) walk
        · next other =>
          obtain ⟨s₂, walk, rfl⟩ := (ih n' lt).2 run
          refine ⟨s₂, ?_, rfl⟩
          simp only [addFields, anon, if_true, ← stored]
          exact addFields_mono lt.le walk

theorem Alone.stopped {a z : Store × Goroutine} (run : Alone env a z)
    (final : a.2.step env a.1 = none) : z = a := by
  rcases run.cases_head with rfl | ⟨_, step, _⟩
  · rfl
  · rw [final] at step
    cases step

theorem Alone.stops {a z : Store × Goroutine} (run : Alone env a z) (running : a.2.thread.Running)
    (final : z.2.step env z.1 = none) :
    ∃ n s' r c', Inside env n a (s', ⟨.leave r [], c'⟩) ∧ z = (s', ⟨.done r, c'⟩) := by
  induction run using Relation.ReflTransGen.head_induction_on with
  | refl =>
    obtain ⟨_, _, step, _⟩ := Goroutine.step_of_running env running
    rw [final] at step
    cases step
  | head step rest ih =>
    obtain ⟨s', ⟨thread, c'⟩, step', next⟩ := Goroutine.step_of_running env running
    rw [step'] at step
    cases step
    rcases next with running' | ⟨r, left⟩
    · obtain ⟨n, s'', r, c'', inside, rfl⟩ := ih running'
      exact ⟨n + 1, s'', r, c'', .head running step' inside, rfl⟩
    · cases left
      rcases rest.cases_head with rfl | ⟨_, step, rest⟩
      · cases final
      · cases step
        exact ⟨1, s', r, c', .head running step' (.refl _), Alone.stopped rest rfl⟩

theorem alone_canonicalFieldMap {t : GoType} {s : Store} {z : Store × Goroutine}
    (run : Alone env (s, ⟨.call t, []⟩) z) (final : z.2.step env z.1 = none) :
    ∃ fuel result, canonicalFieldMap env fuel t s = some (result, z.1) ∧
      ((∃ ref, z.2.thread = .done ref ∧ result = .ok (z.1.read ref)) ∨
        z.2.thread = .refused ∧ ∃ e, result = .error e) := by
  rcases run.cases_head with rfl | ⟨_, step, rest⟩
  · simp only [Goroutine.step] at final
    split at final <;> cases final
  · simp only [Goroutine.step] at step
    split at step
    · next name concrete =>
      cases step
      obtain ⟨n, s', r, c', inside, rfl⟩ := Alone.stops rest trivial final
      refine ⟨n, _, ?_, .inl ⟨r, rfl, rfl⟩⟩
      simp only [canonicalFieldMap, concrete, (inside_addFieldsToMap n).1 inside]
    · next other =>
      cases step
      cases Alone.stopped rest rfl
      refine ⟨0, .error (.nonStruct "*reflect.rtype"), ?_, .inr ⟨rfl, _, rfl⟩⟩
      simp only [canonicalFieldMap, other]

theorem alone_canonicalFieldMap_outer :
    ∃ z, Alone innerOuter (.empty, ⟨.call (.struct "Outer"), []⟩) z ∧
      z.2.step innerOuter z.1 = none ∧
      ∃ fuel result, canonicalFieldMap innerOuter fuel (.struct "Outer") .empty = some (result, z.1) ∧
        ((∃ ref, z.2.thread = .done ref ∧ result = .ok (z.1.read ref)) ∨
          z.2.thread = .refused ∧ ∃ e, result = .error e) :=
  have run : Alone innerOuter (.empty, ⟨.call (.struct "Outer"), []⟩) (_, ⟨.done _, _⟩) :=
    .head rfl ((addFieldsToMap_runs_alone _ _ _ _ _ _
      (rfl : addFieldsToMap innerOuter 3 0 [] "Outer" ⟨[.empty], .empty⟩ = _) []).tail rfl)
  ⟨_, run, rfl, alone_canonicalFieldMap run rfl⟩

/-! ## Termination -/

theorem alone_stops_iff (t : String) :
    (∃ z, Alone env (.empty, ⟨.call (.struct t), []⟩) z ∧ z.2.step env z.1 = none) ↔
      ¬ ReachesCycle env t := by
  rw [← canonicalFieldMap_returns_iff]
  constructor
  · rintro ⟨z, run, final⟩
    rcases run.cases_head with rfl | ⟨_, step, rest⟩
    · cases final
    · cases step
      obtain ⟨n, s', r, c', inside, -⟩ := Alone.stops rest trivial final
      exact ⟨n, (.ok (s'.read r), s'), by simp only [canonicalFieldMap, interfaceToConcreteType,
        (inside_addFieldsToMap n).1 inside]⟩
  · rintro ⟨fuel, r, run⟩
    simp only [canonicalFieldMap, interfaceToConcreteType] at run
    split at run
    · next ref c s' walk =>
      exact ⟨_, .head rfl ((addFieldsToMap_runs_alone _ _ _ _ _ _ walk []).tail rfl), rfl⟩
    · cases run

end Converge.Preprocessor
