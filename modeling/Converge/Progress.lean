import Converge.Runtime

/-!
# Progress of the goroutines

Some goroutine can always move while one has not returned: the holder of the mutex can, and when
the mutex is free, any goroutine that has not returned can (`runtime_never_deadlocks`).

`Worker.work` bounds the turns a goroutine has still to take on a struct type with no cycle of
embedded fields ahead of it: three for each step of `Process` (`Lock`, the step, `Unlock`) and one
for the read of its caller. Every turn of the goroutine lowers it unless another goroutine holds
the mutex or the process faults (`Runtime.turn_work`). So the goroutine returns within that many
of its turns at which no other goroutine holds the mutex, unless a fault stops the process
(`call_returns_within_turns`). Once the other goroutines have finished the `Get`, `Put` or
assignment they are in, at most two turns each, it returns running alone, with no fault
(`call_returns_alone`).
-/

namespace Converge.Preprocessor

open Reflect Relation

variable {env : TypeEnv}

/-- The turns a goroutine takes to finish the `Get`, `Put` or assignment it is in. -/
def Phase.drain : Phase → Nat
  | .locked => 2
  | .unlocking | .assigning => 1
  | _ => 0

theorem Phase.drain_le_two : ∀ phase : Phase, phase.drain ≤ 2
  | .running | .locked | .unlocking | .assigning | .returned => by decide

theorem Phase.idle_of_drain : ∀ {phase : Phase}, phase.drain = 0 → phase.busy = false
  | .running, _ | .returned, _ => rfl

namespace Runtime

/-- `LookupCanonicalFieldName` of goroutine `i` has returned. -/
def Returned (r : Runtime) (i : Nat) : Prop :=
  ∃ w, r.workers[i]? = some w ∧ w.phase = .returned

/-- The turns of goroutine `i` in `schedule` at which no other goroutine holds the mutex. -/
def freeTurns (env : TypeEnv) (i : Nat) : Runtime → List Sched → Nat
  | _, [] => 0
  | r, a :: schedule =>
    (if a = .run i ∧ (r.holder = none ∨ r.holder = some i) then 1 else 0) +
      freeTurns env i (r.schedule env a) schedule

end Runtime

/-! ## Every goroutine can move -/

namespace Runtime

theorem advance_fault (r : Runtime) (i : Nat) (w : Worker) (phase : Phase) :
    (r.advance env i w phase).fault = r.fault := by
  unfold advance
  split <;> rfl

end Runtime

/-- At most the turns a goroutine has still to take while no other goroutine holds the mutex:
three for each step of `Process` it has still to take, and the read of its caller. -/
def Worker.work (env : TypeEnv) (w : Worker) : Nat :=
  match w.phase with
  | .running => 3 * w.goroutine.thread.work env + 1
  | .locked | .assigning => 3 * w.goroutine.thread.work env
  | .unlocking => 3 * w.goroutine.thread.work env + 2
  | .returned => 0

theorem Worker.returned_of_work {w : Worker} (inside : w.Inside) (zero : w.work env = 0) :
    w.phase = .returned := by
  unfold Worker.work at zero
  unfold Worker.Inside at inside
  split at zero
  · omega
  · next locked =>
    simp only [locked] at inside
    have : 0 < w.goroutine.thread.work env := Thread.work_pos (Thread.not_returned_of_cache inside)
    omega
  · next assigning =>
    simp only [assigning] at inside
    have : 0 < w.goroutine.thread.work env :=
      Thread.work_pos (Thread.not_returned_of_write inside.choose_spec)
    omega
  · omega
  · assumption

namespace Runtime

theorem turn_other {r : Runtime} {i j : Nat} {w : Worker} (other : i ≠ j) :
    (r.turn env i w).workers[j]? = r.workers[j]? := by
  unfold turn advance
  repeat' split
  all_goals simp only [List.getElem?_set_ne other]

theorem schedule_other {r : Runtime} {i : Nat} {w : Worker} (found : r.workers[i]? = some w)
    {a : Sched} (other : a ≠ .run i) : (r.schedule env a).workers[i]? = some w := by
  unfold schedule
  split
  · exact found
  · split
    · exact (List.getElem?_append_left (List.getElem?_eq_some_iff.mp found).1).trans found
    · next j =>
      split
      · exact (turn_other fun same => other (congrArg Sched.run same)).trans found
      · exact found

theorem fault_none_of_run {r : Runtime} {schedule : List Sched}
    (running : (r.run env schedule).fault = none) : r.fault = none := by
  cases faulted : r.fault with
  | none => rfl
  | some f =>
    rw [run_faulted (by simp [faulted])] at running
    exact faulted.symm.trans running

theorem advance_work {r : Runtime} {i : Nat} {w : Worker} {root : String}
    (acyclic : ¬ ReachesCycle env root) (found : r.workers[i]? = some w)
    (rooted : w.goroutine.thread.Rooted env root) {phase : Phase}
    (fewer : ∀ g : Goroutine, g.thread.work env < w.goroutine.thread.work env →
      Worker.work env ⟨g, phase⟩ < w.work env) :
    ∃ w', (r.advance env i w phase).workers[i]? = some w' ∧ w'.goroutine.thread.Rooted env root ∧
      (w'.work env < w.work env ∨ w'.work env = 0) := by
  have inside := (List.getElem?_eq_some_iff.mp found).1
  unfold advance
  split
  · next s g step =>
    obtain ⟨rooted', lower⟩ := Goroutine.step_work acyclic rooted step
    exact ⟨⟨g, phase⟩, List.getElem?_set_self inside, rooted', .inl (fewer g lower)⟩
  · exact ⟨_, List.getElem?_set_self inside, rooted, .inr rfl⟩

theorem turn_work {r : Runtime} {i : Nat} {w : Worker} {root : String}
    (acyclic : ¬ ReachesCycle env root) (coherent : r.Coherent) (found : r.workers[i]? = some w)
    (rooted : w.goroutine.thread.Rooted env root) :
    ∃ w', (r.turn env i w).workers[i]? = some w' ∧ w'.goroutine.thread.Rooted env root ∧
      w'.work env ≤ w.work env ∧ ((r.turn env i w).fault = none →
        (r.holder = none ∨ r.holder = some i) → w.work env ≠ 0 → w'.work env < w.work env) := by
  have inside := (List.getElem?_eq_some_iff.mp found).1
  have lift : ∀ {r' : Runtime}, (∃ w', r'.workers[i]? = some w' ∧
      w'.goroutine.thread.Rooted env root ∧ (w'.work env < w.work env ∨ w'.work env = 0)) →
      ∃ w', r'.workers[i]? = some w' ∧ w'.goroutine.thread.Rooted env root ∧
        w'.work env ≤ w.work env ∧ (r'.fault = none → (r.holder = none ∨ r.holder = some i) →
          w.work env ≠ 0 → w'.work env < w.work env) := by
    rintro r' ⟨w', at_i, rooted', lower | zero⟩
    · exact ⟨w', at_i, rooted', lower.le, fun _ _ _ => lower⟩
    · exact ⟨w', at_i, rooted', by omega, fun _ _ _ => by omega⟩
  unfold turn
  split
  · next running =>
    split
    · split
      · exact lift ⟨_, List.getElem?_set_self inside, rooted,
          .inl (by simp only [Worker.work, running]; omega)⟩
      · next held =>
        refine ⟨w, found, rooted, le_rfl, fun _ free _ =>
          absurd ((coherent.holder i).mp (free.resolve_left held)) ?_⟩
        rintro ⟨v, at_i, holds⟩
        cases found.symm.trans at_i
        simp [running, Phase.holds] at holds
    · split
      · exact ⟨w, found, rooted, le_rfl, nofun⟩
      · exact lift (advance_work acyclic found rooted fun g lower => by
          simp only [Worker.work, running]; omega)
    · split
      · exact ⟨w, found, rooted, le_rfl, nofun⟩
      · exact lift ⟨_, List.getElem?_set_self inside, rooted,
          .inl (by simp only [Worker.work, running]; omega)⟩
    · exact lift (advance_work acyclic found rooted fun g lower => by
        simp only [Worker.work, running]; omega)
  · next locked =>
    exact lift (advance_work acyclic found rooted fun g lower => by
      simp only [Worker.work, locked]; omega)
  · next unlocking =>
    exact lift ⟨_, List.getElem?_set_self inside, rooted,
      .inl (by simp only [Worker.work, unlocking]; omega)⟩
  · next assigning =>
    exact lift (advance_work acyclic found rooted fun g lower => by
      simp only [Worker.work, assigning]; omega)
  · next returned =>
    exact ⟨w, found, rooted, le_rfl, fun _ _ nonzero => absurd (by simp only [Worker.work, returned])
      nonzero⟩

theorem run_work {i : Nat} {root : String} (acyclic : ¬ ReachesCycle env root) :
    ∀ (schedule : List Sched) {r : Runtime} {w : Worker}, r.Coherent → r.workers[i]? = some w →
      w.goroutine.thread.Rooted env root →
      ∃ w', (r.run env schedule).workers[i]? = some w' ∧ w'.goroutine.thread.Rooted env root ∧
        w'.work env ≤ w.work env ∧
        ((r.run env schedule).fault = none → w'.work env ≤ w.work env - r.freeTurns env i schedule)
  | [], r, w, _, found, rooted => ⟨w, found, rooted, le_rfl, fun _ => by simp [freeTurns]⟩
  | a :: rest, r, w, coherent, found, rooted => by
    simp only [run_cons, freeTurns]
    by_cases turn : a = .run i
    · subst turn
      cases faulted : r.fault with
      | some f =>
        rw [schedule_faulted (by simp [faulted]), run_faulted (by simp [faulted])]
        exact ⟨w, found, rooted, le_rfl, fun running => by rw [faulted] at running; cases running⟩
      | none =>
        rw [schedule_turn faulted found]
        obtain ⟨w₁, found₁, rooted₁, le₁, lower⟩ := turn_work acyclic coherent found rooted
        obtain ⟨w', found', rooted', le', rest'⟩ :=
          run_work acyclic rest (coherent.turn found) found₁ rooted₁
        refine ⟨w', found', rooted', le'.trans le₁, fun running => ?_⟩
        have bound := rest' running
        have lower := lower (fault_none_of_run running)
        by_cases free : r.holder = none ∨ r.holder = some i
        · have lower := lower free
          simp only [free, and_self, if_true]
          rcases Nat.eq_zero_or_pos (w.work env) with zero | pos
          · omega
          · have := lower (by omega)
            omega
        · simp only [free, and_false, if_false]
          omega
    · obtain ⟨w', found', rooted', le', rest'⟩ :=
        run_work acyclic rest (coherent.schedule a) (schedule_other found turn) rooted
      refine ⟨w', found', rooted', le', fun running => ?_⟩
      simp only [turn, false_and, if_false, zero_add]
      exact rest' running

end Runtime

theorem call_returns_within_turns {r : Runtime} (reachable : r.Reachable env) {i : Nat} {t : GoType}
    {name : String} {c : List String} (called : r.workers[i]? = some ⟨⟨.call t, c⟩, .running⟩)
    (concrete : interfaceToConcreteType t = .struct name) (acyclic : ¬ ReachesCycle env name)
    (schedule : List Sched) (turns : 3 * (Thread.call t).work env + 1 ≤ r.freeTurns env i schedule) :
    (r.run env schedule).fault.isSome ∨ (r.run env schedule).Returned i := by
  obtain ⟨w, found, -, -, bound⟩ := Runtime.run_work acyclic schedule reachable.coherent called concrete
  cases faulted : (r.run env schedule).fault with
  | some _ => exact .inl rfl
  | none =>
    have start : Worker.work env ⟨⟨.call t, c⟩, .running⟩ = 3 * (Thread.call t).work env + 1 := rfl
    have zero : w.work env = 0 := by
      have := bound faulted
      omega
    exact .inr ⟨w, found, Worker.returned_of_work
      ((reachable.run schedule).coherent.inside w (List.getElem?_mem found)) zero⟩

/-- Two goroutines on `Outer` of `innerOuter`, about to start. -/
def twoOuter : Runtime :=
  Runtime.initial.run innerOuter [.spawn (.struct "Outer"), .spawn (.struct "Outer")]

theorem call_returns_within_turns_outer :
    (Thread.call (.struct "Outer")).work innerOuter = 13 ∧
      ((twoOuter.run innerOuter ([.run 0, .run 0] ++ List.replicate 4 (.run 1) ++
          List.replicate 2 (.run 0) ++ List.replicate 44 (.run 1))).fault.isSome ∨
        (twoOuter.run innerOuter ([.run 0, .run 0] ++ List.replicate 4 (.run 1) ++
          List.replicate 2 (.run 0) ++ List.replicate 44 (.run 1))).Returned 1) :=
  ⟨rfl, call_returns_within_turns (r := twoOuter) (i := 1) ⟨_, rfl⟩ rfl rfl
    ((canonicalFieldMap_returns_iff innerOuter "Outer").mp ⟨3, _, rfl⟩) _ (by decide)⟩

/-! ## Running alone once the others have let go -/

namespace Runtime

/-- No fault has stopped the process, and no goroutine but `i` is inside `Get`, `Put` or an
assignment. -/
def Quiet (r : Runtime) (i : Nat) : Prop :=
  r.fault = none ∧ ∀ j w, r.workers[j]? = some w → j ≠ i → w.phase.busy = false

theorem Quiet.free {r : Runtime} {i : Nat} (quiet : r.Quiet i) (coherent : r.Coherent) :
    r.holder = none ∨ r.holder = some i := by
  cases held : r.holder with
  | none => exact .inl rfl
  | some h =>
    obtain ⟨v, at_h, holds⟩ := (coherent.holder h).mp held
    by_cases same : h = i
    · exact .inr (congrArg some same)
    · have idle := quiet.2 h v at_h same
      cases phase : v.phase <;> simp_all [Phase.holds, Phase.busy]

theorem Quiet.unwritten {r : Runtime} {i : Nat} {w : Worker} (quiet : r.Quiet i)
    (found : r.workers[i]? = some w) (running : w.phase = .running) (m : Nat) : r.written m = false := by
  simp only [written, List.any_eq_false, decide_eq_true_eq, not_and]
  intro v member assigning
  obtain ⟨j, at_j⟩ := List.mem_iff_getElem?.mp member
  by_cases same : j = i
  · subst same
    rw [found] at at_j
    cases at_j
    rw [running] at assigning
    cases assigning
  · have idle := quiet.2 j v at_j same
    rw [assigning] at idle
    cases idle

theorem Quiet.turn {r : Runtime} {i : Nat} {w : Worker} (quiet : r.Quiet i)
    (found : r.workers[i]? = some w) : (r.turn env i w).Quiet i := by
  refine ⟨?_, fun j v at_j other => quiet.2 j v (by rwa [turn_other (Ne.symm other)] at at_j) other⟩
  unfold Runtime.turn
  split
  · next running =>
    split
    · split <;> exact quiet.1
    · rw [if_neg (by simp [quiet.unwritten found running])]
      exact (advance_fault _ _ _ _).trans quiet.1
    · rw [if_neg (by simp [quiet.unwritten found running])]
      exact quiet.1
    · exact (advance_fault _ _ _ _).trans quiet.1
  all_goals first
    | exact (advance_fault _ _ _ _).trans quiet.1
    | exact quiet.1

theorem alone_returns {i : Nat} {root : String} (acyclic : ¬ ReachesCycle env root) :
    ∀ (n : Nat) {r : Runtime} {w : Worker}, r.Coherent → r.Quiet i → r.workers[i]? = some w →
      w.goroutine.thread.Rooted env root → w.work env ≤ n →
      (r.run env (List.replicate n (.run i))).Quiet i ∧ (r.run env (List.replicate n (.run i))).Returned i
  | 0, _, w, coherent, quiet, found, _, zero => ⟨quiet, w, found,
      Worker.returned_of_work (coherent.inside w (List.getElem?_mem found)) (Nat.eq_zero_of_le_zero zero)⟩
  | n + 1, r, w, coherent, quiet, found, rooted, enough => by
    rw [List.replicate_succ, run_cons, schedule_turn quiet.1 found]
    obtain ⟨w', found', rooted', le, lower⟩ := turn_work acyclic coherent found rooted
    refine alone_returns acyclic n (coherent.turn found) (quiet.turn found) found' rooted' ?_
    have lower := lower (quiet.turn found).1 (quiet.free coherent)
    rcases Nat.eq_zero_or_pos (w.work env) with zero | pos
    · omega
    · have := lower (by omega)
      omega

theorem turn_drain {r : Runtime} {j : Nat} {w : Worker} (coherent : r.Coherent)
    (found : r.workers[j]? = some w) (busy : w.phase.busy = true) :
    (r.turn env j w).fault = r.fault ∧
      ∃ w', (r.turn env j w).workers[j]? = some w' ∧ w'.phase.drain + 1 = w.phase.drain := by
  have inside := (List.getElem?_eq_some_iff.mp found).1
  have moves : ∀ busy s, (w.goroutine.step env s).isSome :=
    (coherent.inside w (List.getElem?_mem found)).step_isSome
  unfold turn
  split
  · next running => rw [running] at busy; cases busy
  · next locked =>
    obtain ⟨⟨s, g⟩, step⟩ := Option.isSome_iff_exists.mp (moves (.inl locked) r.store)
    have advanced : r.advance env j w .unlocking =
        { r with store := s, workers := r.workers.set j ⟨g, .unlocking⟩ } := by
      simp only [advance, step]
    rw [advanced]
    exact ⟨rfl, _, List.getElem?_set_self inside, by rw [locked]; rfl⟩
  · next unlocking => exact ⟨rfl, _, List.getElem?_set_self inside, by rw [unlocking]; rfl⟩
  · next assigning =>
    obtain ⟨⟨s, g⟩, step⟩ := Option.isSome_iff_exists.mp (moves (.inr assigning) r.store)
    have advanced : r.advance env j w .running =
        { r with store := s, workers := r.workers.set j ⟨g, .running⟩ } := by
      simp only [advance, step]
    rw [advanced]
    exact ⟨rfl, _, List.getElem?_set_self inside, by rw [assigning]; rfl⟩
  · next returned => rw [returned] at busy; cases busy

theorem drain {j : Nat} : ∀ (n : Nat) {r : Runtime} {w : Worker}, r.Coherent → r.fault = none →
    r.workers[j]? = some w → w.phase.drain = n →
    (r.run env (List.replicate n (.run j))).fault = none ∧
      (∀ k, k ≠ j → (r.run env (List.replicate n (.run j))).workers[k]? = r.workers[k]?) ∧
      ∃ w', (r.run env (List.replicate n (.run j))).workers[j]? = some w' ∧ w'.phase.busy = false
  | 0, _, w, _, running, found, idle => ⟨running, fun _ _ => rfl, w, found, Phase.idle_of_drain idle⟩
  | n + 1, r, w, coherent, running, found, turns => by
    have busy : w.phase.busy = true := by
      cases phase : w.phase <;> simp_all [Phase.drain, Phase.busy]
    obtain ⟨fault, w', found', fewer⟩ := @turn_drain env _ _ _ coherent found busy
    rw [List.replicate_succ, run_cons, schedule_turn running found]
    obtain ⟨running', same, rest⟩ :=
      drain n (coherent.turn found) (fault.trans running) found' (by omega)
    exact ⟨running', fun k other => (same k other).trans (turn_other (Ne.symm other)), rest⟩

theorem drain_below {r : Runtime} (reachable : r.Reachable env) (running : r.fault = none) (i : Nat) :
    ∀ k, ∃ others : List Sched, (∀ a ∈ others, ∃ j, j ≠ i ∧ j < k ∧ a = .run j) ∧
      (∀ j, others.count (.run j) ≤ 2) ∧ (r.run env others).fault = none ∧
      (∀ j, (j = i ∨ k ≤ j) → (r.run env others).workers[j]? = r.workers[j]?) ∧
      ∀ j w, j < k → j ≠ i → (r.run env others).workers[j]? = some w → w.phase.busy = false
  | 0 => ⟨[], nofun, fun _ => by simp, running, fun _ _ => rfl,
      fun _ _ below => absurd below (by omega)⟩
  | k + 1 => by
    obtain ⟨others, turns, count, fault, same, idle⟩ := drain_below reachable running i k
    have turns' : ∀ a ∈ others, ∃ j, j ≠ i ∧ j < k + 1 ∧ a = .run j := fun a member =>
      let ⟨j, other, below, turn⟩ := turns a member
      ⟨j, other, by omega, turn⟩
    by_cases skip : k = i ∨ (r.run env others).workers[k]? = none
    · refine ⟨others, turns', count, fault, fun j far => same j (by omega),
        fun j w below other at_j => ?_⟩
      rcases Nat.lt_succ_iff_lt_or_eq.mp below with below | rfl
      · exact idle j w below other at_j
      · rcases skip with rfl | none
        · exact absurd rfl other
        · rw [none] at at_j
          cases at_j
    obtain ⟨mine, present⟩ := not_or.mp skip
    obtain ⟨w, found⟩ := Option.ne_none_iff_exists'.mp present
    obtain ⟨fault', same', done⟩ :=
      @drain env _ w.phase.drain _ _ ((reachable.run others).coherent) fault found rfl
    refine ⟨others ++ List.replicate w.phase.drain (.run k), fun a member => ?_, fun j => ?_, ?_,
      fun j far => ?_, fun j v below other at_j => ?_⟩
    · rcases List.mem_append.mp member with member | member
      · exact turns' a member
      · exact ⟨k, mine, by omega, List.eq_of_mem_replicate member⟩
    · have fresh : others.count (.run k) = 0 := List.count_eq_zero.mpr fun member => by
        obtain ⟨j, -, below, same⟩ := turns _ member
        cases same
        omega
      rw [List.count_append, List.count_replicate]
      by_cases here : j = k
      · subst here
        simpa [fresh] using Phase.drain_le_two w.phase
      · simpa [Ne.symm here] using count j
    · rw [run_append]
      exact fault'
    · rw [run_append, same' j (by omega)]
      exact same j (by omega)
    · rw [run_append] at at_j
      by_cases here : j = k
      · subst here
        obtain ⟨w', at_k, idle'⟩ := done
        rwa [Option.some.inj (at_j.symm.trans at_k)]
      · exact idle j v (by omega) other ((same' j here).symm.trans at_j)

end Runtime

theorem call_returns_alone {r : Runtime} (reachable : r.Reachable env) {i : Nat} {t : GoType}
    {name : String} {c : List String} (called : r.workers[i]? = some ⟨⟨.call t, c⟩, .running⟩)
    (concrete : interfaceToConcreteType t = .struct name) (acyclic : ¬ ReachesCycle env name)
    (schedule : List Sched) (running : (r.run env schedule).fault = none) :
    ∃ others : List Sched, (∀ a ∈ others, ∃ j, j ≠ i ∧ a = .run j) ∧
      (∀ j, others.count (.run j) ≤ 2) ∧
      ((r.run env schedule).run env
        (others ++ List.replicate (3 * (Thread.call t).work env + 1) (.run i))).Quiet i ∧
      ((r.run env schedule).run env
        (others ++ List.replicate (3 * (Thread.call t).work env + 1) (.run i))).Returned i := by
  have reachable' := reachable.run schedule
  obtain ⟨w, found, rooted, bound, -⟩ :=
    Runtime.run_work acyclic schedule reachable.coherent called concrete
  obtain ⟨others, turns, count, fault, same, idle⟩ :=
    Runtime.drain_below reachable' running i (r.run env schedule).workers.length
  refine ⟨others, fun a member => ?_, count, ?_⟩
  · obtain ⟨j, other, -, turn⟩ := turns a member
    exact ⟨j, other, turn⟩
  · rw [Runtime.run_append]
    refine Runtime.alone_returns acyclic _ (reachable'.run others).coherent
      ⟨fault, fun j v at_j other => ?_⟩
      ((same i (.inl rfl)).trans found) rooted bound
    rcases Nat.lt_or_ge j (r.run env schedule).workers.length with below | far
    · exact idle j v below other at_j
    · rw [same j (.inr far), List.getElem?_eq_none far] at at_j
      cases at_j


theorem call_returns_alone_racing :
    ∃ others : List Sched, (∀ a ∈ others, ∃ j, j ≠ 1 ∧ a = .run j) ∧
      (∀ j, others.count (.run j) ≤ 2) ∧
      ((racingStart.run innerOuter (List.replicate 12 (.run 1) ++ [.run 0])).run innerOuter
        (others ++ List.replicate (3 * (Thread.call (.struct "Outer")).work innerOuter + 1)
          (.run 1))).Quiet 1 ∧
      ((racingStart.run innerOuter (List.replicate 12 (.run 1) ++ [.run 0])).run innerOuter
        (others ++ List.replicate (3 * (Thread.call (.struct "Outer")).work innerOuter + 1)
          (.run 1))).Returned 1 :=
  call_returns_alone (r := racingStart) (i := 1) (t := .struct "Outer") ⟨_, rfl⟩ rfl rfl
    ((canonicalFieldMap_returns_iff innerOuter "Outer").mp ⟨3, _, rfl⟩) _ rfl

end Converge.Preprocessor
