import Converge.Interleaving
import Mathlib.Algebra.Order.BigOperators.Group.List
import Mathlib.Algebra.Order.Ring.Nat

/-!
# The steps a goroutine has still to take

`Thread.work` bounds the steps of `Process` that a goroutine has still to take in its call of
`fieldMap` on a struct type with no cycle of embedded fields ahead of it: at most two on each
field, and the call and its `Put` for each struct type, through the tree of the embedded struct
types, whose depth the number of declared struct types bounds (`Frame.Rooted.length_le`). It
never reads the store, so what other goroutines do leaves it as it is, and each step of the
goroutine lowers it (`Goroutine.step_work`), on whatever store it takes that step.
-/

namespace Converge.Preprocessor

open Reflect Relation

variable {env : TypeEnv}

/-! ## The frames of a call -/

/-- The frames `stack` under a call on struct type `child`, pushed on the way from `root`: each
frame holds what is left of its type's fields, and its type embeds the type of the call above
it. -/
def Frame.Rooted (env : TypeEnv) (root : String) : String → List Frame → Prop
  | child, [] => child = root
  | child, frame :: stack => frame.fields <:+ env.fields frame.t ∧ Embeds env frame.t child ∧
      Frame.Rooted env root frame.t stack

/-- The goroutine is in its call of `fieldMap` on struct type `root`. -/
def Thread.Rooted (env : TypeEnv) (root : String) : Thread → Prop
  | .call t => interfaceToConcreteType t = .struct root
  | .enter t _ stack => Frame.Rooted env root t stack
  | .loop frame stack => frame.fields <:+ env.fields frame.t ∧ Frame.Rooted env root frame.t stack
  | .writing _ _ next => next.Rooted env root
  | .leave _ stack => ∃ child, Frame.Rooted env root child stack
  | .done _ | .refused => True

theorem Frame.Rooted.reach {root : String} : ∀ {child : String} {stack : List Frame},
    Frame.Rooted env root child stack →
      ReflTransGen (Embeds env) root child ∧ ∀ frame ∈ stack, TransGen (Embeds env) frame.t child
  | _, [], rfl => ⟨.refl, fun _ => nofun⟩
  | _, _ :: _, ⟨_, embeds, rooted⟩ => by
    obtain ⟨reach, above⟩ := Frame.Rooted.reach rooted
    refine ⟨reach.tail embeds, fun f member => ?_⟩
    rcases List.mem_cons.mp member with rfl | member
    · exact .single embeds
    · exact (above f member).tail embeds

theorem Frame.Rooted.nodup {root : String} (acyclic : ¬ ReachesCycle env root) :
    ∀ {child : String} {stack : List Frame}, Frame.Rooted env root child stack →
      (stack.map Frame.t).Nodup ∧ ∀ x ∈ stack.map Frame.t, x ∈ env.structs.map Prod.fst
  | _, [], _ => ⟨.nil, fun _ => nofun⟩
  | _, frame :: _, ⟨_, ⟨_, declared, _⟩, rooted⟩ => by
    obtain ⟨nodup, names⟩ := Frame.Rooted.nodup acyclic rooted
    obtain ⟨reach, above⟩ := rooted.reach
    refine ⟨List.nodup_cons.mpr ⟨fun member => ?_, nodup⟩,
      List.forall_mem_cons.mpr ⟨TypeEnv.mem_names_of_mem_fields declared, names⟩⟩
    obtain ⟨f, f_member, same⟩ := List.mem_map.mp member
    exact acyclic ⟨frame.t, reach, same ▸ above f f_member⟩

theorem Frame.Rooted.length_le {root child : String} {stack : List Frame}
    (acyclic : ¬ ReachesCycle env root) (rooted : Frame.Rooted env root child stack) :
    stack.length ≤ env.structs.length := by
  obtain ⟨nodup, names⟩ := rooted.nodup acyclic
  simpa using (nodup.subperm names).length_le

/-! ## The steps a goroutine has still to take -/

/-- At most the steps on a field of the loop: two on the field itself and, for an embedded field
that leads into a struct type, `walk` of the call on it and the step back. -/
def fieldWork (walk : String → Nat) (field : Field) : Nat :=
  2 + if field.anonymous then
    match interfaceToConcreteType field.type with
    | .struct u => walk u + 1
    | _ => 0
  else 0

/-- At most the steps of a call of `addFieldsToMap` on struct type `t` with `depth` levels of
calls left below it: its `Get`, its fields, and its `Put`. -/
def walkWork (env : TypeEnv) : Nat → String → Nat
  | 0, _ => 0
  | depth + 1, t => 2 + ((env.fields t).map (fieldWork (walkWork env depth))).sum

/-- At most the steps from a return to the frames `stack`, `depth` levels above the bottom
of the call that returns: the rest of each frame's loop and its return, and the return of
`fieldMap`. -/
def stackWork (env : TypeEnv) (depth : Nat) : List Frame → Nat
  | [] => 1
  | frame :: stack =>
    2 + (frame.fields.map (fieldWork (walkWork env depth))).sum + stackWork env (depth + 1) stack

/-- At most the steps the goroutine has still to take; a call nested under `stack` has
`env.structs.length + 1 - stack.length` levels left below it. -/
def Thread.work (env : TypeEnv) : Thread → Nat
  | .call t =>
    match interfaceToConcreteType t with
    | .struct name => 2 + walkWork env (env.structs.length + 1) name
    | _ => 1
  | .enter t _ stack => walkWork env (env.structs.length + 1 - stack.length) t +
      stackWork env (env.structs.length + 1 - stack.length) stack
  | .loop frame stack =>
    (frame.fields.map (fieldWork (walkWork env (env.structs.length - stack.length)))).sum + 1 +
      stackWork env (env.structs.length + 1 - stack.length) stack
  | .writing _ _ next => 1 + next.work env
  | .leave _ stack => stackWork env (env.structs.length + 1 - stack.length) stack
  | .done _ | .refused => 0

theorem stackWork_pos (depth : Nat) : ∀ stack : List Frame, 0 < stackWork env depth stack
  | [] => Nat.one_pos
  | _ :: _ => by simp only [stackWork]; omega

theorem Thread.work_pos : ∀ {thread : Thread}, ¬ thread.Returned → 0 < thread.work env
  | .call t, _ => by
    simp only [Thread.work]
    split <;> omega
  | .enter _ _ stack, _ | .leave _ stack, _ => by
    have : 0 < stackWork env (env.structs.length + 1 - stack.length) stack := stackWork_pos _ stack
    simp only [Thread.work]
    omega
  | .loop .., _ | .writing .., _ => by simp only [Thread.work]; omega
  | .done _, returned | .refused, returned => absurd trivial returned

theorem Thread.work_of_returned : ∀ {thread : Thread}, thread.Returned → thread.work env = 0
  | .done _, _ | .refused, _ => rfl
  | .call _, returned | .enter .., returned | .loop .., returned | .writing .., returned
  | .leave .., returned => returned.elim

/-! ## Each step lowers the work -/

theorem Thread.afterField_work {root t : String} {field : Field} {rest : List Field} {m : Nat}
    {stack : List Frame} (acyclic : ¬ ReachesCycle env root)
    (rooted : (Thread.loop ⟨t, field :: rest, m⟩ stack).Rooted env root) :
    (Thread.afterField field ⟨t, rest, m⟩ stack).Rooted env root ∧
      (Thread.afterField field ⟨t, rest, m⟩ stack).work env + 2 ≤
        (Thread.loop ⟨t, field :: rest, m⟩ stack).work env := by
  obtain ⟨suffix, rooted⟩ := rooted
  have rest_suffix : rest <:+ env.fields t := (List.suffix_cons field rest).trans suffix
  have deep := rooted.length_le acyclic
  unfold Thread.afterField Thread.afterEmbedded
  split
  · next anon =>
    split
    · next u concrete =>
      have embeds : Embeds env t u := ⟨field, suffix.subset (List.mem_cons_self _ _), anon, concrete⟩
      refine ⟨⟨rest_suffix, embeds, rooted⟩, ?_⟩
      have field_work : fieldWork (walkWork env (env.structs.length - stack.length)) field =
          walkWork env (env.structs.length - stack.length) u + 3 := by
        simp only [fieldWork, anon, concrete, if_true]
        show 2 + (walkWork env (env.structs.length - stack.length) u + 1) = _
        omega
      simp only [Thread.work, List.map_cons, List.sum_cons, field_work, List.length_cons, stackWork,
        Nat.add_sub_add_right, Nat.sub_add_comm deep]
      omega
    · next other =>
      refine ⟨⟨rest_suffix, rooted⟩, ?_⟩
      simp only [Thread.work, fieldWork, List.map_cons, List.sum_cons, anon, if_true, other]
      omega
  · next named =>
    refine ⟨⟨rest_suffix, rooted⟩, ?_⟩
    simp only [Thread.work, fieldWork, List.map_cons, List.sum_cons, named, if_false]
    omega

theorem Goroutine.step_work {s s' : Store} {g g' : Goroutine} {root : String}
    (acyclic : ¬ ReachesCycle env root) (rooted : g.thread.Rooted env root)
    (step : g.step env s = some (s', g')) :
    g'.thread.Rooted env root ∧ g'.thread.work env < g.thread.work env := by
  obtain ⟨thread, c⟩ := g
  cases thread with
  | call t =>
    simp only [Goroutine.step] at step
    split at step <;> cases step
    · next name concrete =>
      refine ⟨GoType.struct.inj (concrete.symm.trans rooted), ?_⟩
      simp only [Thread.work, concrete, List.length_nil, Nat.sub_zero, stackWork]
      omega
    · next other => exact ⟨trivial, by simp [Thread.work, other]⟩
  | enter t m stack =>
    have level := Nat.sub_add_comm (m := 1) (Frame.Rooted.length_le acyclic rooted)
    simp only [Goroutine.step] at step
    split at step <;> cases step
    · refine ⟨⟨t, rooted⟩, ?_⟩
      simp only [Thread.work, level, walkWork]
      omega
    · refine ⟨⟨List.suffix_refl _, rooted⟩, ?_⟩
      simp only [Thread.work, level, walkWork]
      omega
  | loop frame stack =>
    obtain ⟨t, _ | ⟨field, rest⟩, m⟩ := frame
    · cases step
      exact ⟨⟨t, rooted.2⟩, by simp only [Thread.work, List.map_nil, List.sum_nil]; omega⟩
    · obtain ⟨after, fewer⟩ := Thread.afterField_work acyclic rooted
      obtain ⟨rfl, next | next⟩ := Goroutine.step_field step <;> refine ⟨next ▸ after, ?_⟩ <;>
        rw [next]
      · exact Nat.lt_of_lt_of_le (Nat.lt_add_of_pos_right Nat.two_pos) fewer
      · show 1 + (Thread.afterField field ⟨t, rest, m⟩ stack).work env <
          (Thread.loop ⟨t, field :: rest, m⟩ stack).work env
        omega
  | writing m field next =>
    cases step
    exact ⟨rooted, by simp only [Thread.work]; omega⟩
  | leave m stack =>
    cases stack with
    | nil =>
      cases step
      exact ⟨trivial, by simp only [Thread.work, stackWork]; omega⟩
    | cons frame stack =>
      cases step
      obtain ⟨_, suffix, _, rooted⟩ := rooted
      refine ⟨⟨suffix, rooted⟩, ?_⟩
      simp only [Thread.work, stackWork, List.length_cons, Nat.add_sub_add_right,
        Nat.sub_add_comm (rooted.length_le acyclic)]
      omega
  | done m => cases step
  | refused => cases step

end Converge.Preprocessor
