import Converge.VertexSplit
import Mathlib.Algebra.Order.BigOperators.Group.List
import Mathlib.Algebra.Order.Ring.Nat

/-!
# `VertexSplitTraverse`

Every call of `VertexSplitTraverse`, into a child or up to the parent, spends one unit of fuel,
and `none` means that the fuel ran out. The `history` map is shared by all the calls: each call
returns it with its result, so that the children loop and the climb to the parent go on from
the history the previous call left.

The children loop has three inversion lemmas (`traverseChildren_found`, `traverseChildren_none`,
`traverseChildren_isSome`), and one call has one (`vertexSplitTraverse_cases`); every property
of the search is proved from them by induction on the fuel. `vertexSplitTraverse_terminates`: with `TraverseUntilModule` the search returns on
every graph, start and history.
-/

namespace Converge.Preprocessor

/-- The children loop of `VertexSplitTraverse`: `visit` is the recursive call. The loop returns
the first split found, or `none` with the history after the whole loop. -/
def traverseChildren (g : Graph) (stop : Graph → String → Bool)
    (visit : String → List String → Option (Split × List String)) :
    List String → List String → Option (Option Split × List String)
  | [], history => some (none, history)
  | child :: rest, history =>
    if child ∈ history ∨ stop g child = true then traverseChildren g stop visit rest history
    else match visit child history with
      | none => none
      | some (split, history) =>
        if split.found then some (some split, history)
        else traverseChildren g stop visit rest history

/-- `VertexSplitTraverse`, where `fuel` bounds the depth of the recursion. -/
def vertexSplitTraverse (g : Graph) (toFind : String) (stop : Graph → String → Bool) :
    Nat → String → List String → Option (Split × List String)
  | 0, _, _ => none
  | fuel + 1, startingNode, history =>
    match traverseChildren g stop (vertexSplitTraverse g toFind stop fuel)
        (g.children startingNode) (startingNode :: history) with
    | none => none
    | some (some split, history) => some (split, history)
    | some (none, history) =>
      if stop g startingNode then some (⟨"", toFind, false⟩, history)
      else
        let split := vertexSplit g (Graph.siblingID startingNode toFind)
        if split.found then some (split, history)
        else vertexSplitTraverse g toFind stop fuel (Graph.parentID startingNode) history

/-! ## The children loop -/

section Loop

variable {g : Graph} {stop : Graph → String → Bool}
  {visit : String → List String → Option (Split × List String)}

theorem traverseChildren_found (grows : ∀ c before r after, visit c before = some (r, after) →
      before ⊆ after)
    {children history history' : List String} {split : Split}
    (loop : traverseChildren g stop visit children history = some (some split, history')) :
    ∃ child ∈ children, stop g child = false ∧ ∃ before, history ⊆ before ∧
      visit child before = some (split, history') ∧ split.found = true := by
  induction children generalizing history with
  | nil => simp [traverseChildren] at loop
  | cons child rest ih =>
      unfold traverseChildren at loop
      split at loop
      · obtain ⟨c, member, passes, before, sub, visited, found⟩ := ih loop
        exact ⟨c, List.mem_cons_of_mem _ member, passes, before, sub, visited, found⟩
      · rename_i skip
        rcases visited : visit child history with _ | ⟨result, after⟩
        · simp [visited] at loop
        · simp only [visited] at loop
          split at loop
          · obtain ⟨rfl, rfl⟩ : result = split ∧ after = history' := by simpa using loop
            simp only [not_or, Bool.not_eq_true] at skip
            exact ⟨child, List.mem_cons_self _ _, skip.2, history, List.Subset.refl _, visited,
              by assumption⟩
          · obtain ⟨c, member, passes, before, sub, visited', found⟩ := ih loop
            exact ⟨c, List.mem_cons_of_mem _ member, passes, before,
              (grows _ _ _ _ visited).trans sub, visited', found⟩

theorem traverseChildren_none (R : List String → List String → Prop) (refl : ∀ h, R h h)
    (trans : ∀ a b c, R a b → R b c → R a c) (subset : ∀ a b, R a b → a ⊆ b)
    (step : ∀ c before r after, visit c before = some (r, after) → r.found = false →
      R before after ∧ c ∈ after)
    {children history history' : List String}
    (loop : traverseChildren g stop visit children history = some (none, history')) :
    R history history' ∧ ∀ child ∈ children, child ∈ history' ∨ stop g child = true := by
  induction children generalizing history with
  | nil =>
      simp only [traverseChildren, Option.some.injEq, Prod.mk.injEq, true_and] at loop
      exact ⟨loop ▸ refl _, by simp⟩
  | cons child rest ih =>
      unfold traverseChildren at loop
      split at loop
      · rename_i skip
        obtain ⟨related, later⟩ := ih loop
        refine ⟨related, fun c member => ?_⟩
        rcases List.mem_cons.mp member with rfl | member
        · exact skip.imp_left (subset _ _ related ·)
        · exact later c member
      · rcases visited : visit child history with _ | ⟨result, after⟩
        · simp [visited] at loop
        · simp only [visited] at loop
          split at loop
          · simp at loop
          · rename_i notFound
            obtain ⟨first, entered⟩ := step _ _ _ _ visited
              (by simpa only [Bool.not_eq_true] using notFound)
            obtain ⟨related, later⟩ := ih loop
            refine ⟨trans _ _ _ first related, fun c member => ?_⟩
            rcases List.mem_cons.mp member with rfl | member
            · exact .inl (subset _ _ related entered)
            · exact later c member

theorem traverseChildren_isSome (grows : ∀ c before r after, visit c before = some (r, after) →
      before ⊆ after)
    {children history : List String}
    (calls : ∀ c ∈ children, ∀ before, history ⊆ before → c ∉ before → stop g c = false →
      ∃ r, visit c before = some r) :
    ∃ r, traverseChildren g stop visit children history = some r := by
  induction children generalizing history with
  | nil => exact ⟨_, rfl⟩
  | cons child rest ih =>
      have callsRest {history' : List String} (sub : history ⊆ history') :
          ∀ c ∈ rest, ∀ before, history' ⊆ before → c ∉ before → stop g c = false →
            ∃ r, visit c before = some r :=
        fun c member before sub' => calls c (List.mem_cons_of_mem _ member) before (sub.trans sub')
      unfold traverseChildren
      split
      · exact ih (callsRest (List.Subset.refl _))
      · rename_i skip
        simp only [not_or, Bool.not_eq_true] at skip
        obtain ⟨⟨result, after⟩, visited⟩ := calls child (List.mem_cons_self _ _) history
          (List.Subset.refl _) skip.1 skip.2
        simp only [visited]
        split
        · exact ⟨_, rfl⟩
        · exact ih (callsRest (grows _ _ _ _ visited))

theorem traverseChildren_mono {visit' : String → List String → Option (Split × List String)}
    (agree : ∀ c before r, visit c before = some r → visit' c before = some r)
    {children history : List String} {result : Option Split × List String}
    (loop : traverseChildren g stop visit children history = some result) :
    traverseChildren g stop visit' children history = some result := by
  induction children generalizing history with
  | nil => exact loop
  | cons child rest ih =>
      unfold traverseChildren at loop ⊢
      by_cases skip : child ∈ history ∨ stop g child = true
      · rw [if_pos skip] at loop ⊢
        exact ih loop
      · rw [if_neg skip] at loop ⊢
        rcases visited : visit child history with _ | ⟨r, after⟩
        · simp [visited] at loop
        · simp only [visited] at loop
          simp only [agree _ _ _ visited]
          by_cases found : r.found = true
          · simpa [found] using loop
          · simp only [found, if_false] at loop ⊢
            exact ih loop

end Loop

/-! ## The search -/

section Search

variable {g : Graph} {toFind : String} {stop : Graph → String → Bool}

theorem vertexSplitTraverse_cases {fuel : Nat} {start : String} {history history' : List String}
    {split : Split}
    (run : vertexSplitTraverse g toFind stop (fuel + 1) start history = some (split, history')) :
    traverseChildren g stop (vertexSplitTraverse g toFind stop fuel) (g.children start)
        (start :: history) = some (some split, history') ∨
    ∃ after, traverseChildren g stop (vertexSplitTraverse g toFind stop fuel) (g.children start)
        (start :: history) = some (none, after) ∧
      (stop g start = true ∧ split = ⟨"", toFind, false⟩ ∧ history' = after ∨
        stop g start = false ∧ vertexSplit g (Graph.siblingID start toFind) = split ∧
          split.found = true ∧ history' = after ∨
        stop g start = false ∧ (vertexSplit g (Graph.siblingID start toFind)).found = false ∧
          vertexSplitTraverse g toFind stop fuel (Graph.parentID start) after =
            some (split, history')) := by
  rw [vertexSplitTraverse] at run
  rcases loop : traverseChildren g stop (vertexSplitTraverse g toFind stop fuel)
      (g.children start) (start :: history) with _ | ⟨_ | result, after⟩
  · simp [loop] at run
  · rw [loop] at run
    refine .inr ⟨after, rfl, ?_⟩
    cases stops : stop g start with
    | true =>
        obtain ⟨rfl, rfl⟩ : _ = split ∧ after = history' := by simpa [stops] using run
        exact .inl ⟨rfl, rfl, rfl⟩
    | false =>
        cases sibling : (vertexSplit g (Graph.siblingID start toFind)).found with
        | true =>
            obtain ⟨rfl, rfl⟩ : _ = split ∧ after = history' := by
              simpa [stops, sibling] using run
            exact .inr (.inl ⟨rfl, rfl, sibling, rfl⟩)
        | false =>
            simp only [stops, sibling, Bool.false_eq_true, if_false] at run
            exact .inr (.inr ⟨rfl, rfl, run⟩)
  · rw [loop] at run
    obtain ⟨rfl, rfl⟩ : result = split ∧ after = history' := by simpa using run
    exact .inl rfl

theorem vertexSplitTraverse_succ {fuel : Nat} {start : String} {history : List String}
    {result : Split × List String}
    (run : vertexSplitTraverse g toFind stop fuel start history = some result) :
    vertexSplitTraverse g toFind stop (fuel + 1) start history = some result := by
  induction fuel generalizing start history result with
  | zero => simp [vertexSplitTraverse] at run
  | succ fuel ih =>
      obtain ⟨split, history'⟩ := result
      rw [vertexSplitTraverse]
      rcases vertexSplitTraverse_cases run with loop | ⟨after, loop, outcome⟩
      · rw [traverseChildren_mono (fun _ _ _ => ih) loop]
      · rw [traverseChildren_mono (fun _ _ _ => ih) loop]
        rcases outcome with ⟨stops, rfl, rfl⟩ | ⟨stops, rfl, found, rfl⟩ | ⟨stops, sibling, climb⟩
        · simp [stops]
        · simp [stops, found]
        · simp [stops, sibling, ih climb]

theorem vertexSplitTraverse_mono {fuel more : Nat} {start : String} {history : List String}
    {result : Split × List String}
    (run : vertexSplitTraverse g toFind stop fuel start history = some result)
    (enough : fuel ≤ more) :
    vertexSplitTraverse g toFind stop more start history = some result := by
  induction enough with
  | refl => exact run
  | step _ ih => exact vertexSplitTraverse_succ ih

theorem vertexSplitTraverse_history {fuel : Nat} {start : String} {history history' : List String}
    {split : Split}
    (run : vertexSplitTraverse g toFind stop fuel start history = some (split, history')) :
    start ∈ history' ∧ history ⊆ history' := by
  induction fuel generalizing start history history' split with
  | zero => simp [vertexSplitTraverse] at run
  | succ fuel ih =>
      rcases vertexSplitTraverse_cases run with loop | ⟨after, loop, outcome⟩
      · obtain ⟨_, _, _, before, sub, visited, _⟩ :=
          traverseChildren_found (fun _ _ _ _ visited => (ih visited).2) loop
        exact List.cons_subset.mp (sub.trans (ih visited).2)
      · obtain ⟨entered, -⟩ := traverseChildren_none (· ⊆ ·) List.Subset.refl
          (fun _ _ _ => List.Subset.trans) (fun _ _ => id)
          (fun _ _ _ _ visited _ => ⟨(ih visited).2, (ih visited).1⟩) loop
        have entered : start :: history ⊆ after := entered
        rcases outcome with ⟨-, -, rfl⟩ | ⟨-, -, -, rfl⟩ | ⟨-, -, climb⟩
        · exact List.cons_subset.mp entered
        · exact List.cons_subset.mp entered
        · exact List.cons_subset.mp (entered.trans (ih climb).2)

end Search

/-! ## Termination -/

/-- The vertices of `g` not in `history`. -/
def unvisited (g : Graph) (history : List String) : Nat :=
  (g.vertices.map Prod.fst).countP (· ∉ history)

theorem unvisited_anti {g : Graph} {history history' : List String} (sub : history ⊆ history') :
    unvisited g history' ≤ unvisited g history :=
  List.countP_mono_left fun v _ fresh => by
    simp only [decide_eq_true_eq] at fresh ⊢
    exact fun member => fresh (sub member)

private theorem countP_not_mem_cons_lt {ids history : List String} {c : String}
    (member : c ∈ ids) (fresh : c ∉ history) :
    ids.countP (· ∉ c :: history) < ids.countP (· ∉ history) := by
  induction ids with
  | nil => simp at member
  | cons v ids ih =>
      have smaller : ids.countP (· ∉ c :: history) ≤ ids.countP (· ∉ history) :=
        List.countP_mono_left fun w _ => by simp_all
      rw [List.countP_cons, List.countP_cons]
      by_cases same : v = c
      · subst same
        have entered : decide (v ∉ v :: history) = false := by simp
        have was : decide (v ∉ history) = true := by simpa using fresh
        simp only [entered, was, Bool.false_eq_true, if_false, if_true]
        omega
      · have later := ih (by simpa [Ne.symm same] using member)
        have agree : decide (v ∉ c :: history) = decide (v ∉ history) := by simp [same]
        simp only [agree]
        omega

theorem unvisited_lt {g : Graph} {history : List String} {c : String}
    (vertex : g.contains c = true) (fresh : c ∉ history) :
    unvisited g (c :: history) < unvisited g history :=
  countP_not_mem_cons_lt (Graph.contains_iff_mem.mp vertex) fresh

theorem vertexSplit_siblingID_empty {g : Graph} (vertex : g.contains "" = true)
    (toFind : String) : (vertexSplit g (Graph.siblingID "" toFind)).found = true := by
  have empty : Graph.parentID "" = "" := Graph.parentID_of_not_dot (by simp)
  have dotted : DottedPrefix "" (Graph.siblingID "" toFind) :=
    .inr ⟨toFind, by rw [Graph.siblingID, empty]⟩
  exact (vertexSplit_found_of_dottedPrefix dotted vertex).found

theorem vertexSplitTraverse_within (g : Graph) (toFind : String) (width : Nat)
    (wide : ∀ v ∈ g.vertices, v.1.length < width) (fuel : Nat) :
    ∀ start history, start.length < width →
      unvisited g (start :: history) * width + start.length < fuel →
      ∃ result, vertexSplitTraverse g toFind traverseUntilModule fuel start history =
        some result := by
  induction fuel with
  | zero => exact fun _ _ _ bound => absurd bound (Nat.not_lt_zero _)
  | succ fuel ih =>
      intro start history short bound
      have grows (c : String) (before : List String) (r : Split) (after : List String)
          (visited : vertexSplitTraverse g toFind traverseUntilModule fuel c before =
            some (r, after)) : before ⊆ after :=
        (vertexSplitTraverse_history visited).2
      have child (c : String) (before : List String) (sub : start :: history ⊆ before)
          (fresh : c ∉ before) (passes : traverseUntilModule g c = false) :
          ∃ r, vertexSplitTraverse g toFind traverseUntilModule fuel c before = some r := by
        have vertex := contains_of_traverseUntilModule passes
        have narrow : c.length < width := by
          obtain ⟨p, member, same⟩ := List.mem_map.mp (Graph.contains_iff_mem.mp vertex)
          exact same ▸ wide p member
        have fewer := (unvisited_lt vertex fresh).trans_le (unvisited_anti sub)
        have scaled := Nat.mul_le_mul_right width fewer
        rw [Nat.succ_mul] at scaled
        exact ih c before narrow (by omega)
      obtain ⟨⟨_ | split, after⟩, loop⟩ : ∃ r, traverseChildren g traverseUntilModule
          (vertexSplitTraverse g toFind traverseUntilModule fuel) (g.children start)
          (start :: history) = some r :=
        traverseChildren_isSome grows fun c _ before sub fresh passes =>
          child c before sub fresh passes
      · obtain ⟨sub, -⟩ := traverseChildren_none (· ⊆ ·) List.Subset.refl
          (fun _ _ _ => List.Subset.trans) (fun _ _ => id)
          (fun _ _ _ _ visited _ => (vertexSplitTraverse_history visited).symm) loop
        rw [vertexSplitTraverse, loop]
        by_cases stops : traverseUntilModule g start = true
        · simp [stops]
        · by_cases found : (vertexSplit g (Graph.siblingID start toFind)).found = true
          · simp [stops, found]
          · simp only [stops, found, if_false]
            have nonempty : start ≠ "" := by
              rintro rfl
              exact found (vertexSplit_siblingID_empty
                (contains_of_traverseUntilModule (by simpa using stops)) toFind)
            have shorter := Graph.parentID_length_lt nonempty
            have fewer : unvisited g (Graph.parentID start :: after) ≤
                unvisited g (start :: history) :=
              (unvisited_anti (List.subset_cons_self _ _)).trans (unvisited_anti sub)
            have scaled := Nat.mul_le_mul_right width fewer
            exact ih _ after (by omega) (by omega)
      · rw [vertexSplitTraverse, loop]
        exact ⟨_, rfl⟩

/-- A bound on the length of every vertex id and of `start`. -/
def traverseWidth (g : Graph) (start : String) : Nat :=
  (g.vertices.map fun v => v.1.length).sum + start.length + 1

/-- Fuel enough for `VertexSplitTraverse` under `TraverseUntilModule`. -/
def traverseFuel (g : Graph) (start : String) (history : List String) : Nat :=
  unvisited g (start :: history) * traverseWidth g start + start.length + 1

theorem vertexSplitTraverse_of_traverseFuel_le {g : Graph} {name start : String}
    {history : List String} {fuel : Nat} (enough : traverseFuel g start history ≤ fuel) :
    ∃ result, vertexSplitTraverse g name traverseUntilModule fuel start history = some result := by
  have wide (v : String × VertexValue) (member : v ∈ g.vertices) :
      v.1.length < traverseWidth g start := by
    have length : v.1.length ∈ g.vertices.map fun v => v.1.length :=
      List.mem_map_of_mem _ member
    have := List.le_sum_of_mem length
    simp only [traverseWidth]
    omega
  unfold traverseFuel at enough
  exact vertexSplitTraverse_within g name _ wide fuel start history
    (by simp only [traverseWidth]; omega) (by omega)

theorem vertexSplitTraverse_terminates (g : Graph) (name start : String)
    (history : List String) :
    ∃ fuel result, vertexSplitTraverse g name traverseUntilModule fuel start history =
      some result :=
  ⟨_, vertexSplitTraverse_of_traverseFuel_le le_rfl⟩

end Converge.Preprocessor
