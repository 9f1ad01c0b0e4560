import Converge.Traverse

/-!
# What `VertexSplitTraverse` finds

`Reach` is the search stated declaratively: the scopes reachable from the start through the
children that do not stop, and up to the parent of every scope that does not stop.

* `vertexSplitTraverse_sound`: a found split is the sibling lookup of a reachable, visited scope
  that does not stop.
* `vertexSplitTraverse_complete`: a search that finds nothing leaves every node it entered
  `Done`, so the pruning by the shared history skips no reachable scope.
* `vertexSplitTraverse_eq_scopeSearch`: the two together, under `TraverseUntilModule`.
* `vertexSplitTraverse_within_module`: from below a module, a lookup resolves to the module or
  below it.
-/

namespace Converge.Preprocessor

/-- The scopes the search may enter from `start`. -/
inductive Reach (g : Graph) (stop : Graph → String → Bool) (start : String) : String → Prop
  | start : Reach g stop start start
  | child {x c : String} : Reach g stop start x → c ∈ g.children x → stop g c = false →
      Reach g stop start c
  | parent {x : String} : Reach g stop start x → stop g x = false →
      Reach g stop start (Graph.parentID x)

/-- A node whose call ended without a match: each child is in the history or stops, and unless
the node stops, its sibling lookup failed and its parent was entered. -/
def Done (g : Graph) (toFind : String) (stop : Graph → String → Bool) (history : List String)
    (n : String) : Prop :=
  (∀ c ∈ g.children n, c ∈ history ∨ stop g c = true) ∧
  (stop g n = false →
    (vertexSplit g (Graph.siblingID n toFind)).found = false ∧ Graph.parentID n ∈ history)

/-- `history'` extends `history` by nodes that are `Done`. -/
def Finished (g : Graph) (toFind : String) (stop : Graph → String → Bool)
    (history history' : List String) : Prop :=
  history ⊆ history' ∧ ∀ n ∈ history', n ∉ history → Done g toFind stop history' n

section Invariants

variable {g : Graph} {toFind : String} {stop : Graph → String → Bool}

theorem Reach.trans {start x n : String} (first : Reach g stop start x)
    (second : Reach g stop x n) : Reach g stop start n := by
  induction second with
  | start => exact first
  | child _ member passes ih => exact .child ih member passes
  | parent _ passes ih => exact .parent ih passes

theorem Done.mono {history history' : List String} {n : String}
    (done : Done g toFind stop history n) (sub : history ⊆ history') :
    Done g toFind stop history' n :=
  ⟨fun c member => (done.1 c member).imp_left (sub ·),
    fun passes => (done.2 passes).imp_right (sub ·)⟩

theorem Finished.refl (history : List String) : Finished g toFind stop history history :=
  ⟨List.Subset.refl _, fun _ member fresh => absurd member fresh⟩

theorem Finished.trans {a b c : List String} (first : Finished g toFind stop a b)
    (second : Finished g toFind stop b c) : Finished g toFind stop a c := by
  refine ⟨first.1.trans second.1, fun n member fresh => ?_⟩
  by_cases earlier : n ∈ b
  · exact (first.2 n earlier fresh).mono second.1
  · exact second.2 n member earlier

theorem traverseChildren_history {fuel : Nat} {start : String} {history after : List String}
    (loop : traverseChildren g stop (vertexSplitTraverse g toFind stop fuel) (g.children start)
      (start :: history) = some (none, after)) :
    start ∈ after ∧ history ⊆ after :=
  List.cons_subset.mp (traverseChildren_none (· ⊆ ·) List.Subset.refl
    (fun _ _ _ => List.Subset.trans) (fun _ _ => id)
    (fun _ _ _ _ visited _ => (vertexSplitTraverse_history visited).symm) loop).1

end Invariants

/-! ## Soundness and completeness -/

section Search

variable {g : Graph} {toFind : String} {stop : Graph → String → Bool}

theorem vertexSplitTraverse_sound {fuel : Nat} {start : String} {history history' : List String}
    {split : Split}
    (run : vertexSplitTraverse g toFind stop fuel start history = some (split, history')) :
    (split.found = true → ∃ n ∈ history', Reach g stop start n ∧ stop g n = false ∧
      split = vertexSplit g (Graph.siblingID n toFind)) ∧
    (split.found = false → split = ⟨"", toFind, false⟩) := by
  induction fuel generalizing start history history' split with
  | zero => simp [vertexSplitTraverse] at run
  | succ fuel ih =>
      rcases vertexSplitTraverse_cases run with loop | ⟨after, loop, outcome⟩
      · obtain ⟨c, member, passes, before, -, visited, found⟩ := traverseChildren_found
          (fun _ _ _ _ visited => (vertexSplitTraverse_history visited).2) loop
        obtain ⟨sound, -⟩ := ih visited
        refine ⟨fun _ => ?_, fun notFound => absurd found (by simp [notFound])⟩
        obtain ⟨n, member', reach, passes', same⟩ := sound found
        exact ⟨n, member', (Reach.start.child member passes).trans reach, passes', same⟩
      · obtain ⟨entered, -⟩ := traverseChildren_history loop
        rcases outcome with ⟨-, rfl, -⟩ | ⟨stops, same, found, rfl⟩ | ⟨stops, -, climb⟩
        · exact ⟨fun found => (by cases found), fun _ => rfl⟩
        · exact ⟨fun _ => ⟨start, entered, .start, stops, same.symm⟩,
            fun notFound => absurd found (by simp [notFound])⟩
        · obtain ⟨sound, notFound⟩ := ih climb
          refine ⟨fun found => ?_, notFound⟩
          obtain ⟨n, member, reach, passes, same⟩ := sound found
          exact ⟨n, member, (Reach.start.parent stops).trans reach, passes, same⟩

theorem vertexSplitTraverse_complete {fuel : Nat} {start : String}
    {history history' : List String} {split : Split}
    (run : vertexSplitTraverse g toFind stop fuel start history = some (split, history'))
    (missing : split.found = false) :
    start ∈ history' ∧ Finished g toFind stop history history' := by
  induction fuel generalizing start history history' split with
  | zero => simp [vertexSplitTraverse] at run
  | succ fuel ih =>
      rcases vertexSplitTraverse_cases run with loop | ⟨after, loop, outcome⟩
      · obtain ⟨-, -, -, -, -, -, found⟩ := traverseChildren_found
          (fun _ _ _ _ visited => (vertexSplitTraverse_history visited).2) loop
        exact absurd found (by simp [missing])
      · obtain ⟨finished, explored⟩ := traverseChildren_none (Finished g toFind stop)
          Finished.refl (fun _ _ _ => Finished.trans) (fun _ _ => And.left)
          (fun _ _ _ _ visited notFound => (ih visited notFound).symm) loop
        obtain ⟨entered, sub⟩ := List.cons_subset.mp finished.1
        have done (n : String) (member : n ∈ after) (fresh : n ∉ history) (other : n ≠ start) :
            Done g toFind stop after n :=
          finished.2 n member (by simp [other, fresh])
        rcases outcome with ⟨stops, -, rfl⟩ | ⟨-, -, found, -⟩ | ⟨stops, sibling, climb⟩
        · refine ⟨entered, sub, fun n member fresh => ?_⟩
          by_cases other : n = start
          · exact other ▸ ⟨explored, fun passes => absurd (passes.symm.trans stops) (by simp)⟩
          · exact done n member fresh other
        · exact absurd found (by simp [missing])
        · obtain ⟨climbed, later⟩ := ih climb missing
          refine ⟨later.1 entered, sub.trans later.1, fun n member fresh => ?_⟩
          by_cases earlier : n ∈ after
          · by_cases other : n = start
            · subst other
              exact ⟨fun c child => (explored c child).imp_left (later.1 ·),
                fun _ => ⟨sibling, climbed⟩⟩
            · exact (done n earlier fresh other).mono later.1
          · exact later.2 n member earlier

theorem Finished.reach {start : String} {history : List String}
    (finished : Finished g toFind stop [] history) (entered : start ∈ history) {n : String}
    (reach : Reach g stop start n) : n ∈ history ∧ Done g toFind stop history n := by
  have done (x : String) (member : x ∈ history) : Done g toFind stop history x :=
    finished.2 x member (List.not_mem_nil x)
  induction reach with
  | start => exact ⟨entered, done _ entered⟩
  | child _ member passes ih =>
      have inside := (ih.2.1 _ member).resolve_right (by simp [passes])
      exact ⟨inside, done _ inside⟩
  | parent _ passes ih =>
      have inside := (ih.2.2 passes).2
      exact ⟨inside, done _ inside⟩

end Search

/-! ## Under `TraverseUntilModule` -/

theorem vertexSplitTraverse_eq_scopeSearch (g : Graph) (name start : String) :
    (∃ fuel result, vertexSplitTraverse g name traverseUntilModule fuel start [] =
      some result) ∧
    ∀ fuel split history,
      vertexSplitTraverse g name traverseUntilModule fuel start [] = some (split, history) →
      (split.found = true ↔ ∃ n, Reach g traverseUntilModule start n ∧
        traverseUntilModule g n = false ∧ (vertexSplit g (Graph.siblingID n name)).found = true) ∧
      (split.found = true → ∃ n, Reach g traverseUntilModule start n ∧
        traverseUntilModule g n = false ∧ split = vertexSplit g (Graph.siblingID n name)) ∧
      (split.found = false → split = ⟨"", name, false⟩) := by
  refine ⟨⟨_, vertexSplitTraverse_of_traverseFuel_le le_rfl⟩, fun fuel split history run => ?_⟩
  obtain ⟨sound, notFound⟩ := vertexSplitTraverse_sound run
  have resolved (found : split.found = true) : ∃ n, Reach g traverseUntilModule start n ∧
      traverseUntilModule g n = false ∧ split = vertexSplit g (Graph.siblingID n name) :=
    let ⟨n, _, reach, passes, same⟩ := sound found
    ⟨n, reach, passes, same⟩
  refine ⟨⟨fun found => ?_, fun ⟨n, reach, passes, sibling⟩ => ?_⟩, resolved, notFound⟩
  · obtain ⟨n, reach, passes, same⟩ := resolved found
    exact ⟨n, reach, passes, same ▸ found⟩
  · cases missing : split.found
    · obtain ⟨entered, finished⟩ := vertexSplitTraverse_complete run missing
      exact absurd sibling (by simp [((finished.reach entered reach).2.2 passes).1])
    · rfl

/-- Spec scenario 2: two modules, and a lookup from the second for a file of the first. -/
def twoModules : Graph :=
  ⟨[("root.m1.module", .module), ("root.m1.file.x", .resource), ("root.m2.module", .module),
    ("root.m2.file.y", .resource)], fun _ => [], by decide⟩

theorem vertexSplitTraverse_twoModules :
    vertexSplitTraverse twoModules "file.x.dest" traverseUntilModule 3 "root.m2.file.y" [] =
      some (⟨"", "file.x.dest", false⟩, ["root.m2.file", "root.m2.file.y"]) ∧
    ¬ ∃ n, Reach twoModules traverseUntilModule "root.m2.file.y" n ∧
      traverseUntilModule twoModules n = false ∧
      (vertexSplit twoModules (Graph.siblingID n "file.x.dest")).found = true := by
  have run : vertexSplitTraverse twoModules "file.x.dest" traverseUntilModule 3 "root.m2.file.y"
      [] = some (⟨"", "file.x.dest", false⟩, ["root.m2.file", "root.m2.file.y"]) := by decide
  exact ⟨run, fun found => absurd
    (((vertexSplitTraverse_eq_scopeSearch _ _ _).2 _ _ _ run).1.mpr found) (by decide)⟩

/-- The root vertex and one resource below it. -/
def rootAndLeaf : Graph :=
  ⟨[("root", .resource), ("root.a", .resource)], fun _ => [], by decide⟩

theorem vertexSplitTraverse_resolves_to_root :
    ¬ ∀ fuel split history,
      vertexSplitTraverse rootAndLeaf "zzz" traverseUntilModule fuel "root.a" [] =
        some (split, history) → split.found = true →
      ∃ n ∈ history, traverseUntilModule rootAndLeaf n = false ∧ ∃ p, p ≠ "" ∧
        DottedPrefix p "zzz" ∧ split.vertex = Graph.siblingID n p ∧
        (p = "zzz" ∧ split.middle = "" ∨ "zzz" = p ++ "." ++ split.middle) := by
  intro resolved
  obtain ⟨n, -, -, p, -, -, same, -⟩ := resolved 2 ⟨"root", "zzz", true⟩ ["root.a"] (by decide) rfl
  have dot : '.' ∈ (Graph.siblingID n p).data := by simp [Graph.siblingID]
  rw [← same] at dot
  exact absurd dot (by decide)

theorem vertexSplitTraverse_found_longestSplit (g : Graph) (name start : String) (fuel : Nat)
    (split : Split) (history : List String)
    (run : vertexSplitTraverse g name traverseUntilModule fuel start [] = some (split, history))
    (found : split.found = true) :
    ∃ n ∈ history, traverseUntilModule g n = false ∧
      LongestSplit g (Graph.siblingID n name) split := by
  obtain ⟨n, member, -, passes, same⟩ := (vertexSplitTraverse_sound run).1 found
  refine ⟨n, member, passes, ?_⟩
  rcases vertexSplit_cases g (Graph.siblingID n name) with ⟨notFound, -⟩ | longest
  · exact absurd found (by simp [same, notFound])
  · exact same ▸ longest

theorem vertexSplitTraverse_rootAndLeaf :
    vertexSplitTraverse rootAndLeaf "zzz" traverseUntilModule 2 "root.a" [] =
      some (⟨"root", "zzz", true⟩, ["root.a"]) ∧
    ∃ n ∈ ["root.a"], traverseUntilModule rootAndLeaf n = false ∧
      LongestSplit rootAndLeaf (Graph.siblingID n "zzz") ⟨"root", "zzz", true⟩ := by
  have run : vertexSplitTraverse rootAndLeaf "zzz" traverseUntilModule 2 "root.a" [] =
      some (⟨"root", "zzz", true⟩, ["root.a"]) := by decide
  exact ⟨run, vertexSplitTraverse_found_longestSplit _ _ _ _ _ _ run rfl⟩

/-! ## Module scope -/

section Module

variable {g : Graph} {name m : String}

theorem vertexSplitTraverse_below (moduleVertex : g.contains m = true)
    (moduleStops : traverseUntilModule g m = true)
    (edgesInside : ∀ x, (∃ rest, x = m ++ "." ++ rest) →
      ∀ c ∈ g.children x, c = m ∨ ∃ rest, c = m ++ "." ++ rest)
    {fuel : Nat} {start : String} {history history' : List String} {split : Split}
    (below : ∃ rest, start = m ++ "." ++ rest)
    (run : vertexSplitTraverse g name traverseUntilModule fuel start history =
      some (split, history'))
    (found : split.found = true) : DottedPrefix m split.vertex := by
  induction fuel generalizing start history history' split with
  | zero => simp [vertexSplitTraverse] at run
  | succ fuel ih =>
      rcases vertexSplitTraverse_cases run with loop | ⟨after, -, outcome⟩
      · obtain ⟨c, member, passes, before, -, visited, -⟩ := traverseChildren_found
          (fun _ _ _ _ visited => (vertexSplitTraverse_history visited).2) loop
        rcases edgesInside start below c member with rfl | inside
        · exact absurd moduleStops (by simp [passes])
        · exact ih inside visited found
      · obtain ⟨rest, rfl⟩ := below
        have dotted : DottedPrefix m (Graph.siblingID (m ++ "." ++ rest) name) :=
          Graph.dottedPrefix_siblingID name
        have longest := vertexSplit_found_of_dottedPrefix dotted moduleVertex
        rcases outcome with ⟨-, rfl, -⟩ | ⟨-, rfl, -, -⟩ | ⟨-, notFound, -⟩
        · exact absurd found (by simp)
        · exact dotted.of_length_le longest.dotted (longest.longest m dotted moduleVertex)
        · exact absurd (longest.found.symm.trans notFound) (by decide)

end Module

theorem vertexSplitTraverse_within_module (g : Graph) (name m start : String)
    (moduleVertex : g.contains m = true) (moduleStops : traverseUntilModule g m = true)
    (below : ∃ rest, start = m ++ "." ++ rest)
    (edgesInside : ∀ x, (∃ rest, x = m ++ "." ++ rest) →
      ∀ c ∈ g.children x, c = m ∨ ∃ rest, c = m ++ "." ++ rest)
    (fuel : Nat) (split : Split) (history : List String)
    (run : vertexSplitTraverse g name traverseUntilModule fuel start [] = some (split, history))
    (found : split.found = true) :
    split.vertex = m ∨ ∃ rest, split.vertex = m ++ "." ++ rest :=
  (vertexSplitTraverse_below moduleVertex moduleStops edgesInside below run found).imp_left Eq.symm

/-- A module `root.web` with a page below it; the module itself depends on `root.db`. -/
def webModule : Graph :=
  ⟨[("root", .module), ("root.web", .module), ("root.web.page", .resource),
    ("root.db", .resource)], fun id => if id = "root.web" then ["root.db"] else [], by decide⟩

theorem vertexSplitTraverse_webModule :
    vertexSplitTraverse webModule "port" traverseUntilModule 2 "root.web.page" [] =
      some (⟨"root.web", "port", true⟩, ["root.web.page"]) ∧
    ((⟨"root.web", "port", true⟩ : Split).vertex = "root.web" ∨
      ∃ rest, (⟨"root.web", "port", true⟩ : Split).vertex = "root.web" ++ "." ++ rest) := by
  have run : vertexSplitTraverse webModule "port" traverseUntilModule 2 "root.web.page" [] =
      some (⟨"root.web", "port", true⟩, ["root.web.page"]) := by decide
  have edgesInside (x : String) (below : ∃ rest, x = "root.web" ++ "." ++ rest) (c : String)
      (member : c ∈ webModule.children x) :
      c = "root.web" ∨ ∃ rest, c = "root.web" ++ "." ++ rest := by
    obtain ⟨rest, rfl⟩ := below
    have other : "root.web" ++ "." ++ rest ≠ "root.web" := fun same => by
      have := congrArg String.length same
      simp only [String.length_append, length_dot] at this
      omega
    have leaf : webModule.children ("root.web" ++ "." ++ rest) = [] :=
      show (if "root.web" ++ "." ++ rest = "root.web" then ["root.db"] else []) = [] from
        if_neg other
    exact absurd member (leaf ▸ List.not_mem_nil c)
  exact ⟨run, vertexSplitTraverse_within_module webModule "port" "root.web" "root.web.page"
    (by decide) (by decide) ⟨"page", by decide⟩ edgesInside 2 _ _ run rfl⟩

end Converge.Preprocessor
