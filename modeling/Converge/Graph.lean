import Converge.Terms

/-!
# The graph the preprocessor reads

The `graph` package is not among the sources: `Graph`, `Graph.get`, `Graph.contains`,
`Graph.parentID`, `Graph.siblingID` and `Graph.isRoot` are modelled from the spec (§3 and §4.1).
`traverseUntilModule` is `TraverseUntilModule` of `render/preprocessor`.
-/

namespace Converge

/-- The value at a vertex, as far as `TraverseUntilModule` tells values apart. -/
inductive VertexValue where
  /-- `*module.Module` -/
  | module
  /-- `*module.Preparer` -/
  | modulePreparer
  /-- `*parse.Node`, with its kind -/
  | node (kind : String)
  /-- any other resource value -/
  | resource
  deriving DecidableEq, Repr

/-- Modelled from the spec: a `graph.Graph` is a map from vertex ids to values, so no id occurs
twice, and `Children(id)` lists the dependency edges out of `id`. -/
structure Graph where
  vertices : List (String × VertexValue)
  children : String → List String
  nodup : (vertices.map Prod.fst).Nodup

namespace Graph

/-- Modelled from the spec: `Get(id)`, absent for a missing id. -/
def get (g : Graph) (id : String) : Option VertexValue :=
  g.vertices.lookup id

/-- Modelled from the spec: `Contains(id)`. -/
def contains (g : Graph) (id : String) : Bool :=
  (g.get id).isSome

/-- Modelled from the spec: `ParentID` drops the last dot-separated segment of an id. -/
def parentID (id : String) : String :=
  Preprocessor.joinTerms (Preprocessor.splitTerms id).dropLast

/-- Modelled from the spec: `SiblingID(base, leaf) = ParentID(base) + "." + leaf`. -/
def siblingID (base leaf : String) : String :=
  parentID base ++ "." ++ leaf

/-- Modelled from the spec: `IsRoot` holds of the id `root` only. -/
def isRoot (id : String) : Bool :=
  id == "root"

open Preprocessor

theorem parentID_append_dot {u t : String} (noDot : '.' ∉ t.data) :
    parentID (u ++ "." ++ t) = u := by
  rw [parentID, splitTerms_append_dot noDot, List.dropLast_concat, joinTerms_splitTerms]

theorem parentID_of_not_dot {s : String} (noDot : '.' ∉ s.data) : parentID s = "" := by
  rw [parentID, splitTerms_of_not_dot noDot]
  rfl

theorem parentID_length_lt {s : String} (nonempty : s ≠ "") :
    (parentID s).length < s.length := by
  by_cases dot : '.' ∈ s.data
  · obtain ⟨u, t, noDot, split⟩ := exists_last_dot dot
    have shape : s = ⟨u⟩ ++ "." ++ ⟨t⟩ := String.ext (by simpa using split)
    rw [shape, parentID_append_dot noDot]
    simp only [String.length_append, length_dot]
    omega
  · rw [parentID_of_not_dot dot]
    exact Nat.pos_of_ne_zero fun empty =>
      nonempty (String.ext (List.eq_nil_of_length_eq_zero empty))

theorem dottedPrefix_siblingID {m rest : String} (leaf : String) :
    DottedPrefix m (siblingID (m ++ "." ++ rest) leaf) := by
  by_cases dot : '.' ∈ rest.data
  · obtain ⟨u, t, noDot, split⟩ := exists_last_dot dot
    have shape : m ++ "." ++ rest = (m ++ "." ++ ⟨u⟩) ++ "." ++ ⟨t⟩ :=
      String.ext (by simp [split])
    rw [siblingID, shape, parentID_append_dot noDot]
    exact .inr ⟨⟨u⟩ ++ "." ++ leaf, String.ext (by simp)⟩
  · rw [siblingID, parentID_append_dot dot]
    exact .inr ⟨leaf, rfl⟩

theorem contains_iff_mem {g : Graph} {id : String} :
    g.contains id = true ↔ id ∈ g.vertices.map Prod.fst := by
  simp only [contains, get, List.lookup_isSome_iff, beq_iff_eq, List.mem_map]
  exact ⟨fun ⟨p, member, same⟩ => ⟨p, member, same.symm⟩,
    fun ⟨p, member, same⟩ => ⟨p, member, same.symm⟩⟩

theorem contains_of_get {g : Graph} {id : String} {value : VertexValue}
    (present : g.get id = some value) : g.contains id = true := by
  simp [contains, present]

end Graph

namespace Preprocessor

/-- `TraverseUntilModule`: stop at the root, at a missing vertex and at a module. -/
def traverseUntilModule (g : Graph) (id : String) : Bool :=
  if Graph.isRoot id then true
  else match g.get id with
    | none => true
    | some .module => true
    | some .modulePreparer => true
    | some (.node kind) => kind == "module"
    | some .resource => false

theorem contains_of_traverseUntilModule {g : Graph} {id : String}
    (passes : traverseUntilModule g id = false) : g.contains id = true := by
  unfold traverseUntilModule at passes
  split at passes
  · cases passes
  · split at passes <;> first | exact Graph.contains_of_get ‹_› | cases passes

end Preprocessor

end Converge
