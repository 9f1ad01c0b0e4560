import Converge.Unicode

/-!
# The values and types that `reflect` shows the preprocessor

`FieldMap`, `EvalTerms`, `HasField` and `LookupCanonicalFieldName` see Go values and types
through `reflect`. A `Value` keeps what they read of a value: its kind, the fields of a struct
with their names and embedded flags, and whether a pointer, an interface, a slice, a map, a
channel or a function is nil. Struct types are named, and their fields are declared in a
`TypeEnv`, so that a struct may embed a pointer to itself.

`GoMap` is a Go map with string keys. It keeps its entries in the order their keys were first
set. `range` over it visits them in an order that the runtime picks for each loop, any
permutation of the entries: a `RangeOrder`. `RangeOrders` picks one for every loop of a run.
-/

namespace Converge.Reflect

/-- A Go type, as far as `reflect.Kind` and the field lists tell types apart. -/
inductive GoType where
  /-- bool, the numbers and string -/
  | basic (name : String)
  | array (name : String)
  /-- slice, map, chan and func: the other kinds that can be nil -/
  | nilable (name : String)
  | pointer (elem : GoType)
  | interface (name : String)
  | struct (name : String)
  deriving DecidableEq, Repr

/-- The type as `%T` and `%s` print it. -/
def GoType.name : GoType → String
  | .basic name | .array name | .nilable name | .interface name | .struct name => name
  | .pointer elem => "*" ++ elem.name

/-- `reflect.StructField`. An embedded field is `anonymous` and is named after its type. -/
structure Field where
  name : String
  type : GoType
  anonymous : Bool
  deriving DecidableEq, Repr

/-- The struct type an embedded field of type `t` leads `reflect` into: `t`, or the type under
one pointer. -/
def embeddedStruct : GoType → Option String
  | .struct name | .pointer (.struct name) => some name
  | _ => none

/-- The struct types of a program, each with its fields in declaration order. An embedded struct
field is named after its type. -/
structure TypeEnv where
  structs : List (String × List Field)
  embeddedNamed : ∀ s ∈ structs, ∀ field ∈ s.2, field.anonymous = true →
    embeddedStruct field.type = none ∨ embeddedStruct field.type = some field.name

/-- `t.Field(i)` for every `i < t.NumField()`. -/
def TypeEnv.fields (env : TypeEnv) (name : String) : List Field :=
  (env.structs.lookup name).getD []

/-- Every field declared in `env`. -/
def TypeEnv.allFields (env : TypeEnv) : List Field :=
  env.structs.flatMap fun s => s.2

theorem TypeEnv.mem_structs_of_mem_fields {env : TypeEnv} {n : String} {field : Field}
    (declared : field ∈ env.fields n) : ∃ s ∈ env.structs, field ∈ s.2 := by
  unfold TypeEnv.fields at declared
  cases found : env.structs.lookup n with
  | none => simp [found] at declared
  | some fields =>
    obtain ⟨l₁, l₂, split, -⟩ := List.lookup_eq_some_iff.mp found
    simp only [found, Option.getD_some] at declared
    exact ⟨(n, fields), by simp [split], declared⟩

theorem TypeEnv.mem_names_of_mem_fields {env : TypeEnv} {n : String} {field : Field}
    (declared : field ∈ env.fields n) : n ∈ env.structs.map Prod.fst := by
  unfold TypeEnv.fields at declared
  cases found : env.structs.lookup n with
  | none => simp [found] at declared
  | some fields =>
    obtain ⟨l₁, l₂, split, -⟩ := List.lookup_eq_some_iff.mp found
    simp [split]

theorem TypeEnv.embeddedNamed_of_mem {env : TypeEnv} {n : String} {field : Field}
    (declared : field ∈ env.fields n) (anon : field.anonymous = true) :
    embeddedStruct field.type = none ∨ embeddedStruct field.type = some field.name :=
  let ⟨s, member, inside⟩ := env.mem_structs_of_mem_fields declared
  env.embeddedNamed s member field inside anon

theorem TypeEnv.mem_allFields {env : TypeEnv} {n : String} {field : Field}
    (declared : field ∈ env.fields n) : field ∈ env.allFields :=
  let ⟨s, member, inside⟩ := env.mem_structs_of_mem_fields declared
  List.mem_flatMap.mpr ⟨s, member, inside⟩


/-- A Go value. A pointer or an interface holds its target, `none` when it is nil; a struct
holds each field with its value. -/
inductive Value where
  | basic (type text : String)
  | array (type : String)
  | nilable (type : String) (isNil : Bool)
  | pointer (elem : GoType) (target : Option Value)
  | interface (type : String) (dynamic : Option Value)
  | struct (type : String) (fields : List (Field × Value))
  deriving Repr

/-- `v.Type()`. -/
def Value.type : Value → GoType
  | .basic type _ => .basic type
  | .array type => .array type
  | .nilable type _ => .nilable type
  | .pointer elem _ => .pointer elem
  | .interface type _ => .interface type
  | .struct type _ => .struct type

/-- `token.IsExported`: the name's first rune is an upper-case letter. -/
def exported (name : String) : Bool :=
  match name.data with
  | c :: _ => Unicode.isUpper c
  | [] => false

/-- `strings.ToLower`: `unicode.ToLower` on each rune. -/
def toLower (s : String) : String :=
  ⟨s.data.map Unicode.toLower⟩

/-! ## Well-typed values and their field paths -/

mutual

/-- `v` agrees with the declarations of `env`: a struct has the fields its type declares, and
a pointer, an interface or a field holds a value of the type it should. -/
def Value.typed (env : TypeEnv) : Value → Bool
  | .pointer elem (some target) => target.type == elem && target.typed env
  | .interface _ (some dynamic) => dynamic.typed env
  | .struct name fields => fields.map Prod.fst == env.fields name && Value.fieldsTyped env fields
  | _ => true

/-- Every field holds a well-typed value of its declared type. -/
def Value.fieldsTyped (env : TypeEnv) : List (Field × Value) → Bool
  | [] => true
  | (field, v) :: rest => v.type == field.type && v.typed env && Value.fieldsTyped env rest

end

mutual

/-- Every embedded field among `fields`, at every depth, is exported and holds a struct or a
non-nil pointer to one. -/
def embedsRecords : List (Field × Value) → Bool
  | [] => true
  | (field, v) :: rest =>
    (!field.anonymous || exported field.name && recordEmbedsRecords v) && embedsRecords rest

/-- `v` is a struct or a non-nil pointer to one, and `embedsRecords` holds of its fields. -/
def recordEmbedsRecords : Value → Bool
  | .struct _ fields | .pointer _ (some (.struct _ fields)) => embedsRecords fields
  | _ => false

end

mutual

/-- Every field reached from `fields` through embedded fields, with its embedding depth, in the
order a depth-first walk meets them: a field, then the fields reached through it. -/
def fieldPaths : List (Field × Value) → List (Field × Nat)
  | [] => []
  | (field, v) :: rest =>
    (field, 0) :: ((if field.anonymous then (recordPaths v).map fun p => (p.1, p.2 + 1) else []) ++
      fieldPaths rest)

/-- The field paths of a struct or of the struct a non-nil pointer holds. -/
def recordPaths : Value → List (Field × Nat)
  | .struct _ fields | .pointer _ (some (.struct _ fields)) => fieldPaths fields
  | _ => []

end

/-- The names of the field paths: every name that `FieldMap` could promote. -/
def pathNames (fields : List (Field × Value)) : List String :=
  (fieldPaths fields).map fun p => p.1.name

/-- The names of the field paths of a struct or of the struct a non-nil pointer holds. -/
def recordNames (v : Value) : List String :=
  (recordPaths v).map fun p => p.1.name

/-- The names of the embedded field paths of such a record. -/
def recordEmbedded (v : Value) : List String :=
  ((recordPaths v).filter fun p => p.1.anonymous).map fun p => p.1.name

/-- The names of the embedded field paths: the struct types a walk through `fields` enters. -/
def embeddedNames (fields : List (Field × Value)) : List String :=
  ((fieldPaths fields).filter fun p => p.1.anonymous).map fun p => p.1.name

@[simp] theorem pathNames_nil : pathNames [] = [] := rfl

theorem pathNames_cons (field : Field) (v : Value) (rest : List (Field × Value)) :
    pathNames ((field, v) :: rest) = field.name ::
      ((if field.anonymous then recordNames v else []) ++ pathNames rest) := by
  cases anon : field.anonymous <;> simp [pathNames, recordNames, fieldPaths, anon]

theorem embeddedNames_cons (field : Field) (v : Value) (rest : List (Field × Value)) :
    embeddedNames ((field, v) :: rest) =
      (if field.anonymous then field.name :: recordEmbedded v else []) ++ embeddedNames rest := by
  cases anon : field.anonymous <;>
    simp [embeddedNames, recordEmbedded, fieldPaths, anon, List.filter_map, Function.comp_def]

theorem fieldsTyped_iff {env : TypeEnv} {fields : List (Field × Value)} :
    Value.fieldsTyped env fields = true ↔ ∀ p ∈ fields, p.2.type = p.1.type ∧ p.2.typed env = true := by
  induction fields with
  | nil => simp [Value.fieldsTyped]
  | cons p rest ih => simp [Value.fieldsTyped, ih, and_assoc]

theorem embedsRecords_iff {fields : List (Field × Value)} :
    embedsRecords fields = true ↔ ∀ p ∈ fields, p.1.anonymous = true →
      exported p.1.name = true ∧ recordEmbedsRecords p.2 = true := by
  induction fields with
  | nil => simp [embedsRecords]
  | cons p rest ih =>
    cases anon : p.1.anonymous <;> simp [embedsRecords, ih, anon]

theorem mem_pathNames_of_embedded {fields : List (Field × Value)} {t : String}
    (entered : t ∈ embeddedNames fields) : t ∈ pathNames fields := by
  simp only [embeddedNames, List.mem_map, List.mem_filter] at entered
  obtain ⟨p, ⟨member, -⟩, rfl⟩ := entered
  exact List.mem_map_of_mem _ member

theorem mem_recordNames_of_embedded {v : Value} {t : String} (entered : t ∈ recordEmbedded v) :
    t ∈ recordNames v := by
  simp only [recordEmbedded, List.mem_map, List.mem_filter] at entered
  obtain ⟨p, ⟨member, -⟩, rfl⟩ := entered
  exact List.mem_map_of_mem _ member

/-- An order in which `range` may visit the entries of a Go map: any permutation of them, picked
by the runtime. -/
structure RangeOrder where
  visit : {α : Type} → List (String × α) → List (String × α)
  perm : ∀ {α : Type} (entries : List (String × α)), (visit entries).Perm entries

namespace RangeOrder

/-- The order in which the keys were first set. -/
def insertion : RangeOrder :=
  ⟨fun entries => entries, fun _ => .refl _⟩

/-- The order that starts at the second entry and visits the first one last. -/
def rotate : RangeOrder :=
  ⟨fun entries => entries.drop 1 ++ entries.take 1, fun entries => by
    simpa only [List.take_append_drop] using
      (List.perm_append_comm : (entries.drop 1 ++ entries.take 1).Perm _)⟩

/-- The order that visits the entry of `k` last and the others as `insertion` does. -/
def last (k : String) : RangeOrder :=
  ⟨fun entries => entries.filter (fun e => !(e.1 == k)) ++ entries.filter (fun e => e.1 == k),
    fun entries => by simpa using List.filter_append_perm (fun e => !(e.1 == k)) entries⟩

end RangeOrder

/-- The orders of the `range` loops of a run. Go picks the order of each loop afresh: the `k`-th
loop of a call visits its map in `loop k`, and the `k`-th call it makes picks its own from
`call k`, so that no two loops of a run need share an order. -/
structure RangeOrders where
  pick : List Nat → RangeOrder

namespace RangeOrders

def loop (orders : RangeOrders) (k : Nat) : RangeOrder :=
  orders.pick [k]

def call (orders : RangeOrders) (k : Nat) : RangeOrders :=
  ⟨fun path => orders.pick (k :: path)⟩

end RangeOrders

/-- Every loop of the run visits in `order`. -/
def RangeOrder.uniform (order : RangeOrder) : RangeOrders :=
  ⟨fun _ => order⟩

instance : Coe RangeOrder RangeOrders :=
  ⟨RangeOrder.uniform⟩

@[simp] theorem RangeOrder.uniform_loop (order : RangeOrder) (k : Nat) :
    order.uniform.loop k = order := rfl

@[simp] theorem RangeOrder.uniform_call (order : RangeOrder) (k : Nat) :
    order.uniform.call k = order.uniform := rfl

namespace RangeOrders

def insertion : RangeOrders :=
  RangeOrder.insertion.uniform

def rotate : RangeOrders :=
  RangeOrder.rotate.uniform

def last (k : String) : RangeOrders :=
  (RangeOrder.last k).uniform

end RangeOrders

/-- A Go map with string keys: its entries in the order their keys were first set. -/
structure GoMap (α : Type) where
  entries : List (String × α)
  nodup : (entries.map Prod.fst).Nodup

namespace GoMap

variable {α : Type}

def empty : GoMap α :=
  ⟨[], List.nodup_nil⟩

def keys (m : GoMap α) : List String :=
  m.entries.map Prod.fst

/-- `m[k]` with its `ok`. -/
def get (m : GoMap α) (k : String) : Option α :=
  m.entries.lookup k

/-- `m[k] = v`: a new key goes last, a key already there keeps its place. -/
def set (m : GoMap α) (k : String) (v : α) : GoMap α :=
  if member : k ∈ m.keys then
    ⟨m.entries.map fun e => if e.1 = k then (k, v) else e, by
      rw [List.map_map]
      convert m.nodup using 1
      refine List.map_congr_left fun e _ => ?_
      by_cases same : e.1 = k <;> simp [same]⟩
  else
    ⟨m.entries ++ [(k, v)], by
      rw [List.map_append]
      exact m.nodup.append (List.nodup_singleton k) (List.disjoint_singleton.mpr member)⟩

/-- `delete(m, k)`. -/
def delete (m : GoMap α) (k : String) : GoMap α :=
  ⟨m.entries.filter (·.1 ≠ k), m.nodup.sublist ((List.filter_sublist _).map _)⟩

/-- The entries in the order that `for k, v := range m` visits them. -/
def range (m : GoMap α) (order : RangeOrder) : List (String × α) :=
  order.visit m.entries

theorem range_perm (m : GoMap α) (order : RangeOrder) : (m.range order).Perm m.entries :=
  order.perm _

theorem nodup_range (m : GoMap α) (order : RangeOrder) : ((m.range order).map Prod.fst).Nodup :=
  ((m.range_perm order).map _).nodup_iff.mpr m.nodup

@[simp] theorem range_insertion (m : GoMap α) : m.range .insertion = m.entries := rfl

@[simp] theorem get_empty (k : String) : (empty : GoMap α).get k = none := rfl

theorem lookup_cons (e : String × α) (l : List (String × α)) (k : String) :
    (e :: l).lookup k = if k = e.1 then some e.2 else l.lookup k := by
  obtain ⟨key, v⟩ := e
  by_cases same : k = key
  · simp [List.lookup_cons, same]
  · simp [List.lookup_cons, same, beq_false_of_ne same]

private theorem lookup_replace_ne (l : List (String × α)) {k k' : String} (v : α)
    (other : k' ≠ k) :
    (l.map fun e => if e.1 = k then (k, v) else e).lookup k' = l.lookup k' := by
  induction l with
  | nil => rfl
  | cons e l ih =>
    by_cases here : e.1 = k
    · simp [lookup_cons, here, other, ih]
    · simp [lookup_cons, here, ih]

private theorem lookup_replace (l : List (String × α)) (k k' : String) (v : α)
    (member : k ∈ l.map Prod.fst) :
    (l.map fun e => if e.1 = k then (k, v) else e).lookup k' =
      if k' = k then some v else l.lookup k' := by
  by_cases same : k' = k
  · subst same
    induction l with
    | nil => simp at member
    | cons e l ih =>
      by_cases here : e.1 = k'
      · simp [lookup_cons, here]
      · simp only [List.map_cons, List.mem_cons, Ne.symm here, false_or] at member
        simpa [lookup_cons, here, Ne.symm here] using ih member
  · simp [same, lookup_replace_ne l v same]

private theorem lookup_append_new (l : List (String × α)) (k k' : String) (v : α)
    (absent : k ∉ l.map Prod.fst) :
    (l ++ [(k, v)]).lookup k' = if k' = k then some v else l.lookup k' := by
  induction l with
  | nil => by_cases same : k' = k <;> simp [lookup_cons, same]
  | cons e l ih =>
    simp only [List.map_cons, List.mem_cons, not_or] at absent
    by_cases same : k' = e.1
    · simp [lookup_cons, same, Ne.symm absent.1]
    · simp [lookup_cons, same, ih absent.2]

@[simp] theorem get_set (m : GoMap α) (k k' : String) (v : α) :
    (m.set k v).get k' = if k' = k then some v else m.get k' := by
  unfold set get
  split
  · exact lookup_replace _ _ _ _ ‹_›
  · exact lookup_append_new _ _ _ _ ‹_›


theorem mem_keys {m : GoMap α} {k : String} : k ∈ m.keys ↔ (m.get k).isSome := by
  simp only [keys, get, List.lookup_isSome_iff, beq_iff_eq, List.mem_map]
  exact ⟨fun ⟨p, member, same⟩ => ⟨p, member, same.symm⟩,
    fun ⟨p, member, same⟩ => ⟨p, member, same.symm⟩⟩

private theorem lookup_of_mem {l : List (String × α)} (nodup : (l.map Prod.fst).Nodup)
    {k : String} {v : α} (member : (k, v) ∈ l) : l.lookup k = some v := by
  induction l with
  | nil => simp at member
  | cons e l ih =>
    simp only [List.map_cons, List.nodup_cons] at nodup
    rcases List.mem_cons.mp member with rfl | member
    · simp [lookup_cons]
    · have other : k ≠ e.1 := fun same => nodup.1 (same ▸ List.mem_map_of_mem Prod.fst member)
      simp [lookup_cons, other, ih nodup.2 member]

theorem get_of_mem {m : GoMap α} {k : String} {v : α} (member : (k, v) ∈ m.entries) :
    m.get k = some v :=
  lookup_of_mem m.nodup member

theorem lookup_of_not_mem {l : List (String × α)} {k : String} (absent : k ∉ l.map Prod.fst) :
    l.lookup k = none :=
  List.lookup_eq_none_iff.mpr fun _ member =>
    bne_iff_ne.mpr fun same => absent (same ▸ List.mem_map_of_mem Prod.fst member)

private theorem lookup_eq_some {l : List (String × α)} (nodup : (l.map Prod.fst).Nodup)
    {k : String} {v : α} : l.lookup k = some v ↔ (k, v) ∈ l :=
  ⟨fun found => by
    obtain ⟨_, _, rfl, _⟩ := List.lookup_eq_some_iff.mp found
    simp, lookup_of_mem nodup⟩

theorem lookup_range (m : GoMap α) (order : RangeOrder) (k : String) :
    (m.range order).lookup k = m.get k :=
  Option.ext fun _ => (lookup_eq_some (m.nodup_range order)).trans <|
    (m.range_perm order).mem_iff.trans (lookup_eq_some m.nodup).symm

@[simp] theorem get_delete (m : GoMap α) (k k' : String) :
    (m.delete k).get k' = if k' = k then none else m.get k' := by
  show (m.entries.filter (·.1 ≠ k)).lookup k' = if k' = k then none else m.entries.lookup k'
  induction m.entries with
  | nil => simp
  | cons e l ih =>
    by_cases here : e.1 = k
    · have drop : (e :: l).filter (·.1 ≠ k) = l.filter (·.1 ≠ k) := by simp [here]
      rw [drop, ih, lookup_cons, here]
      by_cases same : k' = k <;> simp [same]
    · have keep : (e :: l).filter (·.1 ≠ k) = e :: l.filter (·.1 ≠ k) := by simp [here]
      rw [keep, lookup_cons, lookup_cons, ih]
      by_cases same : k' = e.1 <;> simp [same, here]

end GoMap

end Converge.Reflect
