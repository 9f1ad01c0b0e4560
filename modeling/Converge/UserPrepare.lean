import Mathlib.Data.List.Basic

/-!
# `Prepare` of the `user.user` resource

`(*Preparer).Prepare` is the input-checking half of the user resource: it refuses a UID or GID of
`math.MaxUint32`, since the largest ID on Linux is one less, and a `move_dir` without a
`home_dir`; it writes the default state into the preparer itself; and it makes the `User` task
from the preparer's fields.

`prepare_ok_iff` says what it accepts and `prepare_error` what each refusal says: each names the
parameter it refuses. `prepare_again`: preparing the preparer that `Prepare` leaves behind makes
the same task again, so the default it writes passes its own checks.
-/

namespace Converge.UserResource

/-- `math.MaxUint32`. -/
def maxUint32 : UInt32 := 4294967295

/-- `StatePresent`, the default state: the user should be present. -/
def statePresent : String := "present"

/-- `Preparer`: the fields of a `user.user` block. -/
structure Preparer where
  username : String
  newUsername : String
  uid : Option UInt32
  groupName : String
  gid : Option UInt32
  name : String
  homeDir : String
  moveDir : Bool
  state : String
  deriving DecidableEq, Repr

/-- The fields of the `User` task that `Prepare` sets; `uid` and `gid` are `none` where it leaves
them as `NewUser` made them. -/
structure User where
  username : String
  newUsername : String
  groupName : String
  name : String
  homeDir : String
  moveDir : Bool
  state : String
  uid : Option String
  gid : Option String
  deriving DecidableEq, Repr

/-- The range check on the `uid` and `gid` parameters. -/
def checkID (param : String) : Option UInt32 → Except String Unit
  | some id =>
    if id = maxUint32 then .error ("user \"" ++ param ++ "\" parameter out of range") else .ok ()
  | none => .ok ()

/-- `if p.State == "" { p.State = StatePresent }`. -/
def Preparer.withDefaultState (p : Preparer) : Preparer :=
  if p.state == "" then { p with state := statePresent } else p

/-- The task `Prepare` makes: `NewUser` with the preparer's fields copied in, and the IDs printed
with `%v`. -/
def Preparer.newUser (p : Preparer) : User :=
  { username := p.username, newUsername := p.newUsername, groupName := p.groupName,
    name := p.name, homeDir := p.homeDir, moveDir := p.moveDir, state := p.state,
    uid := p.uid.map fun id => toString id.toNat, gid := p.gid.map fun id => toString id.toNat }

/-- `(*Preparer).Prepare`: the preparer with its default state written, and the task. -/
def Preparer.prepare (p : Preparer) : Except String (Preparer × User) := do
  checkID "uid" p.uid
  checkID "gid" p.gid
  if p.moveDir && p.homeDir == "" then
    throw "user \"home_dir\" parameter required with \"move_dir\" parameter"
  let p := p.withDefaultState
  pure (p, p.newUser)

theorem checkID_eq_ok (param : String) (id : Option UInt32) :
    checkID param id = .ok () ↔ id ≠ some maxUint32 := by
  cases id with
  | none => simp [checkID]
  | some id => by_cases top : id = maxUint32 <;> simp [checkID, top]

theorem prepare_cases (p : Preparer) :
    p.prepare = if p.uid = some maxUint32 then .error "user \"uid\" parameter out of range"
      else if p.gid = some maxUint32 then .error "user \"gid\" parameter out of range"
      else if p.moveDir = true ∧ p.homeDir = "" then
        .error "user \"home_dir\" parameter required with \"move_dir\" parameter"
      else .ok (p.withDefaultState, p.withDefaultState.newUser) := by
  obtain ⟨username, newUsername, uid, groupName, gid, name, homeDir, moveDir, state⟩ := p
  rcases uid with _ | uid <;> rcases gid with _ | gid <;>
    simp only [Preparer.prepare, checkID, bind, Except.bind, pure, Except.pure, throw,
      throwThe, MonadExceptOf.throw, beq_iff_eq, Bool.and_eq_true, reduceCtorEq, Option.some.injEq,
      if_false] <;>
    split_ifs <;> rfl

theorem prepare_ok_iff (p : Preparer) :
    (∃ r, p.prepare = .ok r) ↔
      p.uid ≠ some maxUint32 ∧ p.gid ≠ some maxUint32 ∧ (p.moveDir = true → p.homeDir ≠ "") := by
  rw [prepare_cases]
  by_cases uid : p.uid = some maxUint32
  · simp [uid]
  by_cases gid : p.gid = some maxUint32
  · simp [uid, gid]
  by_cases home : p.moveDir = true ∧ p.homeDir = ""
  · simp [uid, gid, home]
  · simp only [uid, gid, home, if_false, Except.ok.injEq, exists_eq', ne_eq, not_false_eq_true,
      true_and, true_iff]
    exact fun moved => (home ⟨moved, ·⟩)

theorem prepare_error {p : Preparer} {e : String} (refused : p.prepare = .error e) :
    p.uid = some maxUint32 ∧ e = "user \"uid\" parameter out of range" ∨
      p.uid ≠ some maxUint32 ∧ p.gid = some maxUint32 ∧ e = "user \"gid\" parameter out of range" ∨
      p.uid ≠ some maxUint32 ∧ p.gid ≠ some maxUint32 ∧ p.moveDir = true ∧ p.homeDir = "" ∧
        e = "user \"home_dir\" parameter required with \"move_dir\" parameter" := by
  rw [prepare_cases] at refused
  split_ifs at refused with uid gid home <;> cases refused
  · exact .inl ⟨uid, rfl⟩
  · exact .inr (.inl ⟨uid, gid, rfl⟩)
  · exact .inr (.inr ⟨uid, gid, home.1, home.2, rfl⟩)

theorem prepare_state {p p' : Preparer} {usr : User} (run : p.prepare = .ok (p', usr)) :
    ∃ state, p' = { p with state } ∧ state ≠ "" ∧
      state = (if p.state = "" then statePresent else p.state) ∧ usr.state = state := by
  rw [prepare_cases] at run
  split_ifs at run
  cases run
  refine ⟨p.withDefaultState.state, ?_, ?_, ?_, rfl⟩ <;> unfold Preparer.withDefaultState <;>
    by_cases state : p.state = "" <;> simp [state, statePresent]

theorem prepare_again {p p' : Preparer} {usr : User} (run : p.prepare = .ok (p', usr)) :
    p'.prepare = .ok (p', usr) := by
  obtain ⟨state, rfl, stated, -, -⟩ := prepare_state run
  obtain ⟨uid, gid, home⟩ := (prepare_ok_iff p).mp ⟨_, run⟩
  have moved : ¬(p.moveDir = true ∧ p.homeDir = "") := fun ⟨moved, empty⟩ => home moved empty
  have kept : ({ p with state } : Preparer).withDefaultState = { p with state } := by
    simp [Preparer.withDefaultState, stated]
  rw [prepare_cases] at run ⊢
  simp only [uid, gid, moved, if_false] at run ⊢
  obtain ⟨same, rfl⟩ := Prod.mk.inj (Except.ok.inj run)
  rw [kept, same]

theorem prepare_again_deploy :
    (⟨"deploy", "", some 1000, "", none, "", "/home/deploy", true, ""⟩ : Preparer).prepare =
        .ok (⟨"deploy", "", some 1000, "", none, "", "/home/deploy", true, "present"⟩,
          ⟨"deploy", "", "", "", "/home/deploy", true, "present", some "1000", none⟩) ∧
      (⟨"deploy", "", some 1000, "", none, "", "/home/deploy", true, "present"⟩ : Preparer).prepare =
        .ok (⟨"deploy", "", some 1000, "", none, "", "/home/deploy", true, "present"⟩,
          ⟨"deploy", "", "", "", "/home/deploy", true, "present", some "1000", none⟩) :=
  have run : (⟨"deploy", "", some 1000, "", none, "", "/home/deploy", true, ""⟩ : Preparer).prepare =
      .ok (⟨"deploy", "", some 1000, "", none, "", "/home/deploy", true, "present"⟩,
        ⟨"deploy", "", "", "", "/home/deploy", true, "present", some "1000", none⟩) := rfl
  ⟨run, prepare_again run⟩

end Converge.UserResource
