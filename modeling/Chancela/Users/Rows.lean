import Chancela.Foundation.WriteBack
import Chancela.Users.Owners

/-! # The rows of the users

On a row-backed deployment a request changes a record in memory under the lock, lets the lock
go, and then writes the copy it took to the row of the user; the whole table is written under
the lock. The order of the row writes is not the order of the changes. The row of a user is
the user in memory if the last write of it wrote a copy taken after the last change
(`Chancela.UserSite.stored_eq_users`), and may bring a removed role back otherwise
(`Chancela.UserSite.not_stored_eq_users`).
-/

namespace Chancela

open Interleave WriteBack

/-- A change of a record that keeps its identifier. -/
structure RecordEdit where
  apply : UserRecord → UserRecord
  keepsId : ∀ user, (apply user).id = user.id

/-- The writers of the users: a request of the account endpoints, any other handler that
changes a record under the lock and ends in `record_user_event`, and a caller of
`persist_users` at each of its turns. -/
inductive RowWriter where
  | request (request : UserRequest)
  | recordUserEvent (target : Uuid) (edit : RecordEdit)
  | persistUsers

namespace UserSite

variable [Crates]

def serveRow (writer : RowWriter) (around : UserSurroundings) (site : UserSite)
    (stage : UserStage) : UserSite × UserStage :=
  match writer with
  | .request request => serve request around site stage
  | .persistUsers => (site.saving UserSite.persistUsers around.persisted, stage)
  | .recordUserEvent target edit =>
      match stage with
      | .arrived =>
          match site.users.get target with
          | none => (site, .refused .notFound)
          | some user =>
              ({ site with users := site.users.insert (edit.apply user) },
                .changed ⟨false, false, none⟩ (edit.apply user))
      | stage => finish around site stage

def serveRows {ι : Type*} (writers : ι → RowWriter) (party : ι) (around : UserSurroundings)
    (site : UserSite) (stage : UserStage) : UserSite × UserStage :=
  serveRow (writers party) around site stage

end UserSite

def wrote (event : WriteBack.Event Uuid) : Except AccountError Unit → WriteBack.Event Uuid
  | .ok _ => event
  | .error _ => .quiet

/-- What a section of a request did to memory and rows, by the stages around it. -/
def UserStage.event (around : UserSurroundings) :
    UserStage → UserStage → WriteBack.Event Uuid
  | .proving _, .savingAssertion _ copy => .changed copy.id
  | .savingAssertion _ copy, .noting _ _ => .saved copy.id
  | .noting _ _, .savingUse _ copy _ => .copied copy.id
  | .savingUse _ copy _, .noting _ _ => wrote (.saved copy.id) around.useSaved
  | .provingCode me _, .savingCode _ _ => .touched me.id
  | .savingCode _ _, .proved _ _ => .savedAll
  | .arrived, .changed _ copy => .changed copy.id
  | .ready _, .changed _ copy => .changed copy.id
  | .ready section_, .refused _ => .touched (section_.target around.newId)
  | .cleared _ copy, .persisted _ _ => .saved copy.id
  | _, _ => .quiet

def RowWriter.event (writer : RowWriter) (around : UserSurroundings) (before after : UserStage) :
    WriteBack.Event Uuid :=
  match writer with
  | .persistUsers => wrote .savedAll around.persisted
  | _ => before.event around after

/-- The copy of a record a request is about to write out. -/
def UserStage.held : UserStage → Option (Uuid × UserRecord)
  | .savingAssertion _ copy | .savingUse _ copy _ | .changed _ copy | .cleared _ copy =>
      some (copy.id, copy)
  | _ => none

def RowWriter.Returned (writer : RowWriter) (stage : UserStage) : Prop :=
  match writer with
  | .persistUsers => True
  | _ => ∃ rest copy, stage = .answered rest copy

namespace UserSite

section Observed

variable [Crates] {ι : Type*} [DecidableEq ι]

/-- The sections of many writers, with what of the rows is fresh. -/
def observed (writers : ι → RowWriter) (party : ι) (around : UserSurroundings)
    (shared : UserSite × (Uuid → Freshness ι)) (stage : UserStage) :
    (UserSite × (Uuid → Freshness ι)) × UserStage :=
  let next := serveRow (writers party) around shared.1 stage
  ((next.1, after party shared.2 ((writers party).event around stage next.2)), next.2)

/-- Nothing written out is older than what is in memory. -/
def settledWorld (start : World UserSite ι UserStage) :
    World (UserSite × (Uuid → Freshness ι)) ι UserStage :=
  ⟨(start.shared, settled), start.progress⟩

/-- The last write of a user's row in the run wrote a copy taken after the last change of the
user. -/
def WrittenInOrder (writers : ι → RowWriter) (start : World UserSite ι UserStage)
    (moves : List (ι × UserSurroundings)) (id : Uuid) : Prop :=
  ((moves.foldl (turn (observed writers)) (settledWorld start)).shared.2 id).row = true

instance decidableWrittenInOrder (writers : ι → RowWriter) (start : World UserSite ι UserStage)
    (moves : List (ι × UserSurroundings)) (id : Uuid) :
    Decidable (WrittenInOrder writers start moves id) :=
  inferInstanceAs (Decidable (_ = true))

theorem erase_observed (writers : ι → RowWriter) (moves : List (ι × UserSurroundings))
    (world : World (UserSite × (Uuid → Freshness ι)) ι UserStage) :
    moves.foldl (turn (serveRows writers)) ⟨world.shared.1, world.progress⟩ =
      ⟨(moves.foldl (turn (observed writers)) world).shared.1,
        (moves.foldl (turn (observed writers)) world).progress⟩ := by
  induction moves generalizing world with
  | nil => rfl
  | cons move rest ih => exact ih (turn (observed writers) world move)

end Observed

section Steps

variable {site : UserSite} {copy : UserRecord} {around : UserSurroundings}

theorem get_insert_users (users : UserMap) (user : UserRecord) :
    (users.insert user).get = Function.update users.get user.id (some user) := by
  funext id
  rw [Table.get_insert, Function.update_apply]

theorem step_persistUser (rows : site.backing = .sidecarsDbBacked)
    {held' : Option (Uuid × UserRecord)} (kept : held' = some (copy.id, copy) ∨ held' = none) :
    Step site.users.get site.stored (site.persistUser copy).users.get
      (site.persistUser copy).stored (some (copy.id, copy)) held' (.saved copy.id) := by
  have written : site.persistUser copy =
      { site with stored := site.stored.insert copy.id copy } := by
    rw [persistUser, rows]
  rw [written]
  exact .saved rfl rfl rfl kept

theorem step_persistUsers (rows : site.backing = .sidecarsDbBacked)
    {held held' : Option (Uuid × UserRecord)} (kept : held' = held ∨ held' = none) :
    Step site.users.get site.stored site.persistUsers.users.get site.persistUsers.stored held held'
      .savedAll := by
  have written : site.persistUsers = { site with stored := site.users.get } := by
    rw [persistUsers, rows]
  rw [written]
  exact .savedAll rfl rfl kept

theorem step_insert {held : Option (Uuid × UserRecord)} :
    Step site.users.get site.stored (site.users.insert copy).get site.stored held
      (some (copy.id, copy)) (.changed copy.id) :=
  .changed (get_insert_users site.users copy) rfl rfl

theorem held_arrive (request : UserRequest) :
    (site.arrive request around).held = none ∧
      UserStage.event around .arrived (site.arrive request around) = .quiet := by
  have outcomes : ∀ {α : Type} (next : α → UserStage) (outcome : Except AccountError α),
      (∀ value, (next value).held = none ∧
        UserStage.event around .arrived (next value) = .quiet) →
      (UserStage.ofOutcome next outcome).held = none ∧
        UserStage.event around .arrived (UserStage.ofOutcome next outcome) = .quiet := by
    intro α next outcome quiet
    cases outcome with
    | ok value => exact quiet value
    | error fault => exact ⟨rfl, rfl⟩
  cases request with
  | credential session target operation offered =>
      cases operation with
      | setSecret password => exact outcomes _ _ fun _ => ⟨rfl, rfl⟩
      | _ => exact ⟨rfl, rfl⟩
  | _ => exact outcomes _ _ fun _ => ⟨rfl, rfl⟩

theorem held_prepare (request : UserRequest) (requester : Option Uuid)
    (snapshot : Option UserRecord) : (prepare request around requester snapshot).held = none := by
  unfold prepare
  split
  · split <;> rfl
  · rfl

theorem step_finish (rows : site.backing = .sidecarsDbBacked) (stage : UserStage) :
    Step site.users.get site.stored (finish around site stage).1.users.get
      (finish around site stage).1.stored stage.held (finish around site stage).2.held
      (stage.event around (finish around site stage).2) := by
  cases stage with
  | changed rest copy =>
      unfold finish
      dsimp only
      split
      · cases around.cleared with
        | ok _ => exact .quiet rfl rfl (.inl rfl)
        | error fault => exact .quiet rfl rfl (.inr rfl)
      · exact .quiet rfl rfl (.inl rfl)
  | cleared rest copy =>
      unfold finish
      cases around.persisted with
      | ok _ => exact step_persistUser rows (.inr rfl)
      | error fault => exact .quiet rfl rfl (.inr rfl)
  | persisted rest copy =>
      unfold finish
      cases around.recorded with
      | ok _ => exact .quiet rfl rfl (.inr rfl)
      | error fault => exact .quiet rfl rfl (.inr rfl)
  | recorded rest copy =>
      unfold finish
      dsimp only
      split
      · cases around.revoked with
        | ok _ => exact .quiet rfl rfl (.inr rfl)
        | error fault => exact .quiet rfl rfl (.inr rfl)
      · exact .quiet rfl rfl (.inr rfl)
  | _ => exact .quiet rfl rfl (.inl rfl)

variable [Crates]

/-- **A section of a request does what its event says.** -/
theorem step_serve (rows : site.backing = .sidecarsDbBacked) (request : UserRequest)
    (stage : UserStage) :
    Step site.users.get site.stored (serve request around site stage).1.users.get
      (serve request around site stage).1.stored stage.held (serve request around site stage).2.held
      (stage.event around (serve request around site stage).2) := by
  cases stage with
  | arrived =>
      obtain ⟨released, quiet⟩ := @held_arrive site around request
      unfold serve
      dsimp only
      rw [quiet]
      exact .quiet rfl rfl (.inr released)
  | read requester snapshot =>
      exact .quiet rfl rfl (.inr (held_prepare request requester snapshot))
  | proving me =>
      unfold serve
      dsimp only
      split
      · exact .quiet rfl rfl (.inr rfl)
      · split
        · exact .quiet rfl rfl (.inr rfl)
        · exact step_insert
  | savingAssertion me copy =>
      unfold serve
      cases around.assertionSaved with
      | ok _ => exact step_persistUser rows (.inr rfl)
      | error fault => exact .quiet rfl rfl (.inr rfl)
  | noting me left =>
      cases left with
      | zero => exact .quiet rfl rfl (.inr rfl)
      | succ left =>
          unfold serve
          dsimp only
          split
          · exact .quiet rfl rfl (.inr rfl)
          · rename_i copy found
            have keyed : copy.id = me.id := Table.key_of_get found
            exact .copied rfl rfl (keyed ▸ found) rfl
  | savingUse me copy left =>
      unfold serve
      dsimp only [UserStage.event]
      cases around.useSaved with
      | ok _ => exact step_persistUser rows (.inr rfl)
      | error fault => exact .quiet rfl rfl (.inr rfl)
  | provingCode me verified =>
      unfold serve
      dsimp only
      split
      · exact .quiet rfl rfl (.inr rfl)
      · exact .quiet rfl rfl (.inr rfl)
      · exact .touched (fun _ _ => rfl) rfl rfl
      · rename_i step user _ found
        have keyed : user.id = me.id := Table.key_of_get found
        apply Step.touched _ rfl rfl
        intro other apart
        rw [Table.get_insert, if_neg]
        exact fun same => apart (same.trans keyed)
  | savingCode me verified =>
      unfold serve
      cases around.codeSaved with
      | ok _ => exact step_persistUsers rows (.inl rfl)
      | error fault => exact .quiet rfl rfl (.inr rfl)
  | proved me verified =>
      unfold serve
      dsimp only
      cases decideStepUp me (reauthOf request) verified with
      | ok _ => exact .quiet rfl rfl (.inr rfl)
      | error fault => exact .quiet rfl rfl (.inr rfl)
  | steppedUp =>
      unfold serve
      dsimp only
      cases resolveMe site.users (sessionOf request) with
      | ok me => exact .quiet rfl rfl (.inr rfl)
      | error fault => exact .quiet rfl rfl (.inr rfl)
  | ready section_ =>
      unfold serve
      dsimp only
      cases outcome : (section_.run site.users around.newId around.createdAt).2 with
      | ok record =>
          rw [LockedSection.insert_of_run_ok outcome]
          exact step_insert
      | error fault =>
          exact .touched (fun _ apart => LockedSection.get_run_of_ne apart) rfl rfl
  | changed rest copy => exact step_finish rows _
  | cleared rest copy => exact step_finish rows _
  | persisted rest copy => exact step_finish rows _
  | recorded rest copy => exact step_finish rows _
  | answered rest copy => exact step_finish rows _
  | refused fault => exact step_finish rows _

/-- **A section of a writer does what its event says.** -/
theorem step_serveRow (rows : site.backing = .sidecarsDbBacked) (writer : RowWriter)
    (stage : UserStage) :
    Step site.users.get site.stored (serveRow writer around site stage).1.users.get
      (serveRow writer around site stage).1.stored stage.held
      (serveRow writer around site stage).2.held
      (writer.event around stage (serveRow writer around site stage).2) := by
  cases writer with
  | request request => exact step_serve rows request stage
  | persistUsers =>
      unfold serveRow RowWriter.event
      dsimp only
      cases around.persisted with
      | ok _ => exact step_persistUsers rows (.inl rfl)
      | error fault => exact .quiet rfl rfl (.inl rfl)
  | recordUserEvent target edit =>
      cases stage with
      | arrived =>
          unfold serveRow
          dsimp only
          split
          · exact .quiet rfl rfl (.inr rfl)
          · exact step_insert
      | _ => exact step_finish rows _

theorem backing_serveRow (writer : RowWriter) (stage : UserStage) :
    (serveRow writer around site stage).1.backing = site.backing := by
  cases writer with
  | request request => exact backing_serve request around site stage
  | persistUsers => exact backing_saving backing_persistUsers
  | recordUserEvent target edit =>
      cases stage with
      | arrived =>
          unfold serveRow
          dsimp only
          split <;> rfl
      | _ => exact backing_finish around site _

end Steps

section Runs

variable [Crates] {ι : Type*} [DecidableEq ι]

/-- What of rows and copies is noted as fresh is what memory holds. -/
structure RowsFresh (world : World (UserSite × (Uuid → Freshness ι)) ι UserStage) : Prop where
  backing : world.shared.1.backing = .sidecarsDbBacked
  consistent : Consistent world.shared.1.users.get world.shared.1.stored
    (fun party => (world.progress party).held) world.shared.2

theorem RowsFresh.turn {writers : ι → RowWriter}
    {world : World (UserSite × (Uuid → Freshness ι)) ι UserStage} (fresh : RowsFresh world)
    (move : ι × UserSurroundings) : RowsFresh (turn (observed writers) world move) where
  backing := (backing_serveRow _ _).trans fresh.backing
  consistent := by
    have step := fresh.consistent.step
      (@step_serveRow world.shared.1 move.2 _ fresh.backing (writers move.1)
        (world.progress move.1))
    have copies : (fun party => ((Interleave.turn (observed writers) world move).progress
        party).held) = Function.update (fun party => (world.progress party).held) move.1
          (serveRow (writers move.1) move.2 world.shared.1 (world.progress move.1)).2.held := by
      funext party
      by_cases mine : party = move.1
      · subst mine
        rw [progress_turn_self, Function.update_self]
        rfl
      · rw [progress_turn_of_ne world move mine, Function.update_of_ne mine]
    rw [copies]
    exact step

/-- **The stored row of a user is the user in memory** in every run that wrote the row in
order: its last write took a copy taken after the last change. -/
theorem stored_eq_users (writers : ι → RowWriter) {start : World UserSite ι UserStage}
    (rows : start.shared.backing = .sidecarsDbBacked)
    (same : ∀ id, start.shared.stored id = start.shared.users.get id)
    (moves : List (ι × UserSurroundings)) {id : Uuid}
    (inOrder : WrittenInOrder writers start moves id) :
    (moves.foldl (turn (serveRows writers)) start).shared.stored id =
      (moves.foldl (turn (serveRows writers)) start).shared.users.get id := by
  have initial : RowsFresh (settledWorld start) := ⟨rows, consistent_settled same _⟩
  have fresh := @Run.forall_mem_states_of_kept _ _ (turn (observed writers)) RowsFresh
    (fun _ move holds => holds.turn move) (settledWorld start) initial moves _
    (Run.foldl_mem_states _ _)
  have erased := erase_observed writers moves (settledWorld start)
  have ends : moves.foldl (turn (serveRows writers)) start = _ := erased
  rw [ends]
  exact fresh.consistent.row id inOrder

end Runs

/-! ### A role given and taken back -/

open scoped Reference

def auditor : RoleAssignment := ⟨⟨77⟩, .global⟩

/-- One request gives the role, the other takes it back. -/
def giveAndTake (party : Bool) : RowWriter :=
  if party then .request (.assignRole ⟨2⟩ auditor) else .request (.unassignRole ⟨2⟩ auditor)

def oneAfterTheOther : List (Bool × UserSurroundings) :=
  List.replicate 6 (true, calm) ++ List.replicate 6 (false, calm)

theorem stored_eq_users_oneAfterTheOther :
    (oneAfterTheOther.foldl (turn (serveRows giveAndTake))
      ⟨twoOwners, fun _ => .arrived⟩).shared.stored ⟨2⟩ =
    (oneAfterTheOther.foldl (turn (serveRows giveAndTake))
      ⟨twoOwners, fun _ => .arrived⟩).shared.users.get ⟨2⟩ :=
  stored_eq_users giveAndTake rfl (fun _ => rfl) oneAfterTheOther (by decide +kernel)

/-- The first request pauses with its copy while the second one runs. -/
def pausedBeforePersist : List (Bool × UserSurroundings) :=
  List.replicate 2 (true, calm) ++ List.replicate 6 (false, calm) ++ List.replicate 4 (true, calm)

/-- Both requests are answered, and the row has the role that was taken back. -/
theorem not_stored_eq_users :
    ¬∀ (writers : Bool → RowWriter) (start : World UserSite Bool UserStage)
        (moves : List (Bool × UserSurroundings)),
      start.shared.backing = .sidecarsDbBacked →
      (∀ id, start.shared.stored id = start.shared.users.get id) →
      (∀ party, start.progress party = .arrived) →
      (∀ move ∈ moves, move.2 = calm) →
      (∀ party, (writers party).Returned
        ((moves.foldl (turn (serveRows writers)) start).progress party)) →
      ∀ id, (moves.foldl (turn (serveRows writers)) start).shared.stored id =
        (moves.foldl (turn (serveRows writers)) start).shared.users.get id := by
  intro agree
  have revived := agree giveAndTake ⟨twoOwners, fun _ => .arrived⟩ pausedBeforePersist rfl
    (fun _ => rfl) (fun _ => rfl) (fun move member => ?_) (fun party => ?_) ⟨2⟩
  · revert revived
    decide +kernel
  · rcases List.mem_append.mp member with early | late
    · rcases List.mem_append.mp early with first | other
      · rw [List.eq_of_mem_replicate first]
      · rw [List.eq_of_mem_replicate other]
    · rw [List.eq_of_mem_replicate late]
  · cases party <;> exact ⟨_, _, rfl⟩

end UserSite

end Chancela
