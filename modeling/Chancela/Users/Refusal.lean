import Chancela.Users.Owners
import Chancela.Users.Unchanged
import Mathlib.Logic.Function.Iterate

/-! # What a refused change leaves

One request on its own, section after section, until it is answered or refused. The fields are
changed in place before the writes that may fail, and a name before the address is looked at,
so a refusal may come after the record was changed. When a refused request leaves every record
as it found it is decided on the request, the users it finds and how the writes end
(`Chancela.UserSite.refused_spares_iff`).
-/

namespace Chancela

/-- An outcome leads on with its value, or back with its refusal. -/
def LeadsOn {α : Type} (onward : α → Prop) (back : Prop) : Except AccountError α → Prop
  | .ok value => onward value
  | .error _ => back

theorem leadsOn_unit_iff {onward back : Prop} {outcome : Except AccountError Unit} :
    LeadsOn (fun _ => onward) back outcome ↔
      (outcome = .ok () → onward) ∧ (outcome ≠ .ok () → back) := by
  cases outcome with
  | ok _ => exact ⟨fun holds => ⟨fun _ => holds, fun refused => (refused rfl).elim⟩,
      fun holds => holds.1 rfl⟩
  | error fault =>
      refine ⟨fun holds => ⟨fun accepted => ?_, fun _ => holds⟩, fun holds => holds.2 ?_⟩
      · cases accepted
      · intro accepted
        cases accepted

theorem leadsOn_bind {α β : Type} {onward : β → Prop} {back : Prop}
    {outcome : Except AccountError α}
    {next : α → Except AccountError β} :
    LeadsOn onward back (outcome.bind next) ↔
      LeadsOn (fun value => LeadsOn onward back (next value)) back outcome := by
  cases outcome <;> exact Iff.rfl

/-! ### What a step-up notes -/

namespace UserSurroundings

variable (around : UserSurroundings) (me : UserRecord)

def assertionNote : UserRecord := (around.assertion.bind (·.write me)).getD me

def codeNote : UserRecord :=
  match around.code with
  | .ok (some step) => writeAcceptedStep step me
  | _ => me

theorem eq_assertionNote :
    around.assertionNote me = { me with passkeys := (around.assertionNote me).passkeys } := by
  unfold assertionNote
  cases around.assertion with
  | none => rfl
  | some use =>
      rw [Option.bind_some]
      cases wrote : use.write me with
      | none => rfl
      | some written =>
          obtain ⟨passkeys, rfl⟩ := PasskeyUse.eq_of_write wrote
          rfl

theorem eq_codeNote : around.codeNote me = { me with totp := (around.codeNote me).totp } := by
  unfold codeNote
  split <;> rfl

/-- The passkey counts as a proof unless its note is lost. -/
def assertionProves : Bool :=
  match around.assertion with
  | none => false
  | some use => (use.write me).isNone || decide (around.assertionSaved = .ok ())

/-- Whether the passkey or the code proves the user, if the code is not refused. -/
def codeProves (verified : Bool) : Except AccountError Bool :=
  match around.code with
  | .error fault => .error fault
  | .ok none => .ok verified
  | .ok (some _) => around.codeSaved.map fun _ => true

def stepUpAnswer (reauth : ReAuth) : Except AccountError Unit :=
  (around.codeProves (around.assertionProves me)).bind (decideStepUp me reauth)

/-- What the passkey and the code write is on the record already. -/
def NotesNothing : Prop :=
  around.assertionNote me = me ∧ around.codeNote me = me

theorem noted_eq_iff :
    around.codeNote (around.assertionNote me) = me ↔ around.NotesNothing me := by
  constructor
  · intro same
    have passkeys := congrArg UserRecord.passkeys same
    rw [eq_codeNote] at passkeys
    have asserted : around.assertionNote me = me := by
      rw [eq_assertionNote, show (around.assertionNote me).passkeys = me.passkeys from passkeys]
    rw [asserted] at same
    exact ⟨asserted, same⟩
  · intro nothing
    rw [nothing.1, nothing.2]

end UserSurroundings

theorem exists_named_of_stepUpUser {users : UserMap} {session : Option String} {me : UserRecord}
    (resolved : stepUpUser users session = .ok me) :
    ∃ username, session = some username ∧ users.named username = some me := by
  unfold stepUpUser at resolved
  split at resolved
  · rename_i user found
    rw [← Except.ok.inj resolved]
    exact Option.bind_eq_some_iff.mp found
  · cases resolved

/-- The users with what a step-up notes on the record of one. -/
structure StepUpNotes (users : UserMap) (me noted : UserRecord) (after : UserMap) : Prop where
  fields : ∃ passkeys totp, noted = { me with passkeys := passkeys, totp := totp }
  placed : (after = users ∧ noted = me) ∨ after = users.insert noted

namespace StepUpNotes

variable {users after : UserMap} {me noted : UserRecord}

theorem refl (users : UserMap) (me : UserRecord) : StepUpNotes users me me users :=
  ⟨⟨me.passkeys, me.totp, rfl⟩, .inl ⟨rfl, rfl⟩⟩

theorem id_eq (notes : StepUpNotes users me noted after) : noted.id = me.id := by
  obtain ⟨passkeys, totp, rfl⟩ := notes.fields
  rfl

theorem get_self (notes : StepUpNotes users me noted after) (found : users.get me.id = some me) :
    after.get me.id = some noted := by
  rcases notes.placed with ⟨rfl, rfl⟩ | rfl
  · exact found
  · rw [← notes.id_eq]
    exact Table.get_insert_self

theorem get_eq_iff (notes : StepUpNotes users me noted after) (found : users.get me.id = some me) :
    after.get = users.get ↔ noted = me := by
  constructor
  · intro same
    have present := notes.get_self found
    rw [same, found] at present
    exact (Option.some.inj present).symm
  · intro same
    rcases notes.placed with ⟨rfl, -⟩ | rfl
    · rfl
    · rw [UserMap.get_insert_eq_get_iff, same]
      exact found

theorem insert (notes : StepUpNotes users me noted after) {next : UserRecord}
    (fields : ∃ passkeys totp, next = { noted with passkeys := passkeys, totp := totp }) :
    StepUpNotes users me next (after.insert next) := by
  have named : next.id = noted.id := by
    obtain ⟨passkeys, totp, rfl⟩ := fields
    rfl
  refine ⟨?_, .inr ?_⟩
  · obtain ⟨passkeys, totp, rfl⟩ := fields
    obtain ⟨_, _, rfl⟩ := notes.fields
    exact ⟨passkeys, totp, rfl⟩
  · rcases notes.placed with ⟨rfl, -⟩ | rfl
    · rfl
    · exact Table.insert_insert named

theorem named (notes : StepUpNotes users me noted after) {username : String}
    (found : users.named username = some me) : after.named username = some noted := by
  have called : me.username = username := of_decide_eq_true
    (List.find?_some (p := fun user : UserRecord => decide (user.username = username)) found)
  rcases notes.placed with ⟨rfl, rfl⟩ | rfl
  · exact found
  · obtain ⟨passkeys, totp, rfl⟩ := notes.fields
    have present : users.get me.id = some me :=
      Table.mem_values.mp (List.mem_of_find?_eq_some found)
    obtain ⟨rest, -, inserted⟩ := @Table.exists_values_insert _ _ _ _ users
      { me with passkeys := passkeys, totp := totp } me present
    rw [UserMap.named, inserted]
    exact List.find?_cons_of_pos (decide_eq_true called)

theorem deactivationBlock_eq (notes : StepUpNotes users me noted after)
    (found : users.get me.id = some me) :
    deactivationBlock after noted = deactivationBlock users me := by
  rcases notes.placed with ⟨rfl, rfl⟩ | rfl
  · rfl
  · obtain ⟨passkeys, totp, rfl⟩ := notes.fields
    obtain ⟨rest, order, inserted⟩ := @Table.exists_values_insert _ _ _ _ users
      { me with passkeys := passkeys, totp := totp } me found
    have active :
        UserMap.countActive (users.insert { me with passkeys := passkeys, totp := totp }) =
        UserMap.countActive users := by
      rw [UserMap.countActive, UserMap.countActive, (order.filter _).length_eq, inserted,
        List.filter_cons, List.filter_cons]
      split <;> rfl
    have owners : UserMap.countOwnerAdminHolders
        (users.insert { me with passkeys := passkeys, totp := totp }) =
          UserMap.countOwnerAdminHolders users := by
      unfold UserMap.countOwnerAdminHolders
      dsimp only
      rw [((((order.filter _).flatMap_right _).filter _).map _).dedup.length_eq, inserted,
        List.filter_cons, List.filter_cons]
      split <;> rfl
    unfold deactivationBlock
    rw [active, owners]

theorem suspensionRefusal_eq (notes : StepUpNotes users me noted after)
    (found : users.get me.id = some me) :
    suspensionRefusal after noted = suspensionRefusal users me := by
  have active : noted.active = me.active := by
    obtain ⟨passkeys, totp, rfl⟩ := notes.fields
    rfl
  unfold suspensionRefusal
  rw [active, notes.deactivationBlock_eq found]

end StepUpNotes

namespace UserSite

def sectionsLeft : UserStage → Nat
  | .answered _ _ | .refused _ => 0
  | .recorded _ _ => 1
  | .persisted _ _ => 2
  | .cleared _ _ => 3
  | .changed _ _ => 4
  | .ready _ => 5
  | .read _ _ | .steppedUp => 6
  | .proved _ _ => 7
  | .savingCode _ _ => 8
  | .provingCode _ _ => 9
  | .noting _ left => 10 + 2 * left
  | .savingUse _ _ left => 11 + 2 * left
  | .savingAssertion _ _ => 15
  | .proving _ => 16
  | .arrived => 17

theorem sectionsLeft_ofOutcome {α : Type} {next : α → UserStage} {outcome : Except AccountError α}
    {bound : Nat} (positive : 0 < bound) (onward : ∀ value, sectionsLeft (next value) < bound) :
    sectionsLeft (.ofOutcome next outcome) < bound := by
  cases outcome with
  | ok value => exact onward value
  | error fault => exact positive

theorem sectionsLeft_admit (request : UserRequest) (around : UserSurroundings) (site : UserSite) :
    sectionsLeft (site.arrive request around) < 17 := by
  cases request with
  | credential session target operation offered =>
      cases operation with
      | setSecret password => exact sectionsLeft_ofOutcome (by decide) fun _ => (by decide : 6 < 17)
      | _ => exact (by decide : 6 < 17)
  | suspendMe session reauth =>
      exact sectionsLeft_ofOutcome (by decide) fun _ => (by decide : 16 < 17)
  | _ => exact sectionsLeft_ofOutcome (by decide) fun _ => (by decide : 5 < 17)

theorem sectionsLeft_prepare (request : UserRequest) (around : UserSurroundings)
    (requester : Option Uuid) (snapshot : Option UserRecord) :
    sectionsLeft (prepare request around requester snapshot) < 6 := by
  cases request with
  | credential session target operation offered =>
      unfold prepare
      dsimp only
      split <;> exact of_decide_eq_true rfl
  | _ => exact Nat.zero_lt_succ 5

theorem notes_le (around : UserSurroundings) : notes around ≤ 2 := by
  unfold notes
  split <;> decide

theorem sectionsLeft_finish {around : UserSurroundings} {site : UserSite} {rest : Remainder}
    {copy : UserRecord} :
    sectionsLeft (finish around site (.changed rest copy)).2 < 4 ∧
      sectionsLeft (finish around site (.recorded rest copy)).2 < 1 := by
  unfold finish
  dsimp only
  constructor <;> split
  · exact sectionsLeft_ofOutcome (by decide) fun _ => (by decide : 3 < 4)
  · exact (by decide : 3 < 4)
  · exact sectionsLeft_ofOutcome (by decide) fun _ => (by decide : 0 < 1)
  · exact (by decide : 0 < 1)

section Alone

variable [Crates]

/-- The next section of a request that no other interrupts. -/
def serveAlone (request : UserRequest) (around : UserSurroundings)
    (reached : UserSite × UserStage) : UserSite × UserStage :=
  serve request around reached.1 reached.2

/-- If the request is refused, however many sections later, the users are those given. -/
def RefusalLeaves (request : UserRequest) (around : UserSurroundings)
    (before : Uuid → Option UserRecord) (reached : UserSite × UserStage) : Prop :=
  ∀ sections later fault, (serveAlone request around)^[sections] reached = (later, .refused fault) →
    later.users.get = before

section Stages

variable {request : UserRequest} {around : UserSurroundings} {before : Uuid → Option UserRecord}
  {site : UserSite} {stage : UserStage} {rest : Remainder} {copy : UserRecord}

theorem refusalLeaves_refused {fault : AccountError} :
    RefusalLeaves request around before (site, .refused fault) ↔ site.users.get = before := by
  have fixed : serveAlone request around (site, .refused fault) = (site, .refused fault) := rfl
  constructor
  · intro leaves
    exact leaves 0 site fault rfl
  · intro same sections later other reached
    rw [Function.iterate_fixed fixed sections] at reached
    rw [← (Prod.mk.inj reached).1]
    exact same

theorem refusalLeaves_answered :
    RefusalLeaves request around before (site, .answered rest copy) := by
  have fixed : serveAlone request around (site, .answered rest copy) =
    (site, .answered rest copy) := rfl
  intro sections later fault reached
  rw [Function.iterate_fixed fixed sections] at reached
  cases (Prod.mk.inj reached).2

theorem refusalLeaves_serve (standing : ∀ fault, stage ≠ .refused fault) :
    RefusalLeaves request around before (site, stage) ↔
      RefusalLeaves request around before (serve request around site stage) := by
  constructor
  · intro leaves sections later fault reached
    exact leaves (sections + 1) later fault reached
  · intro leaves sections later fault reached
    cases sections with
    | zero => exact (standing fault (Prod.mk.inj reached).2).elim
    | succ sections => exact leaves sections later fault reached

theorem refusalLeaves_ofOutcome {α : Type} {next : α → UserStage}
    {outcome : Except AccountError α} :
    RefusalLeaves request around before (site, .ofOutcome next outcome) ↔
      LeadsOn (fun value => RefusalLeaves request around before (site, next value))
        (site.users.get = before) outcome := by
  cases outcome with
  | ok value => exact Iff.rfl
  | error fault => exact refusalLeaves_refused

theorem refusalLeaves_ofUnit {next : UserStage} {outcome : Except AccountError Unit} :
    RefusalLeaves request around before (site, .ofOutcome (fun _ => next) outcome) ↔
      (outcome = .ok () → RefusalLeaves request around before (site, next)) ∧
      (outcome ≠ .ok () → site.users.get = before) :=
  refusalLeaves_ofOutcome.trans leadsOn_unit_iff

/-! ### After the section -/

theorem refusalLeaves_recorded :
    RefusalLeaves request around before (site, .recorded rest copy) ↔
      (rest.revokesSessions = true ∧ around.revoked ≠ .ok () → site.users.get = before) := by
  rw [refusalLeaves_serve fun fault same => by cases same]
  unfold serve finish
  dsimp only
  split
  · rename_i revokes
    rw [refusalLeaves_ofUnit]
    constructor
    · exact fun leaves failed => leaves.2 failed.2
    · exact fun leaves => ⟨fun _ => refusalLeaves_answered, fun failed => leaves ⟨revokes, failed⟩⟩
  · rename_i kept
    exact ⟨fun _ failed => (kept failed.1).elim, fun _ => refusalLeaves_answered⟩

theorem refusalLeaves_persisted :
    RefusalLeaves request around before (site, .persisted rest copy) ↔
      (around.recorded ≠ .ok () ∨ (rest.revokesSessions = true ∧ around.revoked ≠ .ok ()) →
        site.users.get = before) := by
  rw [refusalLeaves_serve fun fault same => by cases same]
  unfold serve finish
  rw [refusalLeaves_ofUnit, refusalLeaves_recorded]
  tauto

theorem refusalLeaves_cleared :
    RefusalLeaves request around before (site, .cleared rest copy) ↔
      (around.persisted ≠ .ok () ∨ around.recorded ≠ .ok () ∨
        (rest.revokesSessions = true ∧ around.revoked ≠ .ok ()) → site.users.get = before) := by
  rw [refusalLeaves_serve fun fault same => by cases same]
  unfold serve finish
  rw [refusalLeaves_ofUnit, refusalLeaves_persisted, users_saving users_persistUser]
  tauto

/-- **After the section** a request is refused where a later write fails. -/
theorem refusalLeaves_changed :
    RefusalLeaves request around before (site, .changed rest copy) ↔
      (around.LaterFails rest → site.users.get = before) := by
  rw [refusalLeaves_serve fun fault same => by cases same]
  unfold serve finish UserSurroundings.LaterFails
  dsimp only
  split
  · rename_i clears
    rw [refusalLeaves_ofUnit, refusalLeaves_cleared]
    tauto
  · rename_i kept
    rw [refusalLeaves_cleared]
    tauto

/-- **The section under the lock** is accepted and no later write fails, or it leaves the
users. -/
theorem refusalLeaves_ready {section_ : LockedSection} :
    RefusalLeaves request around before (site, .ready section_) ↔
      ((∃ record, (section_.run site.users around.newId around.createdAt).2 = .ok record) ∧
        ¬around.LaterFails section_.remainder) ∨
      (section_.run site.users around.newId around.createdAt).1.get = before := by
  rw [refusalLeaves_serve (fun fault same => by cases same)]
  unfold serve
  dsimp only
  rw [refusalLeaves_ofOutcome]
  simp only [refusalLeaves_changed]
  cases (section_.run site.users around.newId around.createdAt).2 with
  | ok record =>
      constructor
      · intro leaves
        by_cases fails : around.LaterFails section_.remainder
        · exact .inr (leaves fails)
        · exact .inl ⟨⟨record, rfl⟩, fails⟩
      · rintro (⟨-, lasting⟩ | same) fails
        · exact (lasting fails).elim
        · exact same
  | error fault =>
      constructor
      · exact fun same => .inr same
      · rintro (⟨⟨record, accepted⟩, -⟩ | same)
        · cases accepted
        · exact same

theorem refusalLeaves_ready_iff_harmless {section_ : LockedSection}
    (same : site.users.get = before) :
    RefusalLeaves request around before (site, .ready section_) ↔
      section_.Harmless around site.users := by
  rw [refusalLeaves_ready, ← LockedSection.spares_iff, ← same]
  exact Iff.rfl

/-! ### The step-up -/

theorem exists_same_users_noting (me : UserRecord) (left : Nat) (site : UserSite) :
    ∃ next, next.users = site.users ∧
      (RefusalLeaves request around before (site, .noting me left) ↔
        RefusalLeaves request around before (next, .provingCode me true)) := by
  induction left generalizing site with
  | zero => exact ⟨site, rfl, refusalLeaves_serve (fun fault same => by cases same)⟩
  | succ left ih =>
      rw [refusalLeaves_serve (fun fault same => by cases same)]
      unfold serve
      dsimp only
      cases site.users.get me.id with
      | none => exact ih site
      | some copy =>
          dsimp only
          rw [refusalLeaves_serve (fun fault same => by cases same)]
          unfold serve
          obtain ⟨next, same, leads⟩ := ih (site.saving (·.persistUser copy) around.useSaved)
          rw [users_saving users_persistUser] at same
          exact ⟨next, same, leads⟩

/-- **The passkey of a step-up.** -/
theorem exists_notes_proving {me : UserRecord} (found : site.users.get me.id = some me) :
    ∃ next, StepUpNotes site.users me (around.assertionNote me) next.users ∧
      (RefusalLeaves request around before (site, .proving me) ↔
        RefusalLeaves request around before
          (next, .provingCode me (around.assertionProves me))) := by
  rw [refusalLeaves_serve (fun fault same => by cases same)]
  unfold serve UserSurroundings.assertionNote UserSurroundings.assertionProves
  dsimp only
  cases around.assertion with
  | none => exact ⟨site, .refl site.users me, Iff.rfl⟩
  | some use =>
      simp only [found, Option.bind_some]
      cases wrote : use.write me with
      | none =>
          obtain ⟨next, same, leads⟩ := @exists_same_users_noting _ request around before me
            (notes around) site
          exact ⟨next, same ▸ .refl site.users me, leads⟩
      | some copy =>
          obtain ⟨passkeys, rfl⟩ := PasskeyUse.eq_of_write wrote
          have noted := (StepUpNotes.refl site.users me).insert
            ⟨passkeys, me.totp, (rfl : { me with passkeys := passkeys } = _)⟩
          dsimp only
          rw [refusalLeaves_serve (fun fault same => by cases same)]
          unfold serve
          dsimp only
          cases around.assertionSaved with
          | ok _ =>
              obtain ⟨next, same, leads⟩ := @exists_same_users_noting _ request around before me
                (notes around)
                (persistUser ⟨site.users.insert { me with passkeys := passkeys }, site.stored,
                  site.backing⟩ { me with passkeys := passkeys })
              rw [users_persistUser] at same
              exact ⟨next, same ▸ noted, leads⟩
          | error fault =>
              exact ⟨⟨site.users.insert { me with passkeys := passkeys }, site.stored,
                site.backing⟩, noted, Iff.rfl⟩

/-- **The code of a step-up.** -/
theorem exists_notes_provingCode {users : UserMap} {me noted : UserRecord}
    (notes : StepUpNotes users me noted site.users) (found : users.get me.id = some me)
    (verified : Bool) :
    ∃ next, StepUpNotes users me (around.codeNote noted) next.users ∧
      (RefusalLeaves request around users.get (site, .provingCode me verified) ↔
        LeadsOn (fun proves => RefusalLeaves request around users.get (next, .proved me proves))
          (around.codeNote noted = me) (around.codeProves verified)) := by
  rw [refusalLeaves_serve (fun fault same => by cases same)]
  unfold serve UserSurroundings.codeNote UserSurroundings.codeProves
  dsimp only
  cases around.code with
  | error fault => exact ⟨site, notes, refusalLeaves_refused.trans (notes.get_eq_iff found)⟩
  | ok step =>
      cases step with
      | none => exact ⟨site, notes, Iff.rfl⟩
      | some step =>
          simp only [notes.get_self found]
          rw [refusalLeaves_serve (fun fault same => by cases same)]
          have stepped := notes.insert ⟨noted.passkeys, (writeAcceptedStep step noted).totp,
            (rfl : writeAcceptedStep step noted = _)⟩
          refine ⟨saving ⟨site.users.insert (writeAcceptedStep step noted), site.stored,
            site.backing⟩ persistUsers around.codeSaved, ?_, ?_⟩
          · rw [users_saving users_persistUsers]
            exact stepped
          · unfold serve
            dsimp only
            rw [refusalLeaves_ofOutcome, users_saving users_persistUsers, stepped.get_eq_iff found]
            cases around.codeSaved <;> exact Iff.rfl

/-- **The step-up is decided.** -/
theorem refusalLeaves_proved {me : UserRecord} {verified : Bool} :
    RefusalLeaves request around before (site, .proved me verified) ↔
      LeadsOn (fun _ => RefusalLeaves request around before (site, .steppedUp))
        (site.users.get = before) (decideStepUp me (reauthOf request) verified) := by
  rw [refusalLeaves_serve (fun fault same => by cases same)]
  exact refusalLeaves_ofOutcome

/-- **The suspension after the step-up**, on the users with its notes. -/
theorem refusalLeaves_steppedUp {users : UserMap} {me noted : UserRecord} {username : String}
    {reauth : ReAuth} (notes : StepUpNotes users me noted site.users)
    (found : users.named username = some me) :
    RefusalLeaves (.suspendMe (some username) reauth) around users.get (site, .steppedUp) ↔
      (suspensionRefusal users me = none → ¬around.LaterFails ⟨false, true, none⟩) ∧
      (suspensionRefusal users me ≠ none → noted = me) := by
  have present : users.get me.id = some me := Table.mem_values.mp (List.mem_of_find?_eq_some found)
  rw [refusalLeaves_serve (fun fault same => by cases same)]
  unfold serve sessionOf resolveMe
  dsimp only
  rw [notes.named found]
  refine refusalLeaves_ready.trans ?_
  rw [notes.id_eq]
  simp only [LockedSection.run, suspendMe, notes.get_self present]
  rw [notes.suspensionRefusal_eq present]
  cases refused : suspensionRefusal users me with
  | some fault =>
      dsimp only
      rw [notes.get_eq_iff present]
      simp only [reduceCtorEq, exists_false, false_and, false_or, false_implies, ne_eq,
        not_false_eq_true, true_implies, true_and]
  | none =>
      dsimp only
      have suspended : (site.users.insert { noted with active := false }).get ≠ users.get := by
        intro same
        have self : (site.users.insert { noted with active := false }).get noted.id =
            some { noted with active := false } := Table.get_insert_self
        rw [same, notes.id_eq, present] at self
        unfold suspensionRefusal at refused
        rw [Option.some.inj self] at refused
        cases refused
      rw [UserMap.edit_of_get_eq_some (notes.get_self present)]
      constructor
      · intro spares
        refine ⟨fun _ => ?_, fun changed => (changed rfl).elim⟩
        rcases spares with ⟨-, lasting⟩ | same
        · exact lasting
        · exact (suspended same).elim
      · exact fun lasting => .inl ⟨⟨_, rfl⟩, lasting.1 rfl⟩

end Stages

end Alone

end UserSite

/-- When a refusal of the request leaves the users as they are: where the section it comes to
changes a record, it is not refused half-way and no later write fails; and where a step-up
precedes it, the step-up writes nothing new or nothing is refused after it. -/
def UserRequest.Harmless [Crates] (around : UserSurroundings) (users : UserMap) :
    UserRequest → Prop
  | .assignRole target assignment =>
      around.authorized = .ok () →
        (LockedSection.assignRole target assignment).Harmless around users
  | .unassignRole target assignment =>
      around.authorized = .ok () →
        (LockedSection.unassignRole target assignment).Harmless around users
  | .patchUser target request =>
      admitPatch request around = .ok () →
        (LockedSection.patchUser target request).Harmless around users
  | .patchMeProfile session request => ∀ me, resolveMe users session = .ok me →
      (LockedSection.patchMeProfile me.id request).Harmless around users
  | .suspendMe session reauth => ∀ me, stepUpUser users session = .ok me →
      (around.stepUpAnswer me reauth = .ok () → suspensionRefusal users me = none →
        ¬around.LaterFails ⟨false, true, none⟩) ∧
      (¬(around.stepUpAnswer me reauth = .ok () ∧ suspensionRefusal users me = none) →
        around.NotesNothing me)
  | .createUser => ∀ fields, around.fields = .ok fields →
      (LockedSection.createUser fields).Harmless around users
  | .credential session target operation offered =>
      (∀ password, operation = .setSecret password → validateSecret password = .ok ()) →
      ∀ change, prepareCredential operation around.draws
          ((session.bind users.named).map UserRecord.id) target (users.get target) offered =
            .ok (some change) →
        (LockedSection.credential target change).Harmless around users

namespace UserSite

section Requests

variable [Crates] {request : UserRequest} {around : UserSurroundings} {site : UserSite}

theorem refusalLeaves_checked {α : Type} {next : α → UserStage} {outcome : Except AccountError α} :
    RefusalLeaves request around site.users.get (site, .ofOutcome next outcome) ↔
      ∀ value, outcome = .ok value →
        RefusalLeaves request around site.users.get (site, next value) := by
  rw [refusalLeaves_ofOutcome]
  cases outcome with
  | ok value =>
      refine ⟨fun leaves other same => ?_, fun leaves => leaves value rfl⟩
      rw [← Except.ok.inj same]
      exact leaves
  | error fault =>
      refine ⟨fun _ value same => ?_, fun _ => rfl⟩
      cases same

/-- **A suspension**, refused in its step-up, under the lock or after it. -/
theorem refusalLeaves_suspendMe (session : Option String) (reauth : ReAuth) :
    RefusalLeaves (.suspendMe session reauth) around site.users.get (site, .arrived) ↔
      (UserRequest.suspendMe session reauth).Harmless around site.users := by
  rw [refusalLeaves_serve (fun fault same => by cases same)]
  refine refusalLeaves_checked.trans (forall₂_congr fun me user => ?_)
  obtain ⟨username, rfl, found⟩ := exists_named_of_stepUpUser user
  have present : site.users.get me.id = some me :=
    Table.mem_values.mp (List.mem_of_find?_eq_some found)
  obtain ⟨asserted, passkeyNoted, passkey⟩ := @exists_notes_proving _
    (.suspendMe (some username) reauth) around site.users.get site me present
  obtain ⟨stepped, noted, code⟩ := @exists_notes_provingCode _
    (.suspendMe (some username) reauth) around asserted site.users me _ passkeyNoted present
    (around.assertionProves me)
  rw [passkey, code]
  simp only [refusalLeaves_proved, reauthOf, noted.get_eq_iff present]
  rw [← leadsOn_bind]
  simp only [refusalLeaves_steppedUp noted found, UserSurroundings.noted_eq_iff]
  rw [leadsOn_unit_iff, UserSurroundings.stepUpAnswer]
  tauto

/-- **A change of credentials.** -/
theorem refusalLeaves_credential (session : Option String) (target : Uuid)
    (operation : CredentialOperation) (offered : CurrentSecret) :
    RefusalLeaves (.credential session target operation offered) around site.users.get
        (site, .arrived) ↔
      (UserRequest.credential session target operation offered).Harmless around site.users := by
  have read : RefusalLeaves (.credential session target operation offered) around site.users.get
      (site, .read ((session.bind site.users.named).map UserRecord.id) (site.users.get target)) ↔
      ∀ change, prepareCredential operation around.draws
          ((session.bind site.users.named).map UserRecord.id) target (site.users.get target)
          offered = .ok (some change) →
        (LockedSection.credential target change).Harmless around site.users := by
    rw [refusalLeaves_serve (fun fault same => by cases same)]
    unfold serve prepare
    dsimp only
    split
    · rename_i change prepared
      rw [refusalLeaves_ready_iff_harmless rfl]
      refine ⟨fun harmless other same => ?_, fun harmless => harmless change prepared⟩
      rw [prepared] at same
      rw [← Option.some.inj (Except.ok.inj same)]
      exact harmless
    · rename_i user prepared found
      refine ⟨fun _ change same => ?_, fun _ => refusalLeaves_answered⟩
      rw [prepared] at same
      cases same
    · rename_i prepared absent
      refine ⟨fun _ change same => ?_, fun _ => refusalLeaves_refused.mpr rfl⟩
      rw [prepared] at same
      cases same
    · rename_i fault prepared
      refine ⟨fun _ change same => ?_, fun _ => refusalLeaves_refused.mpr rfl⟩
      rw [prepared] at same
      cases same
  rw [refusalLeaves_serve (fun fault same => by cases same)]
  unfold serve arrive
  cases operation with
  | setSecret password =>
      refine refusalLeaves_checked.trans ?_
      constructor
      · intro leaves valid
        exact read.mp (leaves () (valid password rfl))
      · intro harmless _ valid
        apply read.mpr
        apply harmless
        intro given same
        rw [← CredentialOperation.setSecret.inj same]
        exact valid
  | generateAttestationKey | removeAttestationKey | issueRecovery =>
      refine read.trans
        ⟨fun harmless _ => harmless, fun harmless => harmless fun password same => ?_⟩
      cases same

theorem sectionsLeft_serve {stage : UserStage} (open_ : 0 < sectionsLeft stage) :
    sectionsLeft (serve request around site stage).2 < sectionsLeft stage := by
  have several := notes_le around
  cases stage with
  | arrived => exact sectionsLeft_admit request around site
  | read requester snapshot => exact sectionsLeft_prepare request around requester snapshot
  | proving me =>
      unfold serve
      dsimp only
      split
      · exact (by decide : 9 < 16)
      · split
        · exact (by omega : 10 + 2 * notes around < 16)
        · exact (by decide : 15 < 16)
  | savingAssertion me copy =>
      unfold serve
      dsimp only
      split
      · exact (by omega : 10 + 2 * notes around < 15)
      · exact (by decide : 9 < 15)
  | noting me left =>
      cases left with
      | zero => exact (by decide : 9 < 10)
      | succ left =>
          unfold serve
          dsimp only
          split
          · exact (by omega : 10 + 2 * left < 10 + 2 * (left + 1))
          · exact (by omega : 11 + 2 * left < 10 + 2 * (left + 1))
  | savingUse me copy left => exact (by omega : 10 + 2 * left < 11 + 2 * left)
  | provingCode me verified =>
      unfold serve
      dsimp only
      split <;> exact of_decide_eq_true rfl
  | savingCode me verified => exact sectionsLeft_ofOutcome open_ fun _ => (by decide : 7 < 8)
  | proved me verified => exact sectionsLeft_ofOutcome open_ fun _ => (by decide : 6 < 7)
  | steppedUp => exact sectionsLeft_ofOutcome open_ fun _ => (by decide : 5 < 6)
  | ready section_ => exact sectionsLeft_ofOutcome open_ fun _ => (by decide : 4 < 5)
  | changed rest copy => exact sectionsLeft_finish.1
  | cleared rest copy => exact sectionsLeft_ofOutcome open_ fun _ => (by decide : 2 < 3)
  | persisted rest copy => exact sectionsLeft_ofOutcome open_ fun _ => (by decide : 1 < 2)
  | recorded rest copy => exact sectionsLeft_finish.2
  | answered rest copy => exact (Nat.lt_irrefl 0 open_).elim
  | refused fault => exact (Nat.lt_irrefl 0 open_).elim

/-- **Every request is answered or refused**, however its writes end. -/
theorem serveAlone_ends (request : UserRequest) (around : UserSurroundings)
    (reached : UserSite × UserStage) :
    ∃ sections, sectionsLeft ((serveAlone request around)^[sections] reached).2 = 0 := by
  induction left : sectionsLeft reached.2 using Nat.strong_induction_on generalizing reached with
  | _ count ih =>
      rcases Nat.eq_zero_or_pos count with none_ | positive
      · exact ⟨0, left.trans none_⟩
      · rw [← left] at positive
        obtain ⟨sections, ended⟩ := ih _ (left ▸ sectionsLeft_serve positive)
          (serveAlone request around reached) rfl
        exact ⟨sections + 1, ended⟩

end Requests

/-! ### A role that is not written out -/

open scoped Reference

def failing : UserSurroundings := { calm with persisted := .error (.internal "persistence failed") }

end UserSite

end Chancela
