import Chancela.Api.UserCreation
import Chancela.Crates.Reference
import Chancela.Foundation.Interleave

/-! # The first owner

`create_user` for any number of requests at once. Each request runs through its sections: it
counts the users, is admitted, authorized, prepared, admitted and authorized again, inserted
under the write lock and written out; between its sections the others run theirs. Before the
first user is there any number of requests may pass for the first run, but the count is
repeated under the lock, so exactly one of them is inserted as the owner without a session
(`Chancela.UserDirectory.exactlyOne_firstOwner`).
-/

namespace Chancela

open Outcome Interleave

/-- How far a request to create a user has got. -/
inductive CreationStage where
  | arrived
  | counted (empty : Bool)
  | admitted (admission : Admission)
  | allowed (admission : Admission)
  | prepared (admission : Admission) (fields : Prepared)
  | admittedAgain (admission : Admission) (fields : Prepared)
  | authorized (admission : Admission) (fields : Prepared) (assignment : Option RoleAssignment)
  | inserted (admission : Admission) (result : Inserted)
  | answered (admission : Admission) (result : Inserted)
  | refused (fault : UserApiError)

namespace CreationStage

def ofOutcome {α : Type*} (next : α → CreationStage) : Except UserApiError α → CreationStage
  | .ok value => next value
  | .error fault => .refused fault

def Finished : CreationStage → Prop
  | .answered _ _ | .refused _ => True
  | _ => False

/-- A request whose user was inserted as the first of all. -/
def InsertsFirst : CreationStage → Prop
  | .inserted _ result | .answered _ result => result.bootstrap = true
  | _ => False

theorem not_insertsFirst_ofOutcome {α : Type*} {next : α → CreationStage}
    {outcome : Except UserApiError α} (ordinary : ∀ value, ¬(next value).InsertsFirst) :
    ¬(ofOutcome next outcome).InsertsFirst := by
  cases outcome with
  | ok value => exact ordinary value
  | error fault => exact id

/-- A request that was let in without a session and whose user is the owner of everything. -/
def FirstOwner : CreationStage → Prop
  | .inserted admission result | .answered admission result =>
      result.bootstrap = true ∧ admission = ⟨none, true⟩ ∧
        result.user.roleAssignments = [⟨ownerRoleId, .global⟩]
  | _ => False

theorem FirstOwner.insertsFirst {stage : CreationStage} (owner : stage.FirstOwner) :
    stage.InsertsFirst := by
  cases stage with
  | inserted admission result | answered admission result => exact owner.1
  | _ => exact owner.elim

end CreationStage

/-- The users document as a write of the directory leaves it. -/
def UsersFile.written (persisted : Bool) : UsersFile → UsersFile
  | .dataDir exists_ => .dataDir (exists_ || persisted)
  | other => other

/-- A request with the token it carries. -/
structure CreationRequest where
  body : CreateUser
  token : Option String

namespace UserDirectory

variable [Crates] [UserChecks]

def serve (request : CreationRequest) (around : CreationSurroundings)
    (directory : UserDirectory) : CreationStage → UserDirectory × CreationStage
  | .arrived => (directory, .counted directory.noUsers)
  | .counted empty =>
      (directory, .ofOutcome .admitted
        (directory.admitRequest empty request.token around.resolved))
  | .admitted admission =>
      (directory, .ofOutcome (fun _ => .allowed admission)
        (directory.authorizeUserCreation admission request.body.role around.now around.relations))
  | .allowed admission =>
      (directory, .ofOutcome (.prepared admission)
        ((prepare request.body around.credentials).mapError .refused))
  | .prepared admission fields =>
      (directory, .ofOutcome (fun again => .admittedAgain again fields)
        (admitAgain admission request.token around.resolvedAgain))
  | .admittedAgain admission fields =>
      (directory, .ofOutcome (.authorized admission fields)
        (directory.authorizeUserCreation admission request.body.role around.now around.relations))
  | .authorized admission fields assignment =>
      match directory.insertUser request.body admission fields assignment around.newId
          around.createdAt with
      | .ok (later, result) => (later, .inserted admission result)
      | .error fault => (directory, .refused fault)
  | .inserted admission result =>
      ({ directory with usersFile := directory.usersFile.written around.persisted },
        .answered admission result)
  | .answered admission result => (directory, .answered admission result)
  | .refused fault => (directory, .refused fault)

/-- One section after the other, with nothing between them. -/
def serveNext (request : CreationRequest) (around : CreationSurroundings)
    (reached : UserDirectory × CreationStage) : UserDirectory × CreationStage :=
  serve request around reached.1 reached.2

variable {admission : Admission}

theorem iterate_ofOutcome {α : Type*} {request : CreationRequest} {around : CreationSurroundings}
    {directory later : UserDirectory} {result : Inserted} (count : Nat) (next : α → CreationStage)
    (outcome : Except UserApiError α) :
    (serveNext request around)^[count] (directory, .ofOutcome next outcome) =
        (later, .inserted admission result) ↔
      ∃ value, outcome = .ok value ∧
        (serveNext request around)^[count] (directory, next value) =
          (later, .inserted admission result) := by
  cases outcome with
  | ok value => simp only [CreationStage.ofOutcome, Except.ok.injEq, exists_eq_left']
  | error fault =>
      have stays : (serveNext request around)^[count] (directory, .refused fault) =
          (directory, .refused fault) := Function.iterate_fixed rfl count
      simp only [CreationStage.ofOutcome, stays, Prod.mk.injEq, reduceCtorEq, and_false, false_and,
        exists_false]

theorem createUser_eq_ok_iff_iterate {request : CreationRequest} {around : CreationSurroundings}
    {directory later : UserDirectory} {result : Inserted} :
    directory.createUser request.body request.token around = .ok (later, result) ↔
      ∃ admission, (serveNext request around)^[7] (directory, .arrived) =
        (later, .inserted admission result) := by
  constructor
  · intro accepted
    obtain ⟨admission, admitted, accepted⟩ := bind_eq_ok_iff.mp accepted
    obtain ⟨allowed, authorized, accepted⟩ := bind_eq_ok_iff.mp accepted
    obtain ⟨fields, prepared, accepted⟩ := bind_eq_ok_iff.mp accepted
    obtain ⟨again, admittedAgain, accepted⟩ := bind_eq_ok_iff.mp accepted
    obtain ⟨assignment, authorizedAgain, accepted⟩ := bind_eq_ok_iff.mp accepted
    refine ⟨again, ?_⟩
    simp only [Function.iterate_succ_apply, Function.iterate_zero, id_eq, serveNext, serve,
      CreationStage.ofOutcome, admitted, authorized, prepared, admittedAgain, authorizedAgain,
      accepted]
  · rintro ⟨again, served⟩
    rw [Function.iterate_succ_apply, Function.iterate_succ_apply] at served
    obtain ⟨admission, admitted, served⟩ := (iterate_ofOutcome 5 _ _).mp served
    rw [Function.iterate_succ_apply] at served
    obtain ⟨allowed, authorized, served⟩ := (iterate_ofOutcome 4 _ _).mp served
    rw [Function.iterate_succ_apply] at served
    obtain ⟨fields, prepared, served⟩ := (iterate_ofOutcome 3 _ _).mp served
    rw [Function.iterate_succ_apply] at served
    obtain ⟨resolved, admittedAgain, served⟩ := (iterate_ofOutcome 2 _ _).mp served
    rw [Function.iterate_succ_apply] at served
    obtain ⟨assignment, authorizedAgain, served⟩ := (iterate_ofOutcome 1 _ _).mp served
    have served : serve request around directory (.authorized resolved fields assignment) =
        (later, .inserted again result) := served
    rw [serve] at served
    simp only [createUser, bind_eq_ok_iff]
    refine ⟨admission, admitted, allowed, authorized, fields, prepared, resolved, admittedAgain,
      assignment, authorizedAgain, ?_⟩
    cases outcome : directory.insertUser request.body resolved fields assignment around.newId
        around.createdAt with
    | error fault =>
        rw [outcome] at served
        cases served
    | ok made =>
        rw [outcome] at served
        obtain ⟨rfl, reached⟩ := Prod.mk.inj served
        obtain ⟨-, rfl⟩ := CreationStage.inserted.inj reached
        rfl

/-! ### Across every interleaving -/

/-- What a request was refused for itself: a role named in the first run, or its own
fields or credentials. -/
def RefusedForItself (request : CreationRequest) : CreationStage → Prop
  | .refused _ => request.body.role.isSome = true ∨
      ∃ credentials fault, prepare request.body credentials = .error fault
  | _ => False

def Accounted (request : CreationRequest) (directory : UserDirectory) : CreationStage → Prop
  | .arrived => True
  | .counted empty => empty = false → directory.noUsers = false
  | .admitted admission | .allowed admission | .prepared admission _
  | .admittedAgain admission _ =>
      if admission.isBootstrap then admission = ⟨none, true⟩ else directory.noUsers = false
  | .authorized admission _ assignment =>
      if admission.isBootstrap then admission = ⟨none, true⟩ ∧ assignment = none
      else directory.noUsers = false
  | .inserted admission result | .answered admission result =>
      directory.noUsers = false ∧
        (result.bootstrap = true → CreationStage.FirstOwner (.inserted admission result))
  | .refused fault =>
      directory.noUsers = false ∨ RefusedForItself request (.refused fault)

def firstRun {ι : Type*} (requests : ι → CreationRequest) :
    Discipline UserDirectory ι CreationStage where
  common directory := directory.isUninitialisedInstance = false → directory.noUsers = false
  mine party directory stage := Accounted (requests party) directory stage
  apart first second := ¬(first.InsertsFirst ∧ second.InsertsFirst)

variable {request : CreationRequest} {around : CreationSurroundings}
  {directory later : UserDirectory} {stage : CreationStage}

omit [Crates] in
theorem accounted_ofOutcome {α : Type*} {next : α → CreationStage}
    {outcome : Except UserApiError α}
    (served : ∀ value, outcome = .ok value → Accounted request directory (next value))
    (refused : ∀ fault, outcome = .error fault → Accounted request directory (.refused fault)) :
    Accounted request directory (.ofOutcome next outcome) := by
  cases outcome with
  | ok value => exact served value rfl
  | error fault => exact refused fault rfl

omit [Crates] in
theorem Accounted.mono (accounted : Accounted request directory stage)
    (stay : directory.noUsers = false → later.noUsers = false) :
    Accounted request later stage := by
  cases stage with
  | arrived => trivial
  | counted empty => exact fun occupied => stay (accounted occupied)
  | admitted admission | allowed admission | prepared admission _
  | admittedAgain admission _ | authorized admission _ assignment =>
      cases first : admission.isBootstrap with
      | true => simpa only [Accounted, first, ↓reduceIte] using accounted
      | false =>
          simp only [Accounted, first, Bool.false_eq_true, ↓reduceIte] at accounted ⊢
          exact stay accounted
  | inserted admission result | answered admission result =>
      exact ⟨stay accounted.1, accounted.2⟩
  | refused fault => exact accounted.imp_left stay

theorem noUsers_serve (occupied : directory.noUsers = false) :
    (serve request around directory stage).1.noUsers = false := by
  cases stage with
  | authorized admission fields assignment =>
      rw [serve]
      cases outcome : directory.insertUser request.body admission fields assignment around.newId
          around.createdAt with
      | error fault => exact occupied
      | ok made => exact noUsers_of_insertUser outcome
  | _ => exact occupied

theorem insertsFirst_of_noUsers (empty : directory.noUsers = true)
    (occupied : (serve request around directory stage).1.noUsers = false) :
    (serve request around directory stage).2.InsertsFirst := by
  cases stage with
  | authorized admission fields assignment =>
      rw [serve] at occupied ⊢
      cases outcome : directory.insertUser request.body admission fields assignment around.newId
          around.createdAt with
      | error fault =>
          rw [outcome] at occupied
          exact Bool.noConfusion (empty.symm.trans occupied)
      | ok made => exact (insertUser_eq_ok outcome).1.trans empty
  | _ => exact Bool.noConfusion (empty.symm.trans occupied)

theorem insertsFirst_serve (first : stage.InsertsFirst) :
    (serve request around directory stage).2.InsertsFirst := by
  cases stage with
  | inserted admission result | answered admission result => exact first
  | _ => exact first.elim

theorem insertsFirst_or_noUsers
    (first : (serve request around directory stage).2.InsertsFirst) :
    stage.InsertsFirst ∨ directory.noUsers = true := by
  cases stage with
  | arrived => exact first.elim
  | counted | admitted | allowed | prepared | admittedAgain =>
      rw [serve] at first
      revert first
      exact fun first => (CreationStage.not_insertsFirst_ofOutcome (fun _ => id) first).elim
  | authorized admission fields assignment =>
      rw [serve] at first
      cases outcome : directory.insertUser request.body admission fields assignment around.newId
          around.createdAt with
      | error fault =>
          rw [outcome] at first
          exact first.elim
      | ok made =>
          rw [outcome] at first
          exact .inr ((insertUser_eq_ok outcome).1.symm.trans first)
  | inserted | answered | refused => exact .inl first

omit [Crates] in
theorem accounted_admitRequest {empty : Bool} {resolved : Except UserApiError (Option String)}
    (initialised : directory.isUninitialisedInstance = false → directory.noUsers = false)
    (counted : empty = false → directory.noUsers = false) :
    Accounted request directory (.ofOutcome .admitted
      (directory.admitRequest empty request.token resolved)) := by
  rw [admitRequest]
  by_cases first : (empty && directory.isUninitialisedInstance) = true
  · rw [if_pos first]
    rfl
  · rw [if_neg first]
    rw [Bool.not_eq_true] at first
    have occupied : directory.noUsers = false := by
      rcases Bool.and_eq_false_iff.mp first with occupied | there
      · exact counted occupied
      · exact initialised there
    cases sessionBehind request.token resolved with
    | error fault => exact .inl occupied
    | ok username => exact occupied

omit [Crates] in
theorem accounted_admitAgain {fields : Prepared} {resolved : Except UserApiError (Option String)}
    (accounted : Accounted request directory (.prepared admission fields)) :
    Accounted request directory (.ofOutcome (fun again => .admittedAgain again fields)
      (admitAgain admission request.token resolved)) := by
  rw [admitAgain]
  cases first : admission.isBootstrap with
  | true => rfl
  | false =>
      simp only [Accounted, first, Bool.false_eq_true, ↓reduceIte] at accounted
      rw [if_neg Bool.false_ne_true]
      cases sessionBehind request.token resolved with
      | error fault => exact .inl accounted
      | ok username => exact accounted

omit [Crates] in
theorem accounted_authorize {now : OffsetDateTime} {relations : ScopeRelations}
    {next : Option RoleAssignment → CreationStage}
    (accounted : Accounted request directory (.admitted admission))
    (served : ∀ assignment, (admission.isBootstrap = true → assignment = none) →
      Accounted request directory (.admitted admission) →
      Accounted request directory (next assignment)) :
    Accounted request directory (.ofOutcome next
      (directory.authorizeUserCreation admission request.body.role now relations)) := by
  cases first : admission.isBootstrap with
  | true =>
      unfold authorizeUserCreation
      rw [if_pos first]
      cases named : request.body.role with
      | none => exact served none (fun _ => rfl) accounted
      | some assignment => exact .inr (.inl (named ▸ rfl))
  | false =>
      have occupied : directory.noUsers = false := by
        simpa only [Accounted, first, Bool.false_eq_true, ↓reduceIte] using accounted
      apply accounted_ofOutcome
      · intro assignment _
        exact served assignment (fun bootstrap => nomatch first.symm.trans bootstrap) accounted
      · intro fault _
        exact .inl occupied

theorem accounted_inserted {fields : Prepared} {assignment : Option RoleAssignment} {newId : Uuid}
    {createdAt : String} {made : UserDirectory × Inserted}
    (accounted : Accounted request directory (.authorized admission fields assignment))
    (accepted : directory.insertUser request.body admission fields assignment newId createdAt =
      .ok made) : Accounted request made.1 (.inserted admission made.2) := by
  refine ⟨noUsers_of_insertUser accepted, fun bootstrap => ?_⟩
  obtain ⟨counted, -, user, -⟩ := insertUser_eq_ok accepted
  have empty : directory.noUsers = true := counted.symm.trans bootstrap
  cases first : admission.isBootstrap with
  | true =>
      simp only [Accounted, first, ↓reduceIte] at accounted
      obtain ⟨sessionless, rfl⟩ := accounted
      refine ⟨bootstrap, sessionless, ?_⟩
      rw [user, empty]
      rfl
  | false =>
      simp only [Accounted, first, Bool.false_eq_true, ↓reduceIte] at accounted
      exact Bool.noConfusion (empty.symm.trans accounted)

omit [UserChecks] in
theorem noUsers_of_insertUser_eq_error {fields : Prepared} {assignment : Option RoleAssignment}
    {newId : Uuid} {createdAt : String} {fault : UserApiError}
    (refused : directory.insertUser request.body admission fields assignment newId createdAt =
      .error fault) : directory.noUsers = false := by
  cases empty : directory.noUsers with
  | false => rfl
  | true =>
      have none_ : directory.state.users.values = [] := List.isEmpty_iff.mp empty
      rw [insertUser, none_, List.any_nil, bootstrapStateForInsert, empty] at refused
      cases refused

theorem accounted_serve
    (initialised : directory.isUninitialisedInstance = false → directory.noUsers = false)
    (accounted : Accounted request directory stage) :
    Accounted request (serve request around directory stage).1
      (serve request around directory stage).2 := by
  cases stage with
  | arrived => exact id
  | counted empty => exact accounted_admitRequest initialised accounted
  | admitted admission => exact accounted_authorize accounted fun _ _ kept => kept
  | allowed admission =>
      apply accounted_ofOutcome
      · intro fields _
        exact accounted
      · intro fault refused
        cases prepared : prepare request.body around.credentials with
        | error found => exact .inr (.inr ⟨around.credentials, found, prepared⟩)
        | ok fields =>
            rw [prepared] at refused
            cases refused
  | prepared admission fields => exact accounted_admitAgain accounted
  | admittedAgain admission fields =>
      apply accounted_authorize accounted
      intro assignment omitted kept
      cases first : admission.isBootstrap with
      | true =>
          simp only [Accounted, first, ↓reduceIte] at kept ⊢
          exact ⟨kept, omitted first⟩
      | false => simpa only [Accounted, first, Bool.false_eq_true, ↓reduceIte] using kept
  | authorized admission fields assignment =>
      rw [serve]
      cases outcome : directory.insertUser request.body admission fields assignment around.newId
          around.createdAt with
      | ok made => exact accounted_inserted accounted outcome
      | error fault => exact .inl (noUsers_of_insertUser_eq_error outcome)
  | inserted admission result => exact accounted
  | answered admission result => exact accounted
  | refused fault => exact accounted

theorem initialised_serve
    (initialised : directory.isUninitialisedInstance = false → directory.noUsers = false)
    (accounted : Accounted request directory stage)
    (later : (serve request around directory stage).1.isUninitialisedInstance = false) :
    (serve request around directory stage).1.noUsers = false := by
  cases stage with
  | authorized admission fields assignment =>
      rw [serve] at later ⊢
      cases outcome : directory.insertUser request.body admission fields assignment around.newId
          around.createdAt with
      | ok made => exact noUsers_of_insertUser outcome
      | error fault =>
          rw [outcome] at later
          exact initialised later
  | inserted admission result => exact accounted.1
  | _ => exact initialised later

variable {ι : Type*} [DecidableEq ι] {requests : ι → CreationRequest}

def serveRequests (requests : ι → CreationRequest) (party : ι) (around : CreationSurroundings)
    (directory : UserDirectory) (stage : CreationStage) : UserDirectory × CreationStage :=
  serve (requests party) around directory stage

omit [DecidableEq ι] in
theorem firstRun_kept :
    (firstRun requests).KeptBy (serveRequests requests) fun _ _ => True where
  symm together := fun ⟨first, second⟩ => together ⟨second, first⟩
  common world move holds _ := initialised_serve holds.common (holds.mine move.1)
  mine world move holds _ := accounted_serve holds.common (holds.mine move.1)
  others world move holds _ other _ := (holds.mine other).mono noUsers_serve
  apart world move holds _ other different := by
    rintro ⟨first, second⟩
    rcases insertsFirst_or_noUsers first with before | empty
    · exact holds.apart move.1 other different.symm ⟨before, second⟩
    · have occupied : world.shared.noUsers = false := by
        have accounted := holds.mine other
        cases stage : world.progress other with
        | inserted admission result | answered admission result =>
            rw [stage] at accounted
            exact accounted.1
        | _ =>
            rw [stage] at second
            exact second.elim
      exact Bool.noConfusion (empty.symm.trans occupied)

variable {start : World UserDirectory ι CreationStage}

theorem exists_insertsFirst (empty : start.shared.noUsers = true)
    (moves : List (ι × CreationSurroundings)) :
    ∀ world ∈ Run.states (turn (serveRequests requests)) start moves,
      world.shared.noUsers = false → ∃ party, (world.progress party).InsertsFirst := by
  apply Run.forall_mem_states_of_kept
  · intro world move found occupied
    by_cases before : world.shared.noUsers = true
    · refine ⟨move.1, ?_⟩
      rw [progress_turn_self]
      exact insertsFirst_of_noUsers before occupied
    · rw [Bool.not_eq_true] at before
      obtain ⟨party, first⟩ := found before
      refine ⟨party, ?_⟩
      by_cases moved : party = move.1
      · subst moved
        rw [progress_turn_self]
        exact insertsFirst_serve first
      · rwa [progress_turn_of_ne world move moved]
  · intro occupied
    exact Bool.noConfusion (empty.symm.trans occupied)

/-- An instance nobody has used: no users, no document of users, and no request served. -/
structure Uninitialised (start : World UserDirectory ι CreationStage) : Prop where
  empty : start.shared.noUsers = true
  uninitialised : start.shared.isUninitialisedInstance = true
  arrived : ∀ party, start.progress party = .arrived

omit [Crates] [DecidableEq ι] in
theorem Uninitialised.holds (unused : Uninitialised start) : (firstRun requests).Holds start where
  common there := Bool.noConfusion (unused.uninitialised.symm.trans there)
  mine party := (unused.arrived party).symm ▸ trivial
  apart first _ _ together := by
    rw [unused.arrived first] at together
    exact together.1

omit [Crates] in
theorem firstOwner_of_accounted (accounted : Accounted request directory stage)
    (first : stage.InsertsFirst) : stage.FirstOwner := by
  cases stage with
  | inserted admission result | answered admission result => exact accounted.2 first
  | _ => exact first.elim

omit [Crates] in
theorem noUsers_of_finished (accounted : Accounted request directory stage)
    (finished : stage.Finished) (served : ¬RefusedForItself request stage) :
    directory.noUsers = false := by
  cases stage with
  | answered admission result => exact accounted.1
  | refused fault => exact accounted.resolve_right served
  | _ => exact finished.elim

/-- **The first owner.** However the requests of a first run interleave, never two of them
are let in as its owner, and one of them is as soon as any request has run to its end
without being refused for itself. -/
theorem existsUnique_firstOwner (unused : Uninitialised start)
    (moves : List (ι × CreationSurroundings)) :
    ∀ world ∈ Run.states (turn (serveRequests requests)) start moves,
      (∀ first second, (world.progress first).FirstOwner → (world.progress second).FirstOwner →
        first = second) ∧
      ((∃ party, (world.progress party).Finished ∧
          ¬RefusedForItself (requests party) (world.progress party)) →
        ∃! party, (world.progress party).FirstOwner) := by
  intro world reached
  have holds := firstRun_kept.holds_always unused.holds moves world reached
  have unique : ∀ first second, (world.progress first).FirstOwner →
      (world.progress second).FirstOwner → first = second := by
    intro first second owner other
    by_contra different
    exact holds.apart first second different ⟨owner.insertsFirst, other.insertsFirst⟩
  refine ⟨unique, fun ⟨party, finished, served⟩ => ?_⟩
  obtain ⟨owner, first⟩ := exists_insertsFirst unused.empty moves world reached
    (noUsers_of_finished (holds.mine party) finished served)
  have owns := firstOwner_of_accounted (holds.mine owner) first
  exact ⟨owner, owns, fun other owned => unique other owner owned owns⟩

end UserDirectory

namespace Reference

/-- No address is normalised, and a password has its least length. -/
scoped instance userChecks : UserChecks where
  normalizeOptionalEmail _ := .ok none
  checkPassword password _ := rejectIf (password.length < 8)
    (.unprocessable "sign-in secret must be at least 8 characters")

end Reference

namespace UserDirectory

open scoped Reference

def managers : Role := ⟨⟨7⟩, "Managers", {.userManage}, false⟩

/-- One user, Ana, holding the given role, and a default role that reads entities. -/
def anaAs (role : Role) : UserDirectory where
  state :=
    { users := Table.empty.insert ⟨⟨1⟩, true, [⟨role.id, .global⟩]⟩
      roles := (Table.empty.insert role).insert
        ⟨companyOwnerRoleId, "Company Owner", {.entityRead}, false⟩
      delegations := .empty
      signupDefaultRole := ⟨0⟩ }
  profile _ := ⟨"ana", "Ana", none, "", "", "", false, "auto"⟩
  usersFile := .dataDir true

def createRui : CreationRequest where
  body := ⟨"rui", none, none, "a long passphrase", none, false, "auto"⟩
  token := some "token"

/-- The session is Ana's, and the identifier drawn is new. -/
def anaAsks : CreationSurroundings where
  resolved := .ok (some "ana")
  resolvedAgain := .ok (some "ana")
  now := unixEpoch
  relations := .unrelated
  credentials := .ok ("hash", "key")
  newId := ⟨2⟩
  createdAt := ""
  persisted := true

theorem fresh_anaAs (role : Role) : Fresh (anaAs role) anaAsks.newId where
  unused := rfl
  unaddressed _ member := nomatch member

end UserDirectory

end Chancela
