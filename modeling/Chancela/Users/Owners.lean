import Chancela.Crates.Reference
import Chancela.Users.Handlers
import Mathlib.Data.Finset.Card

/-! # An owner remains

A user who is active and holds Owner at `Global` stops being one through three sections only:
an assignment removed, an account patched to inactive, an account suspended by its holder. Each
counts the others under the lock it writes with, so whatever the order of the sections, and
whatever is refused or not written out, one such user is left
(`Chancela.UserSite.ownerRemains_always`).
-/

namespace Chancela

open Interleave

namespace UserMap

variable {users : UserMap} {target : Uuid} {user record : UserRecord}

theorem OwnerRemains.insert (remains : users.OwnerRemains)
    (kept : ∀ user, users.get record.id = some user → user.isActiveOwner = true →
      record.isActiveOwner = true) : OwnerRemains (users.insert record) := by
  obtain ⟨id, owner, found, owns⟩ := remains
  by_cases same : id = record.id
  · subst same
    exact ⟨record.id, record, Table.get_insert_self, kept owner found owns⟩
  · exact ⟨id, owner, Table.get_insert_eq_some_iff.mpr (.inr ⟨same, found⟩), owns⟩

theorem ownerRemains_insert_of_other {id : Uuid} {other : UserRecord} (apart : id ≠ record.id)
    (found : users.get id = some other) (owns : other.isActiveOwner = true) :
    OwnerRemains (users.insert record) :=
  ⟨id, other, Table.get_insert_eq_some_iff.mpr (.inr ⟨apart, found⟩), owns⟩

/-- **The guard leaves another owner.** -/
theorem exists_other_owner (guarded : lastOwnerGuard users.countOwnerAdminHolders = true)
    (target : Uuid) :
    ∃ id other, id ≠ target ∧ users.get id = some other ∧ other.isActiveOwner = true := by
  have several : 1 < users.countOwnerAdminHolders := of_decide_eq_true guarded
  rw [countOwnerAdminHolders, ← List.toFinset_card_of_nodup (List.nodup_dedup _)] at several
  obtain ⟨id, counted, apart⟩ := Finset.exists_mem_ne several target
  rw [List.mem_toFinset, List.mem_dedup, List.mem_map] at counted
  obtain ⟨⟨holder, assignment⟩, held, rfl⟩ := counted
  rw [List.mem_filter, List.mem_flatMap] at held
  obtain ⟨⟨other, active, assigned⟩, owns⟩ := held
  rw [List.mem_filter] at active
  obtain ⟨listed, member, pair⟩ := List.mem_map.mp assigned
  obtain ⟨rfl, rfl⟩ := Prod.mk.inj pair
  refine ⟨other.id, other, apart, Table.mem_values.mp active.1, ?_⟩
  rw [UserRecord.isActiveOwner, Bool.and_eq_true]
  exact ⟨active.2, List.any_eq_true.mpr ⟨listed, member, owns⟩⟩

theorem exists_other_of_deactivationBlock (allowed : deactivationBlock users user = none)
    (owns : user.isActiveOwner = true) :
    ∃ id other, id ≠ user.id ∧ users.get id = some other ∧ other.isActiveOwner = true := by
  rw [UserRecord.isActiveOwner, Bool.and_eq_true] at owns
  apply exists_other_owner
  unfold deactivationBlock at allowed
  rw [owns.1, owns.2] at allowed
  by_contra unguarded
  rw [Bool.not_eq_true] at unguarded
  rw [unguarded] at allowed
  simp only [Bool.not_true, Bool.false_eq_true, ↓reduceIte, Bool.not_false,
    Bool.and_self] at allowed
  split at allowed <;> cases allowed

theorem OwnerRemains.edit (remains : users.OwnerRemains)
    {change : UserRecord → UserRecord × Except AccountError Unit}
    (named : ∀ user, (change user).1.id = user.id)
    (kept : ∀ user, users.get target = some user → user.isActiveOwner = true →
      (change user).1.isActiveOwner = true ∨
        ∃ id other, id ≠ user.id ∧ users.get id = some other ∧ other.isActiveOwner = true) :
    OwnerRemains (users.edit target change).1 := by
  have inserted : ∀ user, users.get target = some user →
      OwnerRemains (users.insert (change user).1) := by
    intro user found
    have keyed : user.id = target := Table.key_of_get found
    by_cases owns : user.isActiveOwner = true
    · rcases kept user found owns with still | ⟨id, other, apart, present, others⟩
      · exact remains.insert fun _ _ _ => still
      · rw [← named user] at apart
        exact ownerRemains_insert_of_other apart present others
    · apply remains.insert
      intro before present owned
      rw [named user, keyed, found] at present
      obtain rfl := Option.some.inj present
      exact (owns owned).elim
  unfold UserMap.edit
  split
  · exact remains
  · rename_i user found
    have after := inserted user found
    split
    all_goals
      rename_i changed outcome
      rw [outcome] at after
      exact after

theorem ownerRemains_assignRole (remains : users.OwnerRemains) (assignment : RoleAssignment) :
    OwnerRemains (assignRole users target assignment).1 := by
  apply remains.edit (fun _ => rfl)
  intro user _ owns
  refine .inl ?_
  rw [UserRecord.isActiveOwner, Bool.and_eq_true, List.any_eq_true] at owns ⊢
  obtain ⟨active, held, member, owner⟩ := owns
  refine ⟨active, held, ?_, owner⟩
  unfold pushDistinct
  split
  · exact member
  · exact List.mem_append_left _ member

theorem ownerRemains_unassignRole (remains : users.OwnerRemains) (assignment : RoleAssignment) :
    OwnerRemains (unassignRole users target assignment).1 := by
  unfold unassignRole
  split
  · exact remains
  rename_i user found
  split
  · exact remains
  rename_i allowed
  apply remains.edit (fun _ => rfl)
  intro before present owns
  rw [found] at present
  obtain rfl := Option.some.inj present
  -- Where the guard did not count, the assignment removed is not what makes the user an owner.
  by_cases counted : assignment ∈ user.roleAssignments ∧ assignment.isOwnerAdmin = true
  · refine .inr (exists_other_owner ?_ user.id)
    rw [← Bool.not_eq_false]
    exact fun unguarded => allowed ⟨counted.1, counted.2, unguarded⟩
  · refine .inl ?_
    rw [UserRecord.isActiveOwner, Bool.and_eq_true, List.any_eq_true] at owns ⊢
    obtain ⟨active, held, member, owner⟩ := owns
    refine ⟨active, held, List.mem_filter.mpr ⟨member, decide_eq_true ?_⟩, owner⟩
    rintro rfl
    exact counted ⟨member, owner⟩

theorem ownerRemains_patchUser (remains : users.OwnerRemains) (request : PatchUser) :
    OwnerRemains (patchUser users target request).1 := by
  unfold patchUser
  cases refused : patchRefusal users target request with
  | some fault => exact remains
  | none =>
      apply remains.edit (fun _ => PatchUser.id_change)
      intro user found owns
      have named : (user.patchDisplayName request.displayName).isActiveOwner = true := by
        rw [UserRecord.isActiveOwner_patchDisplayName]
        exact owns
      unfold PatchUser.change
      dsimp only
      cases accepted : (user.patchDisplayName request.displayName).patchEmail request.email with
      | error fault => exact .inl named
      | ok addressed =>
          obtain ⟨written, rfl⟩ := UserRecord.eq_of_patchEmail accepted
          simp only [UserRecord.isActiveOwner_patchTwoFactorRequired,
            UserRecord.isActiveOwner_patchLanguage]
          cases active : request.active with
          | none => exact .inl named
          | some active_ =>
              cases active_ with
              | true =>
                  rw [UserRecord.isActiveOwner, Bool.and_eq_true] at named
                  exact .inl (Bool.and_eq_true _ _ ▸ ⟨rfl, named.2⟩)
              | false =>
                  unfold patchRefusal at refused
                  rw [if_pos active, found] at refused
                  exact .inr (exists_other_of_deactivationBlock
                    (Option.map_eq_none_iff.mp refused) owns)

theorem isActiveOwner_profile {request : PatchMyProfile} {user : UserRecord} :
    (request.change user).1.isActiveOwner = user.isActiveOwner := by
  unfold PatchMyProfile.change
  dsimp only
  split
  · exact UserRecord.isActiveOwner_patchDisplayName
  · rename_i addressed accepted
    obtain ⟨written, rfl⟩ := UserRecord.eq_of_patchEmail accepted
    rw [UserRecord.isActiveOwner_patchLanguage]
    exact UserRecord.isActiveOwner_patchDisplayName

theorem ownerRemains_suspendMe (remains : users.OwnerRemains) :
    OwnerRemains (suspendMe users target).1 := by
  unfold suspendMe
  split
  · exact remains
  rename_i user found
  cases refused : suspensionRefusal users user with
  | some fault => exact remains
  | none =>
      apply remains.edit (fun _ => rfl)
      intro before present owns
      rw [found] at present
      obtain rfl := Option.some.inj present
      unfold suspensionRefusal at refused
      split at refused
      · cases refused
      · exact .inr (exists_other_of_deactivationBlock (Option.map_eq_none_iff.mp refused) owns)

theorem ownerRemains_createUser [Crates] (remains : users.OwnerRemains) (fields : NewUser)
    {newId : Uuid} (fresh : users.get newId = none) (createdAt : String) :
    OwnerRemains (createUser users fields newId createdAt).1 := by
  unfold createUser
  split
  · exact remains
  · apply remains.insert
    intro before present
    have absent : users.get newId = some before := present
    rw [fresh] at absent
    cases absent

theorem isActiveOwner_credential {change : CredentialChange} {user : UserRecord} :
    (change.apply user).isActiveOwner = user.isActiveOwner := by
  cases change with
  | setSecret rewrapped dropKey newHash source consumes retiredAt =>
      cases rewrapped <;> cases dropKey <;>
        simp only [CredentialChange.apply, Bool.false_eq_true, ↓reduceIte] <;>
        first
          | rfl
          | exact UserRecord.isActiveOwner_retireAttestationKey
  | installKey | removeKey =>
      exact UserRecord.isActiveOwner_retireAttestationKey
  | issueRecovery verifier => rfl

/-- **Every section leaves an owner.** -/
theorem ownerRemains_run [Crates] (section_ : LockedSection) (remains : users.OwnerRemains)
    {newId : Uuid} (fresh : users.get newId = none) (createdAt : String) :
    OwnerRemains (section_.run users newId createdAt).1 := by
  cases section_ with
  | assignRole target assignment => exact ownerRemains_assignRole remains assignment
  | unassignRole target assignment => exact ownerRemains_unassignRole remains assignment
  | patchUser target request => exact ownerRemains_patchUser remains request
  | patchMeProfile me request =>
      apply remains.edit (fun _ => PatchMyProfile.id_change)
      exact fun user _ owns => .inl (isActiveOwner_profile.trans owns)
  | suspendMe me => exact ownerRemains_suspendMe remains
  | createUser fields => exact ownerRemains_createUser remains fields fresh createdAt
  | credential target change =>
      apply remains.edit (fun _ => CredentialChange.id_apply)
      exact fun user _ owns => .inl (isActiveOwner_credential.trans owns)

end UserMap

namespace UserSite

open UserMap

section Requests

variable [Crates] {request : UserRequest} {around : UserSurroundings} {site : UserSite}
  {stage : UserStage}

/-- **One section of one request.** An owner remains, if a new account takes an identifier of
its own. -/
theorem ownerRemains_serve (remains : site.users.OwnerRemains)
    (fresh : site.users.get around.newId = none) :
    OwnerRemains (serve request around site stage).1.users := by
  cases stage with
  | proving me =>
      unfold serve
      dsimp only
      split
      · exact remains
      · split
        · exact remains
        · rename_i use _ copy wrote
          obtain ⟨user, found, written⟩ := Option.bind_eq_some_iff.mp wrote
          obtain ⟨passkeys, rfl⟩ := PasskeyUse.eq_of_write written
          have keyed : user.id = me.id := Table.key_of_get found
          apply remains.insert
          intro before present owns
          have same : site.users.get user.id = some before := present
          rw [keyed, found] at same
          rwa [← Option.some.inj same] at owns
  | provingCode me verified =>
      unfold serve
      dsimp only
      split
      · exact remains
      · exact remains
      · exact remains
      · rename_i step user _ found
        have keyed : user.id = me.id := Table.key_of_get found
        apply remains.insert
        intro before present owns
        have same : site.users.get user.id = some before := present
        rw [keyed, found] at same
        rwa [← Option.some.inj same] at owns
  | ready section_ => exact ownerRemains_run section_ remains fresh around.createdAt
  | savingAssertion me copy | savingUse me copy left =>
      unfold serve
      rw [users_saving users_persistUser]
      exact remains
  | cleared rest copy =>
      unfold serve finish
      rw [users_saving users_persistUser]
      exact remains
  | savingCode me verified =>
      unfold serve
      rw [users_saving users_persistUsers]
      exact remains
  | noting me left =>
      cases left with
      | zero => exact remains
      | succ left =>
          unfold serve
          dsimp only
          split <;> exact remains
  | _ => exact remains

variable {ι : Type*} [DecidableEq ι]

/-- **An owner always remains.** However many requests interleave, refused or not written out,
from whatever stage of each, an active user holds Owner at `Global` in every state. -/
theorem ownerRemains_always (requests : ι → UserRequest) (start : World UserSite ι UserStage)
    (remains : start.shared.users.OwnerRemains) (moves : List (ι × UserSurroundings))
    (fresh : Run.Admissible (turn (serveRequests requests))
      (fun world move => world.shared.users.get move.2.newId = none) start moves) :
    ∀ world ∈ Run.states (turn (serveRequests requests)) start moves,
      world.shared.users.OwnerRemains :=
  @Run.forall_mem_states _ _ _ _ (fun world => world.shared.users.OwnerRemains)
    (fun _ _ holds drawn => ownerRemains_serve holds drawn) start remains moves fresh

end Requests

/-! ### Two owners suspend themselves -/

open scoped Reference

def owner (id : Uuid) (username : String) : UserRecord where
  id := id
  username := username
  displayName := username
  email := none
  createdAt := ""
  active := true
  passwordHash := some ⟨"a long passphrase", 0⟩
  attestationKey := none
  retiredAttestationKeys := []
  secretSource := .password
  recoveryHash := none
  roleAssignments := [⟨ownerRoleId, .global⟩]
  language := .auto
  totp := none
  twoFactorRequired := false
  forcePasswordChange := false
  passkeys := []

/-- Users in memory and, the same, in the rows of a database. -/
def ofUsers (users : UserMap) : UserSite := ⟨users, users.get, .sidecarsDbBacked⟩

def twoOwners : UserSite := ofUsers (.fromIter [owner ⟨1⟩ "ana", owner ⟨2⟩ "rui"])

def calm : UserSurroundings where
  authorized := .ok ()
  totpEnabled := true
  fields := .error (.internal "")
  newId := ⟨9⟩
  createdAt := ""
  assertion := none
  assertionSaved := .ok ()
  counterRegressed := false
  useSaved := .ok ()
  code := .ok none
  codeSaved := .ok ()
  draws := ⟨false, .ok (), .ok (), .ok (), 7, "phrase", 1, ""⟩
  cleared := .ok ()
  persisted := .ok ()
  recorded := .ok ()
  revoked := .ok ()

/-- The first owner suspends itself, then the second, who is refused. -/
def suspendBoth (party : Bool) : UserRequest :=
  .suspendMe (some (if party then "ana" else "rui")) ⟨some "a long passphrase", none⟩

theorem ownerRemains_suspendBoth :
    (((List.replicate 6 (true, calm) ++ List.replicate 6 (false, calm)).foldl
      (turn (serveRequests suspendBoth))
        ⟨twoOwners, fun _ => .arrived⟩).shared.users).OwnerRemains :=
  ownerRemains_always suspendBoth ⟨twoOwners, fun _ => .arrived⟩
    ⟨⟨1⟩, owner ⟨1⟩ "ana", by decide +kernel, by decide +kernel⟩ _
    (by decide +kernel) _ (Run.foldl_mem_states _ _)

end UserSite

end Chancela
