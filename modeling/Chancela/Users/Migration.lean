import Chancela.Api.UserCreation
import Chancela.Users.Owners

/-! # The migration of roles

At start every user without a role is given one. The first of them becomes Owner at `Global`
if nobody is; the others become Company Owners. A map in which everybody has a role already is
left as it is, with an Owner or without, so the guarantees of the migration hold exactly where
somebody had no role or an Owner was there (`Chancela.UserMap.migrateRoles_sound_iff`).
-/

namespace Chancela

/-- Owner at `Global`, active or not. -/
def UserRecord.isOwnerAdmin (user : UserRecord) : Bool :=
  user.roleAssignments.any (·.isOwnerAdmin)

namespace UserMap

/-- The order of the users without a role: by time of creation, then by id. -/
def precedes (users : UserMap) (left right : Uuid) : Bool :=
  let createdAt id := ((users.get id).map UserRecord.createdAt).getD ""
  (compare (createdAt left) (createdAt right)
    |>.then (compare left.bits.toNat right.bits.toNat)).isLE

def unassigned (users : UserMap) : List Uuid :=
  ((users.values.filter (·.roleAssignments.isEmpty)).map UserRecord.id).mergeSort users.precedes

def ownerExists (users : UserMap) : Bool := users.values.any UserRecord.isOwnerAdmin

def assignDefault (ownerExists : Bool) (users : UserMap) (entry : Uuid × Nat) : UserMap :=
  let assignment : RoleAssignment :=
    if !ownerExists && entry.2 == 0 then ⟨ownerRoleId, .global⟩
    else ⟨companyOwnerRoleId, .global⟩
  match users.get entry.1 with
  | some user => users.insert { user with roleAssignments := [assignment] }
  | none => users

/-- `migrate_roles`: whether a user was changed, and the users. -/
def migrateRoles (users : UserMap) : Bool × UserMap :=
  if users.unassigned = [] then (false, users)
  else (true, users.unassigned.zipIdx.foldl (assignDefault users.ownerExists) users)

/-- What the migration promises of the users it leaves. -/
structure MigrationSound (users after : UserMap) : Prop where
  /-- Somebody holds Owner at `Global`. -/
  owner : ∃ id user, after.get id = some user ∧ user.isOwnerAdmin = true
  /-- A user that had a role is not changed. -/
  kept : ∀ id user, users.get id = some user → user.roleAssignments ≠ [] →
    after.get id = some user
  /-- Nothing of a user is changed but the roles. -/
  rolesOnly : ∀ id, (after.get id).map (fun user => { user with roleAssignments := [] }) =
    (users.get id).map fun user => { user with roleAssignments := [] }
  /-- Every user has a role. -/
  assigned : ∀ id user, after.get id = some user → user.roleAssignments ≠ []
  /-- One new Owner at most is minted. -/
  minted : ∀ first second, (after.get first).any UserRecord.isOwnerAdmin = true →
    (users.get first).any UserRecord.isOwnerAdmin = false →
    (after.get second).any UserRecord.isOwnerAdmin = true →
    (users.get second).any UserRecord.isOwnerAdmin = false → first = second
  /-- No Owner is minted where there was one. -/
  unminted : (∃ id user, users.get id = some user ∧ user.isOwnerAdmin = true) →
    ∀ id, (after.get id).any UserRecord.isOwnerAdmin = true →
      (users.get id).any UserRecord.isOwnerAdmin = true
  /-- To run it again changes nothing. -/
  again : after.migrateRoles = (false, after)

variable {users : UserMap} {ids : List Uuid} {id : Uuid} {user : UserRecord} {exists_ : Bool}

theorem mem_unassigned :
    id ∈ users.unassigned ↔ ∃ user, users.get id = some user ∧ user.roleAssignments = [] := by
  unfold unassigned
  rw [(List.mergeSort_perm _ _).mem_iff, List.mem_map]
  constructor
  · intro listed
    obtain ⟨user, kept, rfl⟩ := listed
    obtain ⟨stored, bare⟩ := List.mem_filter.mp kept
    exact ⟨user, Table.mem_values.mp stored, List.isEmpty_iff.mp bare⟩
  · intro found
    obtain ⟨user, stored, bare⟩ := found
    refine ⟨user, List.mem_filter.mpr ⟨Table.mem_values_of_get stored, ?_⟩, Table.key_of_get stored⟩
    exact List.isEmpty_iff.mpr bare

theorem nodup_unassigned : users.unassigned.Nodup := by
  unfold unassigned
  rw [(List.mergeSort_perm _ _).nodup_iff]
  exact (List.filter_sublist.map UserRecord.id).nodup Table.nodup_map_values

theorem ownerExists_iff :
    users.ownerExists = true ↔ ∃ id user, users.get id = some user ∧ user.isOwnerAdmin = true := by
  unfold ownerExists
  rw [List.any_eq_true]
  constructor
  · intro found
    obtain ⟨user, stored, owner⟩ := found
    exact ⟨user.id, user, Table.mem_values.mp stored, owner⟩
  · intro found
    obtain ⟨id, user, stored, owner⟩ := found
    exact ⟨user, Table.mem_values_of_get stored, owner⟩

theorem get_assignDefault (entry : Uuid × Nat) :
    (users.assignDefault exists_ entry).get id =
      if id = entry.1 then
        (users.get id).map fun user =>
          { user with roleAssignments := [bootstrapAssignment (!exists_ && entry.2 == 0)] }
      else users.get id := by
  unfold assignDefault
  dsimp only
  cases found : users.get entry.1 with
  | none =>
      by_cases here : id = entry.1
      · rw [if_pos here, here, found, Option.map_none]
      · rw [if_neg here]
  | some user =>
      have named : user.id = entry.1 := Table.key_of_get found
      dsimp only
      rw [Table.get_insert]
      by_cases here : id = entry.1
      · rw [if_pos (here.trans named.symm), if_pos here, here, found]
        rfl
      · rw [if_neg (fun same => here (same.trans named)), if_neg here]

theorem get_foldl_assignDefault (place : Nat) :
    ((ids.zipIdx (place + 1)).foldl (assignDefault exists_) users).get id =
      if id ∈ ids then
        (users.get id).map fun user => { user with roleAssignments := [bootstrapAssignment false] }
      else users.get id := by
  induction ids generalizing users place with
  | nil => rfl
  | cons first rest ih =>
      have later : (!exists_ && place + 1 == 0) = false := Bool.and_false _
      rw [List.zipIdx_cons, List.foldl_cons, ih, get_assignDefault]
      dsimp only
      rw [later]
      by_cases here : id = first
      · rw [if_pos here, if_pos (List.mem_cons.mpr (.inl here)), Option.map_map]
        split <;> rfl
      · rw [if_neg here]
        simp only [List.mem_cons, here, false_or]

/-- **The users after the migration.** -/
theorem get_migrateRoles :
    users.migrateRoles.2.get id =
      if id ∈ users.unassigned then
        (users.get id).map fun user =>
          { user with roleAssignments :=
              [bootstrapAssignment (!users.ownerExists && users.unassigned.head? == some id)] }
      else users.get id := by
  unfold migrateRoles
  have distinct := @nodup_unassigned users
  cases listed : users.unassigned with
  | nil => rfl
  | cons first rest =>
      rw [listed, List.nodup_cons] at distinct
      rw [if_neg (List.cons_ne_nil first rest), List.zipIdx_cons, List.foldl_cons,
        get_foldl_assignDefault 0, get_assignDefault, List.head?_cons]
      dsimp only
      by_cases here : id = first
      · rw [here, if_neg distinct.1, if_pos rfl, if_pos List.mem_cons_self, beq_self_eq_true,
          beq_self_eq_true]
      · have other : (some first == some id) = false := by
          rw [beq_eq_false_iff_ne]
          exact fun same => here (Option.some.inj same).symm
        rw [if_neg here]
        simp only [List.mem_cons, here, false_or, other, Bool.and_false]

@[simp] theorem isOwnerAdmin_bootstrapAssignment (bootstrap : Bool) :
    (bootstrapAssignment bootstrap).isOwnerAdmin = bootstrap := by
  cases bootstrap <;> rfl

/-- Who holds Owner at `Global` after the migration: who held it before, and the first of those
without a role where nobody did. -/
theorem isOwnerAdmin_migrateRoles :
    (users.migrateRoles.2.get id).any UserRecord.isOwnerAdmin = true ↔
      (users.get id).any UserRecord.isOwnerAdmin = true ∨
        users.ownerExists = false ∧ users.unassigned.head? = some id := by
  rw [get_migrateRoles]
  by_cases listed : id ∈ users.unassigned
  · obtain ⟨user, stored, bare⟩ := mem_unassigned.mp listed
    rw [if_pos listed, stored]
    simp [UserRecord.isOwnerAdmin, bare]
  · have later : users.unassigned.head? ≠ some id := fun first =>
      listed (List.mem_of_mem_head? first)
    rw [if_neg listed]
    simp only [later, and_false, or_false]

theorem unassigned_migrateRoles : users.migrateRoles.2.unassigned = [] := by
  rw [List.eq_nil_iff_forall_not_mem]
  intro id listed
  obtain ⟨user, stored, bare⟩ := mem_unassigned.mp listed
  rw [get_migrateRoles] at stored
  by_cases before : id ∈ users.unassigned
  · rw [if_pos before] at stored
    obtain ⟨old, -, rfl⟩ := Option.map_eq_some_iff.mp stored
    cases bare
  · rw [if_neg before] at stored
    exact before (mem_unassigned.mpr ⟨user, stored, bare⟩)

theorem migrationSound (met : users.unassigned ≠ [] ∨ users.ownerExists = true) :
    MigrationSound users users.migrateRoles.2 where
  owner := by
    have holder : ∃ id, (users.migrateRoles.2.get id).any UserRecord.isOwnerAdmin = true := by
      cases exists_ : users.ownerExists with
      | true =>
          obtain ⟨id, user, stored, owner⟩ := ownerExists_iff.mp exists_
          refine ⟨id, isOwnerAdmin_migrateRoles.mpr (.inl ?_)⟩
          rw [stored]
          exact owner
      | false =>
          rw [exists_] at met
          obtain ⟨first, rest, listed⟩ := List.exists_cons_of_ne_nil
            (met.resolve_right Bool.false_ne_true)
          refine ⟨first, isOwnerAdmin_migrateRoles.mpr (.inr ⟨exists_, ?_⟩)⟩
          rw [listed, List.head?_cons]
    obtain ⟨id, held⟩ := holder
    obtain ⟨user, stored, owner⟩ := (Option.any_eq_true _ _).mp held
    exact ⟨id, user, stored, owner⟩
  kept := by
    intro id user stored roles
    rw [get_migrateRoles, if_neg, stored]
    intro listed
    obtain ⟨same, found, bare⟩ := mem_unassigned.mp listed
    rw [stored] at found
    cases found
    exact roles bare
  rolesOnly := by
    intro id
    rw [get_migrateRoles]
    split
    · rw [Option.map_map]
      rfl
    · rfl
  assigned := by
    intro id user stored bare
    have listed := mem_unassigned.mpr ⟨user, stored, bare⟩
    rw [unassigned_migrateRoles] at listed
    cases listed
  minted := by
    intro first second firstAfter firstBefore secondAfter secondBefore
    rw [isOwnerAdmin_migrateRoles, firstBefore, or_iff_right Bool.false_ne_true] at firstAfter
    rw [isOwnerAdmin_migrateRoles, secondBefore, or_iff_right Bool.false_ne_true] at secondAfter
    exact Option.some.inj (firstAfter.2.symm.trans secondAfter.2)
  unminted := by
    intro holder id after
    rw [isOwnerAdmin_migrateRoles, ownerExists_iff.mpr holder] at after
    exact after.resolve_right fun minted => Bool.noConfusion minted.1
  again := by
    rw [migrateRoles, if_pos unassigned_migrateRoles]

/-- **What the migration promises holds exactly** where somebody had no role or an Owner at
`Global` was there. -/
theorem migrateRoles_sound_iff (users : UserMap) :
    MigrationSound users users.migrateRoles.2 ↔
      (∃ id user, users.get id = some user ∧ user.roleAssignments = []) ∨
        ∃ id user, users.get id = some user ∧ user.isOwnerAdmin = true := by
  constructor
  · intro sound
    by_cases bare : users.unassigned = []
    · have unchanged : users.migrateRoles.2 = users := by
        unfold migrateRoles
        rw [if_pos bare]
      rw [unchanged] at sound
      exact .inr sound.owner
    · obtain ⟨id, rest, listed⟩ := List.exists_cons_of_ne_nil bare
      exact .inl ⟨id, mem_unassigned.mp (listed ▸ List.mem_cons_self)⟩
  · intro met
    apply migrationSound
    rcases met with ⟨id, bare⟩ | owner
    · exact .inl (List.ne_nil_of_mem (mem_unassigned.mpr bare))
    · exact .inr (ownerExists_iff.mpr owner)

def loneCompanyOwner : UserMap :=
  .fromIter [{ UserSite.owner ⟨1⟩ "ana" with roleAssignments := [⟨companyOwnerRoleId, .global⟩] }]

/-- A user that has a role, and nobody to own the instance. -/
theorem not_migrationSound_loneCompanyOwner :
    loneCompanyOwner.values ≠ [] ∧
      ¬MigrationSound loneCompanyOwner loneCompanyOwner.migrateRoles.2 := by
  refine ⟨List.cons_ne_nil _ _, ?_⟩
  intro sound
  obtain ⟨id, user, stored, owner⟩ := sound.owner
  have nobody : loneCompanyOwner.unassigned = [] := by
    unfold unassigned
    rw [show loneCompanyOwner.values.filter (·.roleAssignments.isEmpty) = [] from rfl]
    exact List.mergeSort_nil
  rw [migrateRoles, if_pos nobody] at stored
  have listed := Table.mem_values_of_get stored
  rw [List.mem_singleton.mp listed] at owner
  cases owner

end UserMap

end Chancela
