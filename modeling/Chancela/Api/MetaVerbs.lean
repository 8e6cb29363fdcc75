import Chancela.Api.Endpoints
import Chancela.Crates.Reference

/-! # Meta verbs and delegations

The four verbs that drive the role machinery are refused when a delegation is granted. A
delegation names roles and conveys what they hold at the moment it is used, and an edit
of a role is checked against the editor's authority alone, so an edit can put a meta verb
under a role that is already delegated. Runs without such an edit keep the delegated
buckets free of meta verbs (`Chancela.AppState.delegatedSound_of_admissible`); that every
delegated grant is backed by a role of its grantor needs no condition.
-/

namespace Chancela

/-- A request, or a user switched on or off. The gate before the switch is left out: every
switch it lets through is among these. -/
inductive Occurrence where
  | request (session : Session) (request : Request)
  | setActive (user : Uuid) (active : Bool)

namespace AppState

variable {state later : AppState} {session : Session} {request : Request}

/-- The delegated bucket of every principal, at every time and under every parent
relation: no meta verb, and each grant held via a role by the active grantor of an active
delegation. -/
structure DelegatedSound (state : AppState) : Prop where
  ordinary : ∀ principal now relations permission scope,
    (permission, scope) ∈ (state.effectivePermissionsFor principal now relations).delegatedGrants →
      permission.isMeta = false
  backed : ∀ principal now relations permission scope,
    (permission, scope) ∈ (state.effectivePermissionsFor principal now relations).delegatedGrants →
      ∃ stored ∈ state.delegations.values, stored.inner.to_ = principal ∧
        stored.inner.isActive now = true ∧ stored.inner.scope = scope ∧
        permission ∈ stored.inner.grantedPermissions state.roles ∧
        ∃ grantor, state.users.get stored.inner.from_ = some grantor ∧ grantor.active = true ∧
          (effectivePermissions stored.inner.from_ grantor.roleAssignments state.roles []
            now).hasViaRole permission scope relations.bookScope = true

def Ordinary (state : AppState) : Prop :=
  ∀ stored ∈ state.delegations.values, stored.inner.revoked = false →
    ∀ permission ∈ stored.inner.grantedPermissions state.roles, permission.isMeta = false

theorem Ordinary.delegatedSound (ordinary : state.Ordinary) : state.DelegatedSound where
  ordinary principal now relations permission scope delegated := by
    obtain ⟨-, stored, listed, -, active, -, granted, -⟩ := mem_delegatedGrants_iff.mp delegated
    have unrevoked : stored.inner.revoked = false := by
      simp only [Delegation.isActive, Bool.and_eq_true, Bool.not_eq_true'] at active
      exact active.1.1.2
    exact ordinary stored listed unrevoked permission granted
  backed principal now relations permission scope delegated := by
    obtain ⟨-, stored, listed, addressed, active, placed, granted, authority, resolved, viaRole⟩ :=
      mem_delegatedGrants_iff.mp delegated
    obtain ⟨grantor, found, working, rfl⟩ := roleAuthority_eq_some_iff.mp resolved
    exact ⟨stored, listed, addressed, active, placed, granted, grantor, found, working, viaRole⟩

/-- A request puts no meta verb under a role that an unrevoked delegation names. -/
def AdmitsRequest (state : AppState) (request : Request) : Prop :=
  ∀ authored ∈ request.authored, (∀ permission ∈ authored.2, permission.isMeta = false) ∨
    ∀ stored ∈ state.delegations.values, stored.inner.revoked = false →
      authored.1 ∉ stored.inner.roles

instance : Decidable (state.AdmitsRequest request) :=
  inferInstanceAs (Decidable (∀ authored ∈ request.authored, _))

theorem mem_grantedPermissions_insert {delegation : Delegation} {catalog : RoleCatalog}
    {role : Role} {permission : Permission}
    (granted : permission ∈ delegation.grantedPermissions (catalog.insert role)) :
    permission ∈ delegation.grantedPermissions catalog ∨
      role.id ∈ delegation.roles ∧ permission ∈ role.permissionSet := by
  rcases Delegation.mem_grantedPermissions.mp granted with own | ⟨id, named, other, known, member⟩
  · exact .inl (Delegation.mem_grantedPermissions.mpr (.inl own))
  rcases Table.get_insert_eq_some_iff.mp known with ⟨rfl, rfl⟩ | ⟨-, before⟩
  · exact .inr ⟨named, member⟩
  · exact .inl (Delegation.mem_grantedPermissions.mpr (.inr ⟨id, named, other, before, member⟩))

theorem Ordinary.author (ordinary : state.Ordinary) {role : Role}
    (admits : state.AdmitsRequest request)
    (written : request.authored = some (role.id, role.permissionSet) ∨
      ∃ existing, state.roles.get role.id = some existing ∧
        existing.permissionSet = role.permissionSet) :
    ({ state with roles := state.roles.insert role } : AppState).Ordinary := by
  intro stored listed unrevoked permission granted
  rcases mem_grantedPermissions_insert granted with before | ⟨named, member⟩
  · exact ordinary stored listed unrevoked permission before
  rcases written with asked | ⟨existing, known, same⟩
  · rcases admits _ asked with harmless | unnamed
    · exact harmless permission member
    · exact (unnamed stored listed unrevoked named).elim
  · refine ordinary stored listed unrevoked permission
      (Delegation.mem_grantedPermissions.mpr (.inr ⟨role.id, named, existing, known, ?_⟩))
    rw [same]
    exact member

theorem Ordinary.erase (ordinary : state.Ordinary) (id : Uuid) :
    ({ state with roles := RoleCatalog.without state.roles id } : AppState).Ordinary := by
  intro stored listed unrevoked permission granted
  apply ordinary stored listed unrevoked permission
  rw [Delegation.mem_grantedPermissions] at granted ⊢
  apply granted.imp_right
  rintro ⟨named, inside, role, known, member⟩
  exact ⟨named, inside, role, RoleCatalog.get_of_get_without known, member⟩

/-- **One request.** A request that writes no meta verb under a delegated role keeps
delegations free of them. -/
theorem Ordinary.of_effect (ordinary : state.Ordinary) (admits : state.AdmitsRequest request)
    (effect : state.Effect session request later) : later.Ordinary := by
  cases effect with
  | author role allowed written => exact ordinary.author admits written
  | erase id => exact ordinary.erase id
  | assign user role scope found known allowed => exact ordinary
  | unassign user found kept fewer => exact ordinary
  | grant stored unshaped delegable =>
      intro other listed unrevoked permission granted
      rcases Table.eq_or_mem_of_mem_values_insert listed with rfl | before
      · rcases Delegation.mem_grantedPermissions.mp granted with
          own | ⟨id, named, role, known, member⟩
        · rw [unshaped] at own
          cases own
        · obtain ⟨role', known', harmless⟩ := delegable id named
          rw [Option.some.inj (known.symm.trans known')] at member
          exact harmless permission member
      · exact ordinary other before unrevoked permission granted
  | mark existing stored found verbs revoked =>
      intro other listed unrevoked permission granted
      rcases Table.eq_or_mem_of_mem_values_insert listed with rfl | before
      · rw [verbs] at granted
        exact ordinary existing (Table.mem_values_of_get found) (revoked unrevoked) permission
          granted
      · exact ordinary other before unrevoked permission granted
  | unchanged => exact ordinary

/-- The condition of a run: see `AdmitsRequest`. -/
def Admits (state : AppState) : Occurrence → Prop
  | .request _ request => state.AdmitsRequest request
  | .setActive _ _ => True

instance : ∀ occurrence, Decidable (state.Admits occurrence)
  | .request _ request => inferInstanceAs (Decidable (state.AdmitsRequest request))
  | .setActive _ _ => .isTrue trivial

section Runs

variable [Crates] [TimeParse]

def react (state : AppState) : Occurrence → AppState
  | .request session request => state.afterRequest session request
  | .setActive id active =>
      match state.users.get id with
      | none => state
      | some user => { state with users := state.users.insert { user with active } }

theorem Ordinary.react (ordinary : state.Ordinary) {occurrence : Occurrence}
    (admits : state.Admits occurrence) : (state.react occurrence).Ordinary := by
  cases occurrence with
  | request session request =>
      exact ordinary.of_effect admits (effect_afterRequest state session request)
  | setActive id active =>
      rw [AppState.react]
      split
      · exact ordinary
      · exact ordinary

end Runs

/-- A role that reads acts, and one that runs the role machinery. -/
def actReader : Role := ⟨⟨7⟩, "Acts", {.actRead}, false⟩

def steward : Role := ⟨⟨8⟩, "Steward", {.actRead, .roleManage, .delegationGrant}, false⟩

def stewardship : AppState where
  users := (Table.empty.insert ⟨⟨1⟩, true, [⟨⟨8⟩, .global⟩]⟩).insert ⟨⟨2⟩, true, []⟩
  roles := (Table.empty.insert actReader).insert steward
  delegations := .empty
  signupDefaultRole := ⟨9⟩

def stewardSession : Session where
  user := ⟨1⟩
  now := unixEpoch
  relations := .unrelated

/-- The steward delegates the reading of acts to the second user. -/
def delegateActs : Occurrence :=
  .request stewardSession (.grantDelegation ⟨⟨2⟩, [⟨7⟩], none, [], .global, none, none, some "ata"⟩
    ⟨20⟩ unixEpoch)

/-- The steward widens the delegated role by a meta verb. -/
def widenActs : Occurrence :=
  .request stewardSession (.patchRole ⟨7⟩ ⟨none, some [.actRead, .roleManage]⟩)

end AppState

end Chancela
