import Chancela.Authz.Effective
import Mathlib.Data.Finset.Insert

/-! # Escalation by assignment or delegation

Before a role is assigned or delegated, each of its verbs is looked for in the actor's
authority at the scope of the new grant. The holder then exercises the verbs at targets
below that scope. The checks keep the holder within the actor's authority exactly for
the parent relations whose chains stay within the reach of the coverage walk
(`Chancela.BookScope.noEscalation_iff`).
-/

namespace Chancela

variable {books : BookScope} {actor : ScopedPermissionSet} {permission : Permission}
  {scope target : Scope}

theorem hasPermission_of_covers (composes : books.Composes)
    (held : hasPermission actor permission scope books = true)
    (covers : scopeCovers scope target books = true) :
    hasPermission actor permission target books = true := by
  obtain ⟨grant, granted, upper⟩ := hasPermission_eq_true_iff.mp held
  exact hasPermission_eq_true_iff.mpr ⟨grant, granted, composes upper covers⟩

theorem hasViaRole_of_covers (composes : books.Composes)
    (held : actor.hasViaRole permission scope books = true)
    (covers : scopeCovers scope target books = true) :
    actor.hasViaRole permission target books = true := by
  obtain ⟨grant, granted, upper⟩ := hasViaRole_eq_true_iff.mp held
  exact hasViaRole_eq_true_iff.mpr ⟨grant, granted, composes upper covers⟩

namespace BookScope

/-- No escalation: what a principal holds by one assignment that could be made, and what
one delegation that could be granted conveys, the actor satisfies too. -/
structure NoEscalation (books : BookScope) : Prop where
  /-- The principal holds nothing but the assignment. -/
  assignments : ∀ (actor : ScopedPermissionSet) (catalog : RoleCatalog) (role : Role)
    (scope : Scope), catalog.get role.id = some role →
    canAssignRole actor role scope books = true →
    ∀ (principal : Uuid) (now : OffsetDateTime) (permission : Permission) (target : Scope),
      hasPermission (effectivePermissions principal [⟨role.id, scope⟩] catalog [] now) permission
        target books = true →
      hasPermission actor permission target books = true
  /-- The grantee holds nothing but the delegation, of whatever lifetime. -/
  delegations : ∀ (actor : ScopedPermissionSet) (catalog : RoleCatalog) (roles : List Uuid)
    (scope : Scope), canDelegateRoles actor roles catalog scope books = .ok ⟨⟩ →
    ∀ (from_ to_ : Uuid) (delegation : Delegation),
      Delegation.withRoles from_ to_ roles scope = some delegation →
    ∀ (startsAt : OffsetDateTime) (expiresAt : Option OffsetDateTime)
      (legalBasis : Option String) (now : OffsetDateTime) (permission : Permission)
      (target : Scope),
      hasPermission (effectivePermissions to_ [] catalog
        [{ delegation with startsAt, expiresAt, legalBasis }] now) permission target books = true →
      permission.isMeta = false ∧ actor.hasViaRole permission target books = true

theorem Composes.assignment_confined (composes : books.Composes) {catalog : RoleCatalog}
    {role : Role} (known : catalog.get role.id = some role)
    (assignable : canAssignRole actor role scope books = true) {principal : Uuid}
    {now : OffsetDateTime}
    (satisfied : hasPermission (effectivePermissions principal [⟨role.id, scope⟩] catalog [] now)
      permission target books = true) :
    hasPermission actor permission target books = true := by
  obtain ⟨held, granted, covers⟩ := hasPermission_eq_true_iff.mp satisfied
  rcases List.mem_append.mp granted with assigned | conveyed
  · obtain ⟨assignment, listed, rfl, found, resolved, member⟩ := mem_assignedGrants.mp assigned
    rw [List.mem_singleton.mp listed] at resolved covers
    rw [known] at resolved
    rw [← Option.some.inj resolved] at member
    exact hasPermission_of_covers composes
      (canAssignRole_eq_true_iff.mp assignable permission member) covers
  · obtain ⟨delegation, listed, -⟩ := mem_conveyedGrants.mp conveyed
    cases listed

theorem Composes.delegation_confined (composes : books.Composes) {catalog : RoleCatalog}
    {roles : List Uuid} (delegable : canDelegateRoles actor roles catalog scope books = .ok ⟨⟩)
    {from_ to_ : Uuid} {delegation : Delegation}
    (built : Delegation.withRoles from_ to_ roles scope = some delegation)
    {startsAt : OffsetDateTime} {expiresAt : Option OffsetDateTime} {legalBasis : Option String}
    {now : OffsetDateTime}
    (satisfied : hasPermission (effectivePermissions to_ [] catalog
      [{ delegation with startsAt, expiresAt, legalBasis }] now) permission target books = true) :
    permission.isMeta = false ∧ actor.hasViaRole permission target books = true := by
  obtain ⟨-, rfl⟩ := Delegation.withRoles_eq_some_iff.mp built
  obtain ⟨held, granted, covers⟩ := hasPermission_eq_true_iff.mp satisfied
  rcases List.mem_append.mp granted with assigned | conveyed
  · obtain ⟨assignment, listed, -⟩ := mem_assignedGrants.mp assigned
    cases listed
  obtain ⟨conveying, listed, -, -, rfl, conveys⟩ := mem_conveyedGrants.mp conveyed
  rw [List.mem_singleton.mp listed] at conveys covers
  rcases Delegation.mem_grantedPermissions.mp conveys with own | ⟨id, named, role, known, member⟩
  · rcases Delegation.mem_permissions.mp own with primary | extra
    · cases primary
    · cases extra
  have requested : id ∈ roles := (mem_foldl_pushDistinct.mp named).resolve_left (by simp)
  obtain ⟨role', known', checked⟩ := canDelegateRoles_eq_ok_iff.mp delegable id requested
  rw [known] at known'
  rw [← Option.some.inj known'] at checked
  obtain ⟨ordinary, viaRole⟩ := canDelegate_eq_true_iff.mp (checked permission member)
  exact ⟨ordinary, hasViaRole_of_covers composes viaRole covers⟩

def readerOfActs : Role := ⟨⟨7⟩, "Acts", {.actRead}, false⟩

def actsCatalog : RoleCatalog := Table.empty.insert readerOfActs

theorem NoEscalation.composes (sound : books.NoEscalation) : books.Composes := by
  intro grant scope target upper lower
  have known : actsCatalog.get readerOfActs.id = some readerOfActs := Table.get_insert_self
  have assignable : canAssignRole ⟨[(.actRead, grant)], []⟩ readerOfActs scope books = true := by
    rw [canAssignRole_eq_true_iff]
    intro permission member
    rw [Finset.mem_singleton.mp member]
    exact hasPermission_eq_true_iff.mpr ⟨grant, List.mem_singleton_self _, upper⟩
  have held : hasPermission (effectivePermissions ⟨0⟩ [⟨readerOfActs.id, scope⟩]
      actsCatalog [] unixEpoch) .actRead target books = true := by
    refine hasPermission_eq_true_iff.mpr ⟨scope, List.mem_append_left _ ?_, lower⟩
    exact mem_assignedGrants.mpr ⟨⟨readerOfActs.id, scope⟩, List.mem_singleton_self _, rfl,
      readerOfActs, known, Finset.mem_singleton_self _⟩
  have satisfied := sound.assignments _ _ readerOfActs scope known assignable ⟨0⟩ unixEpoch _
    target held
  obtain ⟨scope', granted, covers⟩ := hasPermission_eq_true_iff.mp satisfied
  rw [(Prod.mk.inj (List.mem_singleton.mp granted)).2] at covers
  exact covers

/-- **No escalation within reach.** Assignments and delegations stay within the authority
they are checked against exactly where no scope lies at the eighth hop alone and what
covers `Global` covers everything. -/
theorem noEscalation_iff : books.NoEscalation ↔ books.WithinReach := by
  constructor
  · intro sound
    exact sound.composes.withinReach
  · intro within
    have composes := within.composes
    refine ⟨?_, ?_⟩
    · intro actor catalog role scope known assignable principal now permission target
      exact composes.assignment_confined known assignable
    · intro actor catalog roles scope delegable from_ to_ delegation built startsAt expiresAt
        legalBasis now permission target
      exact composes.delegation_confined delegable built

def nestedFolders : BookScope where
  entityOf _ := none
  parentOfFolder id := if id.bits < 8 then some (.folder ⟨id.bits + 1⟩) else none

/-- An actor with authority over the outermost folder assigns a role in the second; the
holder reaches the innermost folder, which the actor does not. -/
theorem not_noEscalation_nestedFolders : ¬nestedFolders.NoEscalation := by
  intro sound
  have satisfied : hasPermission ⟨[(.actRead, .folder ⟨8⟩)], []⟩ .actRead (.folder ⟨0⟩)
      nestedFolders = true :=
    sound.assignments _ actsCatalog readerOfActs (.folder ⟨1⟩) (by decide)
      (by decide) ⟨0⟩ unixEpoch .actRead (.folder ⟨0⟩) (by decide)
  exact absurd satisfied (by decide)

end BookScope

end Chancela
