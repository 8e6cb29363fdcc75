import Chancela.Crates.Basic
import Chancela.Authz.Scope
import Chancela.Foundation.Table
import Mathlib.Data.Finset.Dedup

/-! # Permissions and roles

The catalog of verbs is code; which verbs a role grants is data. A role catalog holds
each role under its own identifier.
-/

namespace Chancela

/-- The verbs, in declaration order. -/
inductive Permission where
  | tenantRead
  | tenantCreate
  | tenantAdmin
  | entityRead
  | entityCreate
  | entityUpdate
  | entityRegistryImport
  | entityRegistryLookup
  | entityArchive
  | bookRead
  | bookOpen
  | bookClose
  | bookExport
  | bookImport
  | bookStartOver
  | bookReopen
  | legalHoldManage
  | actRead
  | actDraft
  | actEdit
  | actAdvance
  | actRevert
  | actArchive
  | signingPerform
  | signingConfigure
  | documentGenerate
  | templateManage
  | searchRead
  | searchManage
  | ledgerRead
  | ledgerRecover
  | ledgerReanchor
  | ledgerRestore
  | dataBackup
  | dataExport
  | dataWipe
  | dataStartOver
  | privacyManage
  | retentionManage
  | settingsRead
  | settingsManage
  | platformLogsWrite
  | caeRead
  | caeRefresh
  | lawRead
  | lawManage
  | trustManage
  | userRead
  | userManage
  | userInvite
  | roleManage
  | roleAssign
  | delegationGrant
  | delegationRevoke
deriving DecidableEq

namespace Permission

/-- `Permission::ALL`, in declaration order. -/
def all : List Permission :=
  [.tenantRead, .tenantCreate, .tenantAdmin, .entityRead, .entityCreate, .entityUpdate,
    .entityRegistryImport, .entityRegistryLookup, .entityArchive, .bookRead, .bookOpen,
    .bookClose, .bookExport, .bookImport, .bookStartOver, .bookReopen, .legalHoldManage,
    .actRead, .actDraft, .actEdit, .actAdvance, .actRevert, .actArchive, .signingPerform,
    .signingConfigure, .documentGenerate, .templateManage, .searchRead, .searchManage,
    .ledgerRead, .ledgerRecover, .ledgerReanchor, .ledgerRestore, .dataBackup, .dataExport,
    .dataWipe, .dataStartOver, .privacyManage, .retentionManage, .settingsRead, .settingsManage,
    .platformLogsWrite, .caeRead, .caeRefresh, .lawRead, .lawManage, .trustManage, .userRead,
    .userManage, .userInvite, .roleManage, .roleAssign, .delegationGrant, .delegationRevoke]

theorem mem_all (permission : Permission) : permission ∈ all := by
  cases permission <;> decide

/-- `Permission::as_str`, the dotted id. -/
def asStr : Permission → String
  | .tenantRead => "tenant.read"
  | .tenantCreate => "tenant.create"
  | .tenantAdmin => "tenant.admin"
  | .entityRead => "entity.read"
  | .entityCreate => "entity.create"
  | .entityUpdate => "entity.update"
  | .entityRegistryImport => "entity.registry.import"
  | .entityRegistryLookup => "entity.registry.lookup"
  | .entityArchive => "entity.archive"
  | .bookRead => "book.read"
  | .bookOpen => "book.open"
  | .bookClose => "book.close"
  | .bookExport => "book.export"
  | .bookImport => "book.import"
  | .bookStartOver => "book.start_over"
  | .bookReopen => "book.reopen"
  | .legalHoldManage => "legal_hold.manage"
  | .actRead => "act.read"
  | .actDraft => "act.draft"
  | .actEdit => "act.edit"
  | .actAdvance => "act.advance"
  | .actRevert => "act.revert"
  | .actArchive => "act.archive"
  | .signingPerform => "signing.perform"
  | .signingConfigure => "signing.configure"
  | .documentGenerate => "document.generate"
  | .templateManage => "template.manage"
  | .searchRead => "search.read"
  | .searchManage => "search.manage"
  | .ledgerRead => "ledger.read"
  | .ledgerRecover => "ledger.recover"
  | .ledgerReanchor => "ledger.reanchor"
  | .ledgerRestore => "ledger.restore"
  | .dataBackup => "data.backup"
  | .dataExport => "data.export"
  | .dataWipe => "data.wipe"
  | .dataStartOver => "data.start_over"
  | .privacyManage => "privacy.manage"
  | .retentionManage => "retention.manage"
  | .settingsRead => "settings.read"
  | .settingsManage => "settings.manage"
  | .platformLogsWrite => "platform.logs.write"
  | .caeRead => "cae.read"
  | .caeRefresh => "cae.refresh"
  | .lawRead => "law.read"
  | .lawManage => "law.manage"
  | .trustManage => "trust.manage"
  | .userRead => "user.read"
  | .userManage => "user.manage"
  | .userInvite => "user.invite"
  | .roleManage => "role.manage"
  | .roleAssign => "role.assign"
  | .delegationGrant => "delegation.grant"
  | .delegationRevoke => "delegation.revoke"

/-- `Permission::is_meta`: the verbs that drive the role machinery itself. -/
def isMeta : Permission → Bool
  | .roleManage | .roleAssign | .delegationGrant | .delegationRevoke => true
  | _ => false

def selfSignupForbidden : List Permission :=
  [.userManage, .roleManage, .roleAssign, .settingsManage, .delegationGrant, .dataWipe,
    .dataStartOver, .bookStartOver, .legalHoldManage, .privacyManage, .retentionManage,
    .ledgerReanchor, .ledgerRestore, .signingConfigure, .searchManage]

end Permission

/-- A named, editable set of verbs. A protected role is locked and undeletable. -/
structure Role where
  id : Uuid
  name : String
  permissionSet : Finset Permission
  protected_ : Bool
deriving DecidableEq

def ownerRoleId : Uuid := ⟨0x6f776e6572000000_0000000000000001⟩

inductive SignupDefaultRefusal where
  | isProtected
  | holdsPrivilegedPermission (permission : Permission)
deriving DecidableEq

/-- `Display` of a refusal. -/
def SignupDefaultRefusal.display : SignupDefaultRefusal → String
  | .isProtected => "it is the protected Owner role, which self-signup may never grant"
  | .holdsPrivilegedPermission permission =>
      "it holds " ++ permission.asStr ++ ", which a self-signed-up account may never receive"

namespace Role

/-- The verbs of a role in the order of the set it is stored in. -/
def permissions (role : Role) : List Permission :=
  Permission.all.filter (· ∈ role.permissionSet)

@[simp] theorem mem_permissions {role : Role} {permission : Permission} :
    permission ∈ role.permissions ↔ permission ∈ role.permissionSet := by
  rw [permissions, List.mem_filter, decide_eq_true_eq]
  exact and_iff_right permission.mem_all

def canBeDeleted (role : Role) : Bool := !role.protected_

def signupDefaultRefusal (role : Role) : Option SignupDefaultRefusal :=
  if role.protected_ then some .isProtected
  else (Permission.selfSignupForbidden.find? (· ∈ role.permissionSet)).map
    .holdsPrivilegedPermission

/-- `Role::owner`: every verb, protected. -/
def owner : Role where
  id := ownerRoleId
  name := "Owner"
  permissionSet := Permission.all.toFinset
  protected_ := true

end Role

abbrev RoleCatalog := Table Role.id

namespace RoleCatalog

/-- The catalog without the roles of an identifier, rebuilt from the others. -/
def without (catalog : RoleCatalog) (id : Uuid) : RoleCatalog :=
  Table.fromIter (catalog.values.filter (·.id ≠ id))

theorem get_of_get_without {catalog : RoleCatalog} {id other : Uuid} {role : Role}
    (present : (catalog.without id).get other = some role) : catalog.get other = some role := by
  rw [← Table.key_of_get present]
  exact Table.mem_values.mp (List.mem_filter.mp (Table.mem_of_get_fromIter present)).1

end RoleCatalog

/-- A role held at a scope. -/
structure RoleAssignment where
  roleId : Uuid
  scope : Scope
deriving DecidableEq

/-- `RoleAssignment::is_owner_admin`: the Owner role at `Global`. -/
def RoleAssignment.isOwnerAdmin (assignment : RoleAssignment) : Bool :=
  assignment.roleId = ownerRoleId && assignment.scope.isGlobal

end Chancela
