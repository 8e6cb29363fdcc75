import Chancela.Api.UserCreation
import Chancela.Connector.Config
import Chancela.Core.Content
import Chancela.Foundation.Table

/-! # Connector target records

A target of a tenant, the bodies of the requests that create and patch one, and the checks the
requests share. A target is never removed: it is archived, and no longer active.
-/

namespace Chancela

open Outcome

structure ConnectorTargetRecord where
  schemaVersion : UInt32
  id : Uuid
  repositoryId : Uuid
  tenantId : TenantId
  name : String
  enabled : Bool
  purposes : Finset JobPurpose
  config : TargetConfig
  createdAt : String
  updatedAt : String
  archivedAt : Option String
deriving DecidableEq

abbrev ConnectorTargetMap := Table ConnectorTargetRecord.id

structure CreateTargetBody where
  name : String
  enabled : Bool
  purposes : Finset JobPurpose
  config : TargetConfig

structure PatchTargetBody where
  name : Option String
  enabled : Option Bool
  purposes : Option (Finset JobPurpose)
  config : Option TargetConfig

/-- How a request on a target is refused. -/
inductive TargetError where
  | notFound
  | forbidden (message : String)
  | conflict (message : String)
  | unprocessable (message : String)
  | unavailable (message : String)
  | internal (message : String)
deriving DecidableEq

def maxTargetsPerTenant : Nat := 128

def maxTargetNameChars : Nat := 160

def normalizedName (value : String) : Except TargetError String :=
  if Text.trim value = "" ∨ (Text.trim value).length > maxTargetNameChars then
    .error (.unprocessable ("connector target name must contain 1 to " ++
      toString maxTargetNameChars ++ " characters"))
  else .ok (Text.trim value)

def validatePurposes (purposes : Finset JobPurpose) (config : TargetConfig) :
    Except TargetError Unit := do
  rejectIf (purposes = ∅) (.unprocessable "connector target must allow at least one purpose")
  rejectIf (.sync ∈ purposes ∧ config.kind = .s3)
    (.unprocessable "S3 targets are backup-only and cannot be enabled for sync")

/-- `validate_api_target`, with what the network policy answers. -/
def validateApiTarget [UrlCrate] (networkPolicy : Except String Unit) (config : TargetConfig) :
    Except TargetError Unit := do
  rejectIf (config.kind = .local_)
    (.unprocessable ("local filesystem connector targets are deployment-only and cannot be "
      ++ "created through the API"))
  config.validate.mapError fun message => .unprocessable ("Configuration: " ++ message)
  networkPolicy.mapError .unprocessable

namespace ConnectorTargetRecord

variable (record : ConnectorTargetRecord)

def isActive : Bool := record.archivedAt.isNone

def patched (body : PatchTargetBody) (now : String) : ConnectorTargetRecord :=
  { record with
    name := (body.name.map Text.trim).getD record.name
    enabled := body.enabled.getD record.enabled
    purposes := body.purposes.getD record.purposes
    config := (body.config.map (·.withId record.id.display)).getD record.config
    updatedAt := now }

def archived (now : String) : ConnectorTargetRecord :=
  { record with enabled := false, updatedAt := now, archivedAt := some now }

/-- Another active target of the tenant has the name, up to ASCII case. -/
def rivals (other : ConnectorTargetRecord) : Bool :=
  other.tenantId = record.tenantId && other.isActive && eqIgnoreAsciiCase other.name record.name

variable {record}

@[simp] theorem id_patched {body : PatchTargetBody} {now : String} :
    (record.patched body now).id = record.id := rfl

@[simp] theorem tenantId_patched {body : PatchTargetBody} {now : String} :
    (record.patched body now).tenantId = record.tenantId := rfl

@[simp] theorem isActive_patched {body : PatchTargetBody} {now : String} :
    (record.patched body now).isActive = record.isActive := rfl

@[simp] theorem id_archived {now : String} : (record.archived now).id = record.id := rfl

@[simp] theorem isActive_archived {now : String} : (record.archived now).isActive = false := rfl

end ConnectorTargetRecord

namespace ConnectorTargetMap

variable (targets : ConnectorTargetMap)

/-- `target_for_path`. -/
def forPath (tenant : TenantId) (target : Uuid) : Except TargetError ConnectorTargetRecord :=
  match (targets.get target).filter (·.tenantId = tenant) with
  | some record => .ok record
  | none => .error .notFound

def countActive (tenant : TenantId) : Nat :=
  (targets.values.filter fun target => target.tenantId = tenant && target.isActive).length

/-- The names of active targets are unique within a tenant, and no tenant has too many. -/
structure Registered : Prop where
  unique : ∀ {first second}, first ∈ targets.values → second ∈ targets.values →
    first.isActive = true → first.rivals second = true → first.id = second.id
  bounded : ∀ tenant, countActive targets tenant ≤ maxTargetsPerTenant

end ConnectorTargetMap

/-- `create_target` before the lock: the record to be put in. -/
def prepareCreate [UrlCrate] (tenant : TenantId) (body : CreateTargetBody)
    (networkPolicy : Except String Unit) (newId newRepositoryId : Uuid) (now : String) :
    Except TargetError ConnectorTargetRecord := do
  let name ← normalizedName body.name
  let config := body.config.withId newId.display
  validateApiTarget networkPolicy config
  validatePurposes body.purposes config
  return {
    schemaVersion := 1
    id := newId
    repositoryId := newRepositoryId
    tenantId := tenant
    name := name
    enabled := body.enabled
    purposes := body.purposes
    config := config
    createdAt := now
    updatedAt := now
    archivedAt := none }

/-- `patch_target` between its copy and the lock: whether the copy may be patched so. -/
def checkPatch [UrlCrate] (current : ConnectorTargetRecord) (body : PatchTargetBody)
    (networkPolicy : Except String Unit) : Except TargetError Unit := do
  rejectIf (current.isActive = false) (.conflict "archived connector targets cannot be edited")
  match body.name with
  | some name => (normalizedName name).map fun _ => ()
  | none => .ok ()
  match body.config with
  | some config => validateApiTarget networkPolicy (config.withId current.id.display)
  | none => .ok ()
  validatePurposes (body.purposes.getD current.purposes)
    ((body.config.map (·.withId current.id.display)).getD current.config)

end Chancela
