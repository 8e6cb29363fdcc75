import Chancela.Foundation.Locking
import Chancela.Groups.Library

/-! # Requests on groups and libraries

The handlers that change groups, their members and their libraries, each as a program under the
locks it takes. All take the groups first, then what they change, and the ledger last; an event is
appended, the rows are written in one transaction, and only then do the maps take the change. Each
gives its locks up in the reverse order, unless it drops one early.
-/

namespace Chancela

open Locking Outcome

/-- The locks of the maps and of the ledger. -/
inductive GroupLock where
  | companyGroups
  | groupTemplateLibraries
  | groupTemplateLibraryRevisions
  | entities
  | ledger
deriving DecidableEq

/-- The maps of groups, libraries, revisions and entities. -/
structure GroupMaps where
  groups : GroupMap
  libraries : LibraryMap
  revisions : RevisionMap
  entities : MemberMap

/-- What a request writes. -/
structure GroupChange where
  groups : List CompanyGroup := []
  libraries : List GroupTemplateLibrary := []
  revisions : List GroupTemplateLibraryRevision := []
  entities : List GroupedEntity := []

namespace GroupMaps

def insertAll (maps : GroupMaps) (change : GroupChange) : GroupMaps where
  groups := change.groups.foldl Table.insert maps.groups
  libraries := change.libraries.foldl Table.insert maps.libraries
  revisions := change.revisions.foldl Table.insert maps.revisions
  entities := change.entities.foldl Table.insert maps.entities

/-- The transaction of a request: it replaces groups, libraries and entities, and adds revisions.
A revision that is there already is reported in the words of the database. -/
def transact (rows : GroupMaps) (change : GroupChange) (uniqueViolation : String) :
    Except String GroupMaps :=
  if change.revisions.any (fun revision => decide (2 ^ 63 ≤ revision.revision)) = true then
    .error "i/o error: template library revision does not fit database INTEGER"
  else if change.revisions.any (fun revision => (rows.revisions.get revision.key).isSome) = true
  then .error uniqueViolation
  else .ok (rows.insertAll change)

end GroupMaps

/-- The maps in memory, the rows of the durable store, and the ledger. -/
structure GroupSite where
  maps : GroupMaps
  rows : GroupMaps
  ledger : Ledger

/-- What the payload of an event is made of. -/
inductive GroupPayload where
  | group (group : CompanyGroup)
  | groupArchived (group : CompanyGroup) (archivedTemplateLibraryIds : List String)
  | membership (entityId : EntityId) (groupId : GroupId) (tenantId : TenantId)
  | libraryCreated (library : GroupTemplateLibrary) (revision : GroupTemplateLibraryRevision)
  | library (library : GroupTemplateLibrary)
  | revision (revision : GroupTemplateLibraryRevision)

/-- What a request finds outside the locks: who asks and what is permitted, the clock, the
identifier that it draws, the templates, and how its durable write ends. -/
structure GroupSurroundings where
  actor : String
  requirePermission : Except ServiceError Unit
  tenantKnown : Bool
  now : OffsetDateTime
  newId : Uuid
  eventId : Uuid
  templateIdExists : String → Except ServiceError Bool
  payload : GroupPayload → Except ServiceError (List UInt8)
  persist : Except ServiceError Unit
  uniqueViolation : String

structure CompanyGroupView where
  group : CompanyGroup
  memberCount : Nat
  templateLibraryCount : Nat

structure GroupTemplateLibraryView where
  library : GroupTemplateLibrary
  currentRevision : Option GroupTemplateLibraryRevision

inductive GroupAnswer where
  | group (created : Bool) (view : CompanyGroupView)
  | library (created : Bool) (view : GroupTemplateLibraryView)
  | entity (entity : GroupedEntity)
  | revision (revision : GroupTemplateLibraryRevision)
  | noContent

abbrev GroupProgram := Program GroupLock GroupSite (Except GroupError GroupAnswer)

namespace GroupProgram

/-- Give up what is held, the last taken first, and answer. -/
def answer (held : List GroupLock) (result : Except GroupError GroupAnswer) : GroupProgram :=
  Program.release held (.done result)

/-- Go on with the outcome of a check, or give up what is held and refuse: `?`. -/
def check {β : Type} (held : List GroupLock) (outcome : Except GroupError β)
    (next : β → GroupProgram) : GroupProgram :=
  match outcome with
  | .error fault => answer held (.error fault)
  | .ok value => next value

end GroupProgram

open GroupProgram

def tenantScope (tenantId : TenantId) : String := "tenant:" ++ tenantId.display

def entityLedgerScope (tenantId : TenantId) (entityId : EntityId) : String :=
  "tenant:" ++ tenantId.display ++ "/entity:" ++ entityId.display

def auditObject (groupId : GroupId) : Option TemplateLibraryId → String
  | some libraryId => "group:" ++ groupId.display ++ "/library:" ++ libraryId.display
  | none => "group:" ++ groupId.display

/-- `group_view`, on which a request ends. -/
def groupView (group : CompanyGroup) (created : Bool) : GroupProgram :=
  .lock .entities .read fun site =>
    let memberCount := site.maps.entities.values.countP fun entity =>
      decide (entity.tenantId = group.tenantId) && decide (entity.groupId = some group.id)
    .unlock .entities <| .lock .groupTemplateLibraries .read fun site =>
      let templateLibraryCount := site.maps.libraries.values.countP fun library =>
        decide (library.groupId = group.id) && !library.isArchived
      .unlock .groupTemplateLibraries <|
        .done (.ok (.group created ⟨group, memberCount, templateLibraryCount⟩))

/-- `library_view`, on which a request ends that still holds some locks. -/
def libraryView (held : List GroupLock) (library : GroupTemplateLibrary) : GroupProgram :=
  .lock .groupTemplateLibraryRevisions .read fun site =>
    let current := currentRevision site.maps.revisions library.groupId library.id
    .unlock .groupTemplateLibraryRevisions <| answer held (.ok (.library false ⟨library, current⟩))

namespace GroupSite

/-- `AppState::persist_write_through`: a failed write rolls the event back and leaves the rows. -/
def persistWriteThrough (site : GroupSite) (change : GroupChange) (around : GroupSurroundings) :
    Except GroupError Unit × GroupSite :=
  match around.persist with
  | .error fault =>
      (.error (.service fault), { site with ledger := rollbackLedgerEvents site.ledger 1 })
  | .ok () =>
      match site.rows.transact change around.uniqueViolation with
      | .error message =>
          (.error (.service (.internal ("failed to persist to the durable store: " ++ message))),
            { site with ledger := rollbackLedgerEvents site.ledger 1 })
      | .ok rows => (.ok (), { site with rows := rows })

end GroupSite

section Requests

variable [Crates]

/-- `try_append_event` under the ledger lock. -/
def GroupSite.tryAppendEvent (site : GroupSite) (call : AppendCall) :
    Except GroupError Unit × GroupSite :=
  match site.ledger.tryAppend call with
  | (.error rejection, ledger) =>
      (.error (.appendRejected call.kind rejection), { site with ledger := ledger })
  | (.ok _, ledger) => (.ok (), { site with ledger := ledger })

def GroupSurroundings.event (around : GroupSurroundings) (scope kind object : String)
    (payload : List UInt8) : AppendCall :=
  ⟨around.actor, scope, kind, some object, payload, around.eventId, around.now⟩

/-- The end of a request: append its event, write its rows, put its change into the maps. -/
def persistChange (around : GroupSurroundings) (held : List GroupLock) (call : AppendCall)
    (change : GroupChange) (next : GroupProgram) : GroupProgram :=
  .lock .ledger .write fun _ =>
    .perform (fun site => site.tryAppendEvent call) fun appended =>
      check (.ledger :: held) appended fun () =>
        .perform (fun site => site.persistWriteThrough change around) fun written =>
          check (.ledger :: held) written fun () =>
            .modify (fun site => { site with maps := site.maps.insertAll change }) fun _ => next

section Handlers

variable [Unicode] (around : GroupSurroundings) (tenantId : TenantId) (groupId : GroupId)
  (libraryId : TemplateLibraryId)

def createGroup (body : CreateGroupBody) : GroupProgram :=
  check [] (do
    around.requirePermission.mapError GroupError.service
    rejectIf (around.tenantKnown = false) .notFound
    let name ← normalizedRequired body.name "name" maxNameChars
    let description ← normalizedOptional body.description "description"
    let group := { CompanyGroup.new around.newId tenantId name around.now with
      description := description }
    let payload ← (around.payload (.group group)).mapError .service
    return (group, payload)) fun (group, payload) =>
  .lock .companyGroups .write fun site =>
  check [.companyGroups] (ensureUniqueGroupName site.maps.groups tenantId none group.name) fun () =>
  persistChange around [.companyGroups]
    (around.event (tenantScope tenantId) "company_group.created" (auditObject group.id none)
      payload)
    { groups := [group] } <|
  Program.release [.ledger, .companyGroups] (groupView group true)

def patchGroup (body : PatchNamedBody) : GroupProgram :=
  check [] (around.requirePermission.mapError .service) fun () =>
  .lock .companyGroups .write fun site =>
  check [.companyGroups] (do
    let current ← groupForPath site.maps.groups tenantId groupId
    rejectIf (current.isArchived = true) (.conflict "archived groups cannot be edited")
    let next ← body.group current
    ensureUniqueGroupName site.maps.groups tenantId (some groupId) next.name
    return (current, next)) fun (current, next) =>
  if next = current then Program.release [.companyGroups] (groupView next false)
  else
    let next := { next with updatedAt := around.now }
    check [.companyGroups] ((around.payload (.group next)).mapError .service) fun payload =>
    persistChange around [.companyGroups]
      (around.event (tenantScope tenantId) "company_group.updated" (auditObject groupId none)
        payload)
      { groups := [next] } <|
    Program.release [.ledger, .companyGroups] (groupView next false)

/-- The libraries that `archive_group` archives with the group. -/
def archivedLibraries (libraries : LibraryMap) (now : OffsetDateTime) :
    List GroupTemplateLibrary :=
  (libraries.values.filter fun library =>
    decide (library.groupId = groupId) && !library.isArchived).map (·.archived now)

def archiveGroup : GroupProgram :=
  check [] (around.requirePermission.mapError .service) fun () =>
  .lock .companyGroups .write fun site =>
  check [.companyGroups] (groupForPath site.maps.groups tenantId groupId) fun current =>
  if current.isArchived = true then answer [.companyGroups] (.ok .noContent)
  else
    .lock .groupTemplateLibraries .write fun _ =>
    .lock .entities .read fun site =>
    check [.entities, .groupTemplateLibraries, .companyGroups]
      (rejectIf (site.maps.entities.values.any (fun entity => decide (entity.tenantId = tenantId) &&
          decide (entity.groupId = some groupId)) = true)
        (.conflict "remove every entity from the group before archiving it")) fun () =>
    let next := current.archived around.now
    let archived := archivedLibraries groupId site.maps.libraries around.now
    -- the members are let go before the rows are written
    .unlock .entities <|
    check [.groupTemplateLibraries, .companyGroups]
      ((around.payload (.groupArchived next (archived.map (·.id.display)))).mapError .service)
      fun payload =>
    persistChange around [.groupTemplateLibraries, .companyGroups]
      (around.event (tenantScope tenantId) "company_group.archived" (auditObject groupId none)
        payload)
      { groups := [next], libraries := archived } <|
    answer [.ledger, .groupTemplateLibraries, .companyGroups] (.ok .noContent)

def assignEntity (entityId : EntityId) : GroupProgram :=
  check [] (around.requirePermission.mapError .service) fun () =>
  .lock .companyGroups .read fun site =>
  check [.companyGroups] (groupForPath site.maps.groups tenantId groupId) fun group =>
  .lock .entities .write fun site =>
  check [.entities, .companyGroups] (do
    let current ← (site.maps.entities.get entityId).elim (.error .notFound) .ok
    let next ← assignedEntity group current
    return (current, next)) fun (current, next) =>
  if next = current then answer [.entities, .companyGroups] (.ok (.entity current))
  else
    check [.entities, .companyGroups]
      ((around.payload (.membership entityId groupId tenantId)).mapError .service) fun payload =>
    persistChange around [.entities, .companyGroups]
      (around.event (entityLedgerScope tenantId entityId) "company_group.entity_assigned"
        (auditObject groupId none) payload)
      { entities := [next] } <|
    answer [.ledger, .entities, .companyGroups] (.ok (.entity next))

def removeEntity (entityId : EntityId) : GroupProgram :=
  check [] (around.requirePermission.mapError .service) fun () =>
  .lock .companyGroups .read fun site =>
  check [.companyGroups] (groupForPath site.maps.groups tenantId groupId) fun _ =>
  .lock .entities .write fun site =>
  check [.entities, .companyGroups] (do
    let current ← (site.maps.entities.get entityId).elim (.error .notFound) .ok
    rejectIf (current.tenantId ≠ tenantId ∨ current.groupId ≠ some groupId)
      (.conflict "entity is not a member of this group")
    let payload ← (around.payload (.membership entityId groupId tenantId)).mapError .service
    return (current.inGroup none, payload)) fun (next, payload) =>
  persistChange around [.entities, .companyGroups]
    (around.event (entityLedgerScope tenantId entityId) "company_group.entity_removed"
      (auditObject groupId none) payload)
    { entities := [next] } <|
  answer [.ledger, .entities, .companyGroups] (.ok (.entity next))

def createTemplateLibrary (body : CreateTemplateLibraryBody) : GroupProgram :=
  check [] (do
    around.requirePermission.mapError GroupError.service
    normalizeTemplateIds around.templateIdExists body.templateIds) fun templateIds =>
  .lock .companyGroups .read fun site =>
  check [.companyGroups] (do
    let group ← groupForPath site.maps.groups tenantId groupId
    rejectIf (group.isArchived = true) (.conflict "cannot create a library in an archived group")
    let name ← normalizedRequired body.name "name" maxNameChars
    let description ← normalizedOptional body.description "description"
    let library := { GroupTemplateLibrary.new around.newId group name around.now with
      description := description }
    let revision : GroupTemplateLibraryRevision :=
      ⟨groupId, library.id, tenantId, 1, templateIds, around.now, around.actor⟩
    let payload ← (around.payload (.libraryCreated library revision)).mapError .service
    return (library, revision, payload)) fun (library, revision, payload) =>
  .lock .groupTemplateLibraries .write fun site =>
  check [.groupTemplateLibraries, .companyGroups]
    (ensureUniqueLibraryName site.maps.libraries groupId none library.name) fun () =>
  .lock .groupTemplateLibraryRevisions .write fun _ =>
  persistChange around [.groupTemplateLibraryRevisions, .groupTemplateLibraries, .companyGroups]
    (around.event (tenantScope tenantId) "group_template_library.created"
      (auditObject groupId (some library.id)) payload)
    { libraries := [library], revisions := [revision] } <|
  answer [.ledger, .groupTemplateLibraryRevisions, .groupTemplateLibraries, .companyGroups]
    (.ok (.library true ⟨library, some revision⟩))

def activeGroup (groups : GroupMap) (refusal : String) : Except GroupError Unit := do
  let group ← groupForPath groups tenantId groupId
  rejectIf (group.isArchived = true) (.conflict refusal)

def patchTemplateLibrary (body : PatchNamedBody) : GroupProgram :=
  check [] (around.requirePermission.mapError .service) fun () =>
  .lock .companyGroups .read fun site =>
  check [.companyGroups]
    (activeGroup tenantId groupId site.maps.groups "archived groups cannot be edited") fun () =>
  .lock .groupTemplateLibraries .write fun site =>
  check [.groupTemplateLibraries, .companyGroups] (do
    let current ← libraryForPath site.maps.libraries tenantId groupId libraryId
    rejectIf (current.isArchived = true) (.conflict "archived template libraries cannot be edited")
    let next ← body.library current
    ensureUniqueLibraryName site.maps.libraries groupId (some libraryId) next.name
    return (current, next)) fun (current, next) =>
  if next = current then
    Program.release [.groupTemplateLibraries] (libraryView [.companyGroups] next)
  else
    let next := { next with updatedAt := around.now }
    check [.groupTemplateLibraries, .companyGroups]
      ((around.payload (.library next)).mapError .service) fun payload =>
    persistChange around [.groupTemplateLibraries, .companyGroups]
      (around.event (tenantScope tenantId) "group_template_library.updated"
        (auditObject groupId (some libraryId)) payload)
      { libraries := [next] } <|
    Program.release [.ledger, .groupTemplateLibraries] (libraryView [.companyGroups] next)

def archiveTemplateLibrary : GroupProgram :=
  check [] (around.requirePermission.mapError .service) fun () =>
  .lock .companyGroups .read fun site =>
  check [.companyGroups] (activeGroup tenantId groupId site.maps.groups
    "cannot archive a library in an archived group") fun () =>
  .lock .groupTemplateLibraries .write fun site =>
  check [.groupTemplateLibraries, .companyGroups]
    (libraryForPath site.maps.libraries tenantId groupId libraryId) fun current =>
  if current.isArchived = true then
    answer [.groupTemplateLibraries, .companyGroups] (.ok .noContent)
  else
    let next := current.archived around.now
    check [.groupTemplateLibraries, .companyGroups]
      ((around.payload (.library next)).mapError .service) fun payload =>
    persistChange around [.groupTemplateLibraries, .companyGroups]
      (around.event (tenantScope tenantId) "group_template_library.archived"
        (auditObject groupId (some libraryId)) payload)
      { libraries := [next] } <|
    answer [.ledger, .groupTemplateLibraries, .companyGroups] (.ok .noContent)

def nextRevision (revisions : RevisionMap) (templateIds : List String) :
    Except GroupError GroupTemplateLibraryRevision :=
  match currentRevision revisions groupId libraryId with
  | none => .error (.conflict "template library has no initial revision")
  | some previous => do
      rejectIf (previous.templateIds = templateIds)
        (.conflict "new template library revision is identical to the current revision")
      rejectIf (2 ^ 64 ≤ previous.revision + 1)
        (.conflict "template library revision counter exhausted")
      return ⟨groupId, libraryId, tenantId, previous.revision + 1, templateIds, around.now,
        around.actor⟩

def appendTemplateLibraryRevision (templateIds : List String) : GroupProgram :=
  check [] (do
    around.requirePermission.mapError GroupError.service
    normalizeTemplateIds around.templateIdExists templateIds) fun templateIds =>
  .lock .companyGroups .read fun site =>
  check [.companyGroups] (activeGroup tenantId groupId site.maps.groups
    "cannot revise a library in an archived group") fun () =>
  .lock .groupTemplateLibraries .read fun site =>
  check [.groupTemplateLibraries, .companyGroups] (do
    let library ← libraryForPath site.maps.libraries tenantId groupId libraryId
    rejectIf (library.isArchived = true)
      (.conflict "cannot revise an archived template library")) fun () =>
  .lock .groupTemplateLibraryRevisions .write fun site =>
  check [.groupTemplateLibraryRevisions, .groupTemplateLibraries, .companyGroups] (do
    let revision ← nextRevision around tenantId groupId libraryId site.maps.revisions templateIds
    let payload ← (around.payload (.revision revision)).mapError .service
    return (revision, payload)) fun (revision, payload) =>
  persistChange around [.groupTemplateLibraryRevisions, .groupTemplateLibraries, .companyGroups]
    (around.event (tenantScope tenantId) "group_template_library.revision_created"
      (auditObject groupId (some libraryId)) payload)
    { revisions := [revision] } <|
  answer [.ledger, .groupTemplateLibraryRevisions, .groupTemplateLibraries, .companyGroups]
    (.ok (.revision revision))

end Handlers

/-- A request on groups and libraries. -/
inductive GroupRequest where
  | createGroup (tenantId : TenantId) (body : CreateGroupBody)
  | patchGroup (tenantId : TenantId) (groupId : GroupId) (body : PatchNamedBody)
  | archiveGroup (tenantId : TenantId) (groupId : GroupId)
  | assignEntity (tenantId : TenantId) (groupId : GroupId) (entityId : EntityId)
  | removeEntity (tenantId : TenantId) (groupId : GroupId) (entityId : EntityId)
  | createTemplateLibrary (tenantId : TenantId) (groupId : GroupId)
      (body : CreateTemplateLibraryBody)
  | patchTemplateLibrary (tenantId : TenantId) (groupId : GroupId) (libraryId : TemplateLibraryId)
      (body : PatchNamedBody)
  | archiveTemplateLibrary (tenantId : TenantId) (groupId : GroupId)
      (libraryId : TemplateLibraryId)
  | appendTemplateLibraryRevision (tenantId : TenantId) (groupId : GroupId)
      (libraryId : TemplateLibraryId) (templateIds : List String)

def GroupRequest.program [Unicode] (around : GroupSurroundings) : GroupRequest → GroupProgram
  | .createGroup tenantId body => Chancela.createGroup around tenantId body
  | .patchGroup tenantId groupId body => Chancela.patchGroup around tenantId groupId body
  | .archiveGroup tenantId groupId => Chancela.archiveGroup around tenantId groupId
  | .assignEntity tenantId groupId entityId =>
      Chancela.assignEntity around tenantId groupId entityId
  | .removeEntity tenantId groupId entityId =>
      Chancela.removeEntity around tenantId groupId entityId
  | .createTemplateLibrary tenantId groupId body =>
      Chancela.createTemplateLibrary around tenantId groupId body
  | .patchTemplateLibrary tenantId groupId libraryId body =>
      Chancela.patchTemplateLibrary around tenantId groupId libraryId body
  | .archiveTemplateLibrary tenantId groupId libraryId =>
      Chancela.archiveTemplateLibrary around tenantId groupId libraryId
  | .appendTemplateLibraryRevision tenantId groupId libraryId templateIds =>
      Chancela.appendTemplateLibraryRevision around tenantId groupId libraryId templateIds

end Requests

end Chancela
