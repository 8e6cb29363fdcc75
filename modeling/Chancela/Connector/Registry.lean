import Chancela.Connector.Record
import Chancela.Foundation.Interleave
import Mathlib.Data.List.Sort

/-! # The registry of connector targets

The requests that create, patch and archive targets, each cut where it waits: the copy a patch
or an archive takes of its target, the checks made on the copy, and the section under the write
lock, which puts the edited copy in. The section appends an event to the ledger, writes the
whole registry to its file and commits the event; a write that fails takes back what came
before it.
-/

namespace Chancela

open Outcome

/-- The payload of an event about a target. -/
structure TargetPayload where
  targetId : Uuid
  repositoryId : Uuid
  tenantId : TenantId
  kind : ConnectorKind
  enabled : Bool
  purposes : Finset JobPurpose
  archived : Bool
deriving DecidableEq

/-- An event about a target, as it is appended to the ledger. -/
structure TargetEvent where
  actor : String
  scope : String
  kind : String
  object : String
  payload : TargetPayload
deriving DecidableEq

def ConnectorTargetRecord.event (target : ConnectorTargetRecord) (actor kind : String) :
    TargetEvent where
  actor := actor
  scope := "tenant:" ++ target.tenantId.display
  kind := kind
  object := "connector-target:" ++ target.id.display
  payload :=
    { targetId := target.id
      repositoryId := target.repositoryId
      tenantId := target.tenantId
      kind := target.config.kind
      enabled := target.enabled
      purposes := target.purposes
      archived := target.archivedAt.isSome }

/-- The order of the records in the file: by tenant, by time of creation, by id. -/
def ConnectorTargetRecord.precedes (left right : ConnectorTargetRecord) : Bool :=
  (compare left.tenantId.bits.toNat right.tenantId.bits.toNat
    |>.then (compare left.createdAt right.createdAt)
    |>.then (compare left.id.bits.toNat right.id.bits.toNat)).isLE

/-- The records as `write_targets_atomic` writes them. -/
def ConnectorTargetMap.records (targets : ConnectorTargetMap) : List ConnectorTargetRecord :=
  targets.values.mergeSort ConnectorTargetRecord.precedes

/-- What is about to be put in: a new record, or an edited copy of one. -/
inductive PreparedChange where
  | created (record : ConnectorTargetRecord)
  | updated (current : ConnectorTargetRecord) (body : PatchTargetBody) (now : String)
  | archived (current : ConnectorTargetRecord) (now : String)

namespace PreparedChange

def record : PreparedChange → ConnectorTargetRecord
  | created record => record
  | updated current body now => current.patched body now
  | archived current now => current.archived now

def kind : PreparedChange → String
  | created _ => "connector_target.created"
  | updated _ _ _ => "connector_target.updated"
  | archived _ _ => "connector_target.archived"

def check (targets : ConnectorTargetMap) : PreparedChange → Except TargetError Unit
  | created record => do
      rejectIf (targets.countActive record.tenantId ≥ maxTargetsPerTenant)
        (.conflict ("a tenant may configure at most " ++ toString maxTargetsPerTenant ++
          " active connector targets"))
      rejectIf (targets.values.any record.rivals = true)
        (.conflict "an active connector target with that name already exists")
  | updated current body now =>
      rejectIf (targets.values.any (fun candidate =>
          candidate.id ≠ current.id && (current.patched body now).rivals candidate) = true)
        (.conflict "an active connector target with that name already exists")
  | archived _ _ => .ok ()

end PreparedChange

/-- The registry: the map in memory, the file if there is one, and the events that were
appended. -/
structure TargetSite where
  persistent : Bool
  targets : ConnectorTargetMap
  file : Option (List ConnectorTargetRecord)
  events : List TargetEvent

/-- What a request finds and draws outside the registry, and how each write ends. -/
structure TargetSurroundings where
  actor : String
  permitted : Except TargetError Unit
  tenantKnown : Bool
  networkPolicy : Except String Unit
  newId : Uuid
  newRepositoryId : Uuid
  now : String
  appended : Except TargetError Unit
  written : Except String Unit
  committed : Except TargetError Unit
  restored : Bool

/-- A request on a target of a tenant. -/
inductive TargetRequest where
  | createTarget (tenant : TenantId) (body : CreateTargetBody)
  | patchTarget (tenant : TenantId) (target : Uuid) (body : PatchTargetBody)
  | archiveTarget (tenant : TenantId) (target : Uuid)

inductive TargetAnswer where
  | target (record : ConnectorTargetRecord)
  | noContent
deriving DecidableEq

/-- How far a request has got. -/
inductive TargetStage where
  | arrived
  | copied (current : ConnectorTargetRecord)
  | ready (change : PreparedChange)
  | done (answer : Except TargetError TargetAnswer)

namespace TargetSite

/-- `persist_target_registry_change`: the event, the file, and the commit of the event. -/
def persist (site : TargetSite) (around : TargetSurroundings) (next : ConnectorTargetMap)
    (kind : String) (target : ConnectorTargetRecord) : TargetSite × Except TargetError Unit :=
  if site.persistent = false then
    (site, .error (.unprocessable "connector target management requires CHANCELA_DATA_DIR"))
  else
    match around.appended with
    | .error fault => (site, .error fault)
    | .ok _ =>
        let events := site.events ++ [target.event around.actor kind]
        match around.written with
        | .error failure =>
            ({ site with events := events.dropLast },
              .error (.internal ("failed to persist connector target registry: " ++ failure)))
        | .ok _ =>
            match around.committed with
            | .error fault =>
                -- the commit takes the event back; the file is rewritten, if that works
                ({ site with
                    events := events.dropLast
                    file := some (if around.restored then site.targets else next).records },
                  .error fault)
            | .ok _ => ({ site with events := events, file := some next.records }, .ok ())

def put (site : TargetSite) (around : TargetSurroundings) (change : PreparedChange) :
    TargetSite × Except TargetError Unit :=
  match change.check site.targets with
  | .error fault => (site, .error fault)
  | .ok _ =>
      let next := site.targets.insert change.record
      match site.persist around next change.kind change.record with
      | (written, .error fault) => (written, .error fault)
      | (written, .ok _) => ({ written with targets := next }, .ok ())

end TargetSite

namespace TargetRequest

/-- What precedes the write lock: a creation prepares its record, a patch and an archive copy
their target, and look at the copy. -/
def prepare [UrlCrate] (request : TargetRequest) (around : TargetSurroundings)
    (targets : ConnectorTargetMap) : TargetStage → Except TargetError TargetStage
  | .arrived =>
      match request with
      | .createTarget tenant body => do
          around.permitted
          rejectIf (around.tenantKnown = false) .notFound
          let record ← prepareCreate tenant body around.networkPolicy around.newId
            around.newRepositoryId around.now
          return .ready (.created record)
      | .patchTarget tenant target _ | .archiveTarget tenant target => do
          return .copied (← targets.forPath tenant target)
  | .copied current =>
      match request with
      | .createTarget _ _ => .ok (.copied current)
      | .patchTarget _ _ body => do
          around.permitted
          checkPatch current body around.networkPolicy
          return .ready (.updated current body around.now)
      | .archiveTarget _ _ => do
          around.permitted
          if current.isActive = false then return .done (.ok .noContent)
          return .ready (.archived current around.now)
  | stage => .ok stage

def answer : PreparedChange → TargetAnswer
  | .archived _ _ => .noContent
  | change => .target change.record

def serve [UrlCrate] (request : TargetRequest) (around : TargetSurroundings) (site : TargetSite) :
    TargetStage → TargetSite × TargetStage
  | .ready change =>
      match site.put around change with
      | (written, outcome) => (written, .done (outcome.map fun _ => answer change))
  | stage =>
      match request.prepare around site.targets stage with
      | .ok next => (site, next)
      | .error fault => (site, .done (.error fault))

end TargetRequest

/-! ### What the section puts in -/

/-- The section put the change in: the map and the file hold it, and its event is appended. -/
structure TargetSite.Puts (site : TargetSite) (actor : String) (change : PreparedChange)
    (after : TargetSite) : Prop where
  checked : change.check site.targets = .ok ()
  persistent : after.persistent = site.persistent
  targets : after.targets = site.targets.insert change.record
  file : after.file = some after.targets.records
  events : after.events = site.events ++ [change.record.event actor change.kind]

def TargetSurroundings.KeepsFile (around : TargetSurroundings) : Prop :=
  around.committed = .ok () ∨ around.restored = true

/-- The section put nothing in. Only the file may be another one: the one of the map, or, where
the rewriting failed too, of the change that was not made. -/
structure TargetSite.Leaves (site : TargetSite) (around : TargetSurroundings)
    (after : TargetSite) : Prop where
  persistent : after.persistent = site.persistent
  targets : after.targets = site.targets
  events : after.events = site.events
  file : around.KeepsFile → after.file = site.file ∨ after.file = some site.targets.records

namespace TargetSite

variable {site : TargetSite} {around : TargetSurroundings} {change : PreparedChange}
  {request : TargetRequest} {stage : TargetStage}

theorem Leaves.refl (site : TargetSite) (around : TargetSurroundings) : site.Leaves around site :=
  ⟨rfl, rfl, rfl, fun _ => .inl rfl⟩

theorem persist_cases (next : ConnectorTargetMap) (kind : String)
    (target : ConnectorTargetRecord) :
    ((∃ fault, (site.persist around next kind target).2 = .error fault) ∧
      site.Leaves around (site.persist around next kind target).1) ∨
    ((site.persist around next kind target).2 = .ok () ∧
      (site.persist around next kind target).1 = { site with
        events := site.events ++ [target.event around.actor kind]
        file := some next.records }) := by
  unfold persist
  split
  · exact .inl ⟨⟨_, rfl⟩, Leaves.refl site _⟩
  cases around.appended with
  | error fault => exact .inl ⟨⟨fault, rfl⟩, Leaves.refl site _⟩
  | ok _ =>
      cases around.written with
      | error failure =>
          exact .inl ⟨⟨_, rfl⟩, rfl, rfl, List.dropLast_concat .., fun _ => .inl rfl⟩
      | ok _ =>
          cases committed : around.committed with
          | error fault =>
              refine .inl ⟨⟨fault, rfl⟩, rfl, rfl, List.dropLast_concat .., fun keeps => ?_⟩
              rcases keeps with succeeded | restored
              · rw [committed] at succeeded
                cases succeeded
              · dsimp only
                rw [restored]
                exact .inr rfl
          | ok _ => exact .inr ⟨rfl, rfl⟩

/-- **What the section under the lock does.** -/
theorem put_cases :
    ((∃ fault, (site.put around change).2 = .error fault) ∧
      site.Leaves around (site.put around change).1) ∨
    ((site.put around change).2 = .ok () ∧
      site.Puts around.actor change (site.put around change).1) := by
  unfold put
  cases checked : change.check site.targets with
  | error fault => exact .inl ⟨⟨fault, rfl⟩, Leaves.refl site _⟩
  | ok _ =>
      dsimp only
      rcases site.persist_cases (site.targets.insert change.record) change.kind change.record
        with ⟨⟨fault, failed⟩, leaves⟩ | ⟨succeeded, written⟩
      · rw [← Prod.mk.eta (p := site.persist around _ _ _), failed]
        exact .inl ⟨⟨fault, rfl⟩, leaves⟩
      · rw [← Prod.mk.eta (p := site.persist around _ _ _), succeeded, written]
        exact .inr ⟨rfl, checked, rfl, rfl, rfl, rfl⟩

end TargetSite

end Chancela
