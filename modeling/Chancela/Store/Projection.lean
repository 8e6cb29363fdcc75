import Chancela.Foundation.Run
import Chancela.Foundation.Text
import Chancela.Store.Reconcile
import Mathlib.Data.Option.Basic

/-! # The publication of a search projection

Projectors, each a process of its own, compete for a lease. The holder notes the checkpoint of
the control row, reads the source rows one query after the other, builds the documents, compares
them with the rows that stand and publishes the difference. Commits, commands, fences, restores
and takeovers of the lease come between any two of its calls, and a clock may say anything. What
is published for the source revision that stands was built from the source rows that stand
(`Chancela.SearchProjection.published_sound`), and a cycle that nobody disturbs publishes
(`Chancela.SearchProjection.publishes_undisturbed`). The store is the SQLite one and not written
by the embedded worker, the id of a lease is drawn once, and no counter outgrows 64 bits.
-/

namespace Chancela.SearchProjection

open Outcome Search SortedDiff

/-! ## The control row -/

inductive SearchProjectionCommand where
  | reconcile
  | rebuild
  | pause
deriving DecidableEq

structure SearchProjectionCheckpoint where
  sourceRevision : Nat
  fenceToken : Nat
  commandGeneration : Nat
deriving DecidableEq

/-- `SearchProjectorLease`, without the copy of the checkpoint that nothing here reads. -/
structure SearchProjectorLease where
  leaseId : String
  owner : String
  heartbeatAt : String
  expiresAtUnixMs : Int
deriving DecidableEq

/-- `SearchProjectionControl`. Every statement sets the columns of the published checkpoint
together, and those of the lease. -/
structure SearchProjectionControl where
  checkpoint : SearchProjectionCheckpoint
  publishedCheckpoint : Option SearchProjectionCheckpoint
  command : SearchProjectionCommand
  lease : Option SearchProjectorLease
  updatedAt : String
deriving DecidableEq

namespace SearchProjectionControl

def bumpSearchSourceRevision (control : SearchProjectionControl) (updatedAt : String) :
    SearchProjectionControl :=
  { control with
    checkpoint.sourceRevision := control.checkpoint.sourceRevision + 1
    updatedAt }

def fenceSearchProjection (control : SearchProjectionControl) (updatedAt : String) :
    SearchProjectionControl where
  checkpoint := {
    sourceRevision := control.checkpoint.sourceRevision
    fenceToken := control.checkpoint.fenceToken + 1
    commandGeneration := control.checkpoint.commandGeneration + 1 }
  publishedCheckpoint := none
  command := .rebuild
  lease := none
  updatedAt := updatedAt

def updateSearchProjectionCommand (control : SearchProjectionControl)
    (command : SearchProjectionCommand) (updatedAt : String) : SearchProjectionControl :=
  { control with
    checkpoint.commandGeneration := control.checkpoint.commandGeneration + 1
    command
    updatedAt }

def recordPublishedSearchCheckpoint (control : SearchProjectionControl)
    (checkpoint : SearchProjectionCheckpoint) (updatedAt : String) : SearchProjectionControl :=
  { control with
    publishedCheckpoint := some checkpoint
    command := if control.command = .rebuild then .reconcile else control.command
    updatedAt }

/-- The instant a lease ends: `now_ms.saturating_add(lease_ttl_millis(ttl))`. -/
def expiresMs (nowMs : Int) (ttlMillis : Nat) : Int :=
  min (nowMs + min (max ttlMillis 1 : Nat) (2 ^ 63 - 1)) (2 ^ 63 - 1)

/-- The `UPDATE` of `try_acquire_search_projector_lease`, where it changes the row. -/
def acquireLease (control : SearchProjectionControl) (lease : SearchProjectorLease)
    (nowMs : Int) : Option SearchProjectionControl :=
  if control.lease.all (·.expiresAtUnixMs ≤ nowMs) = true then
    some { control with lease := some lease, updatedAt := lease.heartbeatAt }
  else none

/-- The `UPDATE` of `heartbeat_search_projector_lease`. -/
def heartbeatLease (control : SearchProjectionControl) (lease : SearchProjectorLease)
    (heartbeatAt : String) (expiresAtUnixMs nowMs : Int) : SearchProjectionControl :=
  match control.lease with
  | some current =>
      if current.leaseId = lease.leaseId ∧ current.owner = lease.owner ∧
          nowMs < current.expiresAtUnixMs then
        { control with
          lease := some { current with heartbeatAt, expiresAtUnixMs }
          updatedAt := heartbeatAt }
      else control
  | none => control

/-- `ensure_current_lease`. -/
def holds (control : SearchProjectionControl) (lease : SearchProjectorLease) : Bool :=
  control.lease.any fun current => current.leaseId = lease.leaseId ∧ current.owner = lease.owner

/-- The `UPDATE` of `release_search_projector_lease`. -/
def releaseLease (control : SearchProjectionControl) (lease : SearchProjectorLease)
    (updatedAt : String) : SearchProjectionControl :=
  if control.holds lease = true then { control with lease := none, updatedAt } else control

end SearchProjectionControl

inductive SearchProjectionPublishRejection where
  | leaseLost
  | sourceChanged
  | fenceChanged
  | commandChanged
  | paused
deriving DecidableEq

def projectionPublishRejection (control : SearchProjectionControl) (lease : SearchProjectorLease)
    (checkpoint : SearchProjectionCheckpoint) (nowMs : Int) :
    Option SearchProjectionPublishRejection :=
  if ¬control.lease.any (fun current => current.leaseId = lease.leaseId ∧
      current.owner = lease.owner ∧ nowMs < current.expiresAtUnixMs) = true then
    some .leaseLost
  else if control.checkpoint.fenceToken ≠ checkpoint.fenceToken then some .fenceChanged
  else if control.checkpoint.sourceRevision ≠ checkpoint.sourceRevision then some .sourceChanged
  else if control.checkpoint.commandGeneration ≠ checkpoint.commandGeneration then
    some .commandChanged
  else if control.command = .pause then some .paused
  else none

/-! ## The store -/

/-- `SearchIndexPhase`, as far as a projector or a fence sets it. -/
inductive SearchIndexPhase where
  | starting
  | idle
deriving DecidableEq

structure SearchIndexState where
  phase : SearchIndexPhase
  projectionFenced : Bool
  generation : Nat
  documentCount : Nat
  truncatedDocumentCount : Nat
  indexedContentChars : Nat
  contentBudgetExhausted : Bool
  processed : Nat
  total : Nat
  lastEventSeq : Option Nat
  lastStartedAt : Option String
  lastCompletedAt : Option String
  lastError : Option String
  errorAt : Option String
  updatedAt : String
deriving DecidableEq

def SearchIndexState.default : SearchIndexState :=
  ⟨.starting, false, 0, 0, 0, 0, false, 0, 0, none, none, none, none, none,
    "1970-01-01T00:00:00Z"⟩

def searchProjectionTombstone (updatedAt : String) : SearchIndexState :=
  { SearchIndexState.default with projectionFenced := true, updatedAt }

/-- A row is written or removed in `search_documents`, read in the order of the ids. -/
def SearchIndexOperation.write (rows : List SearchDocument) :
    SearchIndexOperation → List SearchDocument
  | .upsert document =>
      rows.filter (·.id < document.id) ++ document :: rows.filter (document.id < ·.id)
  | .delete id => rows.filter (·.id ≠ id)

/-- What of the store a projection comes from, and what it is. -/
structure Store (Part Content : Type) where
  /-- The source rows, by the query that reads them. -/
  source : Part → Content
  control : SearchProjectionControl
  searchDocuments : List SearchDocument
  searchIndexState : Option SearchIndexState

/-- A statement of a transaction that the projection depends on. -/
inductive TxWrite (Part Content : Type) where
  /-- Rows are written that a projection is built from. -/
  | source (source : Part → Content)
  | requestSearchProjectionCommand (command : SearchProjectionCommand)
  /-- `clear_search_projection` of a transaction. -/
  | clearSearchProjection
  /-- `clear_everything`, and the rows that it leaves. -/
  | clearEverything (source : Part → Content)

/-- How a call of the store is refused. -/
inductive ProjectionFault where
  | searchProjectionPaused
  | invalidData (message : String)
deriving DecidableEq

variable {ι Part Content Surroundings : Type}

namespace Store

/-- A statement of a transaction. -/
def write (updatedAt : String) (store : Store Part Content) :
    TxWrite Part Content → Except ProjectionFault (Store Part Content)
  | .source source => .ok { store with source }
  | .requestSearchProjectionCommand command => do
      rejectIf (command = .rebuild ∧ store.control.command = .pause) .searchProjectionPaused
      return { store with
        control := store.control.updateSearchProjectionCommand command updatedAt }
  | .clearSearchProjection => .ok { store with
      control := store.control.fenceSearchProjection updatedAt
      searchDocuments := []
      searchIndexState := some (searchProjectionTombstone updatedAt) }
  | .clearEverything source => .ok {
      source
      control := store.control.fenceSearchProjection updatedAt
      searchDocuments := []
      searchIndexState := none }

def persistResultInternal (store : Store Part Content) (writes : List (TxWrite Part Content))
    (advanceSearchSource : Bool) (updatedAt : String) :
    Except ProjectionFault (Store Part Content) := do
  let written ← writes.foldlM (write updatedAt) store
  return if advanceSearchSource then
      { written with control := written.control.bumpSearchSourceRevision updatedAt }
    else written

/-- `try_acquire_search_projector_lease`, with the id that it draws. -/
def tryAcquireSearchProjectorLease (store : Store Part Content) (owner : String)
    (ttlMillis : Nat) (leaseId heartbeatAt : String) (nowMs : Int) :
    Except ProjectionFault (Option SearchProjectorLease × Store Part Content) := do
  rejectIf (Text.trim owner = "")
    (.invalidData "search projector lease owner must not be empty")
  let lease := ⟨leaseId, owner, heartbeatAt, SearchProjectionControl.expiresMs nowMs ttlMillis⟩
  return match store.control.acquireLease lease nowMs with
    | none => (none, store)
    | some control => (control.lease, { store with control })

inductive SearchProjectionPublishOutcome where
  | published (checkpoint : SearchProjectionCheckpoint) (generation documentCount : Nat)
  | rejected (reason : SearchProjectionPublishRejection) (control : SearchProjectionControl)

def publishSearchProjection (store : Store Part Content) (lease : SearchProjectorLease)
    (checkpoint : SearchProjectionCheckpoint) (operations : List SearchIndexOperation)
    (state : SearchIndexState) (nowMs : Int) (updatedAt : String) :
    SearchProjectionPublishOutcome × Store Part Content :=
  match projectionPublishRejection store.control lease checkpoint nowMs with
  | some reason => (.rejected reason store.control, store)
  | none => (.published checkpoint state.generation state.documentCount, { store with
      control := store.control.recordPublishedSearchCheckpoint checkpoint updatedAt
      searchDocuments := operations.foldl SearchIndexOperation.write store.searchDocuments
      searchIndexState := some state })

/-- A restore: the rows of the archive, in which the projection is cleared before they are put
in place of those that stand. -/
def restored (source : Part → Content) (control : SearchProjectionControl)
    (updatedAt : String) : Store Part Content where
  source := source
  control := (control.fenceSearchProjection updatedAt).bumpSearchSourceRevision updatedAt
  searchDocuments := []
  searchIndexState := some (searchProjectionTombstone updatedAt)

end Store

/-! ## The projectors -/

structure ProjectionBuild where
  documents : List SearchDocument
  lastEventSeq : Option Nat
  indexedContentChars : Nat
  contentBudgetExhausted : Bool

/-- What a projector has at hand after the checkpoint was noted. -/
inductive Candidate (Content : Type) where
  /-- The command that was noted, and what has been read of the source so far. -/
  | reading (command : SearchProjectionCommand) (gathered : List Content)
  | built (forceRebuild : Bool) (build : ProjectionBuild)
  | surveyed (forceRebuild : Bool) (build : ProjectionBuild)
      (existingStatus : Option SearchIndexState)
  | reconciled (operations : List SearchIndexOperation) (completed : SearchIndexState)

/-- A projector between two calls of the store. -/
inductive Projector (Content : Type) where
  | standby
  | leased (lease : SearchProjectorLease)
  | working (lease : SearchProjectorLease) (checkpoint : SearchProjectionCheckpoint)
      (candidate : Candidate Content)

/-- The state that `build_and_publish_projection` publishes with the documents. -/
def completedState (existingStatus : Option SearchIndexState) (build : ProjectionBuild)
    (operations targetCount truncatedDocumentCount : Nat) (now : String) : SearchIndexState where
  phase := .idle
  projectionFenced := false
  generation := min ((existingStatus.getD .default).generation + 1) (2 ^ 64 - 1)
  documentCount := targetCount
  truncatedDocumentCount := truncatedDocumentCount
  indexedContentChars := build.indexedContentChars
  contentBudgetExhausted := build.contentBudgetExhausted
  processed := operations
  total := operations
  lastEventSeq := build.lastEventSeq
  lastStartedAt := some now
  lastCompletedAt := some now
  lastError := none
  errorAt := none
  updatedAt := now

/-- What the projectors read and build: the queries of `load_projection_inputs` in order, and
`build_corpus` with the rows and whatever else it looks at. -/
structure Corpus (Part Content Surroundings : Type) where
  queries : List Part
  buildCorpus : List Content → Surroundings → Except String ProjectionBuild

namespace Projector

variable [Crates] (corpus : Corpus Part Content Surroundings) (store : Store Part Content)

omit [Crates] in
/-- The lease a projector was given. -/
def lease : Projector Content → Option SearchProjectorLease
  | standby => none
  | leased lease => some lease
  | working lease _ _ => some lease

omit [Crates] in
/-- The checkpoint is noted, while the lease is current and nothing is paused. -/
def readControl (projector : Projector Content) : Option (Projector Content) := do
  let lease ← projector.lease
  guard (store.control.holds lease = true ∧ store.control.command ≠ .pause)
  return .working lease store.control.checkpoint (.reading store.control.command [])

omit [Crates] in
/-- The next query of `load_projection_inputs`. -/
def readPart : Projector Content → Option (Projector Content)
  | .working lease checkpoint (.reading command gathered) => do
      let part ← corpus.queries[gathered.length]?
      return .working lease checkpoint (.reading command (gathered ++ [store.source part]))
  | _ => none

omit [Crates] in
/-- The control row is read again once the source is, and the documents are built if neither
the checkpoint nor the command has changed. -/
def build (around : Surroundings) : Projector Content → Option (Projector Content)
  | .working lease checkpoint (.reading command gathered) => do
      guard (gathered.length = corpus.queries.length ∧ store.control.holds lease = true ∧
        checkpoint = store.control.checkpoint ∧ command = store.control.command)
      let build ← (corpus.buildCorpus gathered around).toOption
      return .working lease checkpoint (.built (command = .rebuild) build)
  | _ => none

omit [Crates] in
/-- `search_index_state`. -/
def readStatus : Projector Content → Option (Projector Content)
  | .working lease checkpoint (.built forceRebuild build) =>
      some (.working lease checkpoint (.surveyed forceRebuild build store.searchIndexState))
  | _ => none

/-- `reconcile_search_projection_documents`. -/
def reconcile (now : String) : Projector Content → Option (Projector Content)
  | .working lease checkpoint (.surveyed forceRebuild build existingStatus) => do
      let (operations, targetCount, truncatedDocumentCount) ←
        (reconcileSortedSearchDocuments build.documents forceRebuild
          (store.searchDocuments.map .ok)).toOption
      return .working lease checkpoint (.reconciled operations
        (completedState existingStatus build operations.length targetCount
          truncatedDocumentCount now))
  | _ => none

end Projector

/-- The store, the projectors, and the ids of leases that have been drawn. -/
structure World (ι Part Content : Type) where
  store : Store Part Content
  projectors : ι → Projector Content
  drawn : List String

/-- A call of the store, by a projector or by whoever writes the source. What a call is given or
reads elsewhere is its argument. -/
inductive Call (ι Part Content Surroundings : Type) where
  | persist (writes : List (TxWrite Part Content)) (updatedAt : String)
  | requestSearchProjectionCommand (command : SearchProjectionCommand) (updatedAt : String)
  | restore (source : Part → Content) (control : SearchProjectionControl) (updatedAt : String)
  | acquire (projector : ι) (owner : String) (ttlMillis : Nat) (leaseId heartbeatAt : String)
      (nowMs : Int)
  | heartbeat (projector : ι) (ttlMillis : Nat) (heartbeatAt : String) (nowMs : Int)
  | release (projector : ι) (updatedAt : String)
  | readControl (projector : ι)
  | readPart (projector : ι)
  | build (projector : ι) (around : Surroundings)
  | readStatus (projector : ι)
  | reconcile (projector : ι) (now : String)
  | publish (projector : ι) (nowMs : Int) (updatedAt : String)
  | abandon (projector : ι)

namespace World

variable [DecidableEq ι] [Crates] (corpus : Corpus Part Content Surroundings)
  (world : World ι Part Content)

omit [DecidableEq ι] [Crates] in
/-- What a transaction leaves, where it is committed. -/
def withStore (result : Except ProjectionFault (Store Part Content)) : World ι Part Content :=
  match result with
  | .ok store => { world with store }
  | .error _ => world

def withProjector (projector : ι) (state : Projector Content) : World ι Part Content :=
  { world with projectors := Function.update world.projectors projector state }

def acquire (projector : ι) (owner : String) (ttlMillis : Nat) (leaseId heartbeatAt : String)
    (nowMs : Int) : World ι Part Content :=
  match world.store.tryAcquireSearchProjectorLease owner ttlMillis leaseId heartbeatAt nowMs with
  | .ok (some lease, store) =>
      World.withProjector { world with store, drawn := leaseId :: world.drawn } projector
        (.leased lease)
  | _ => world

/-- A change of the control row by the holder of a lease. What it has at hand may go on. -/
def withControl (projector : ι)
    (change : SearchProjectionControl → SearchProjectorLease → SearchProjectionControl) :
    World ι Part Content :=
  match (world.projectors projector).lease with
  | some lease =>
      { world with store := { world.store with control := change world.store.control lease } }
  | none => world

/-- A call of a projector that changes nothing but what it has at hand. -/
def advance (projector : ι) (next : Store Part Content → Projector Content →
    Option (Projector Content)) : World ι Part Content :=
  match next world.store (world.projectors projector) with
  | some state => world.withProjector projector state
  | none => world

/-- The publication of a candidate, after which the projector starts anew under its lease. -/
def publish (projector : ι) (nowMs : Int) (updatedAt : String) : World ι Part Content :=
  match world.projectors projector with
  | .working lease checkpoint (.reconciled operations completed) =>
      let result := world.store.publishSearchProjection lease checkpoint operations completed nowMs
        updatedAt
      World.withProjector { world with store := result.2 } projector (.leased lease)
  | _ => world

/-- One call. A call that is refused, or comes where the projector does not make it, changes
nothing. -/
def step : Call ι Part Content Surroundings → World ι Part Content
  | .persist writes updatedAt =>
      world.withStore (world.store.persistResultInternal writes true updatedAt)
  | .requestSearchProjectionCommand command updatedAt =>
      world.withStore (world.store.persistResultInternal
        [.requestSearchProjectionCommand command] false updatedAt)
  | .restore source control updatedAt =>
      { world with store := .restored source control updatedAt }
  | .acquire projector owner ttlMillis leaseId heartbeatAt nowMs =>
      world.acquire projector owner ttlMillis leaseId heartbeatAt nowMs
  | .heartbeat projector ttlMillis heartbeatAt nowMs =>
      world.withControl projector fun control lease => control.heartbeatLease lease heartbeatAt
        (SearchProjectionControl.expiresMs nowMs ttlMillis) nowMs
  | .release projector updatedAt =>
      world.withControl projector fun control lease => control.releaseLease lease updatedAt
  | .readControl projector => world.advance projector Projector.readControl
  | .readPart projector => world.advance projector (Projector.readPart corpus)
  | .build projector around =>
      world.advance projector fun store => Projector.build corpus store around
  | .readStatus projector => world.advance projector Projector.readStatus
  | .reconcile projector now =>
      world.advance projector fun store => Projector.reconcile store now
  | .publish projector nowMs updatedAt => world.publish projector nowMs updatedAt
  | .abandon projector => world.withProjector projector .standby

end World

/-! ## What a candidate is worth -/

variable (corpus : Corpus Part Content Surroundings)

/-- Documents that were built from the rows of a source. -/
def Reflects (source : Part → Content) (documents : List SearchDocument) : Prop :=
  ∃ around build, corpus.buildCorpus (corpus.queries.map source) around = .ok build ∧
    build.documents = documents

/-- A state that says the projection may be shown, and how many documents it has. -/
def Completes (documents : List SearchDocument) (state : SearchIndexState) : Prop :=
  state.projectionFenced = false ∧ state.documentCount = documents.length

/-- The generation that follows a state. -/
def nextGeneration (state : Option SearchIndexState) : Nat :=
  min ((state.getD .default).generation + 1) (2 ^ 64 - 1)

/-- A candidate that comes from the store as it stands. -/
def Faithful (store : Store Part Content) : Candidate Content → Prop
  | .reading _ gathered => gathered <+: corpus.queries.map store.source
  | .built _ build =>
      ∃ around, corpus.buildCorpus (corpus.queries.map store.source) around = .ok build
  | .surveyed _ build existingStatus =>
      (∃ around, corpus.buildCorpus (corpus.queries.map store.source) around = .ok build) ∧
        existingStatus = store.searchIndexState
  | .reconciled operations completed =>
      let documents := operations.foldl SearchIndexOperation.write store.searchDocuments
      Reflects corpus store.source documents ∧ Completes documents completed ∧
        Ascending SearchDocument.id documents ∧
        completed.generation = nextGeneration store.searchIndexState

/-- The id of the lease that stands. -/
def Store.leaseId (store : Store Part Content) : Option String :=
  store.control.lease.map (·.leaseId)

/-- How often the source was written. -/
def Store.revision (store : Store Part Content) : Nat := store.control.checkpoint.sourceRevision

/-- A candidate that comes from the store as it stands, unless the source has moved on since
the checkpoint was noted. -/
def Fresh (store : Store Part Content) (checkpoint : SearchProjectionCheckpoint)
    (candidate : Candidate Content) : Prop :=
  checkpoint.sourceRevision ≤ store.revision ∧
    (checkpoint.sourceRevision = store.revision → Faithful corpus store candidate)

/-- What is published is complete, and reflects the source if the source has not moved on. -/
def Current (store : Store Part Content) : Prop :=
  ∀ published ∈ store.control.publishedCheckpoint, published.sourceRevision ≤ store.revision ∧
    (published.sourceRevision = store.revision →
      Reflects corpus store.source store.searchDocuments) ∧
    ∃ state ∈ store.searchIndexState, Completes store.searchDocuments state

/-- What holds after every call. -/
structure Kept (world : World ι Part Content) : Prop where
  ascending : Ascending SearchDocument.id world.store.searchDocuments
  held : ∀ id ∈ world.store.leaseId, id ∈ world.drawn
  given : ∀ projector, ∀ lease ∈ (world.projectors projector).lease, lease.leaseId ∈ world.drawn
  apart : ∀ projector other, projector ≠ other → ∀ lease ∈ (world.projectors projector).lease,
    ∀ otherLease ∈ (world.projectors other).lease, lease.leaseId ≠ otherLease.leaseId
  fresh : ∀ projector lease checkpoint candidate,
    world.projectors projector = .working lease checkpoint candidate →
    lease.leaseId ∈ world.store.leaseId → Fresh corpus world.store checkpoint candidate
  current : Current corpus world.store

/-- What a projection shows. -/
def Store.shown (store : Store Part Content) :
    List SearchDocument × Option SearchIndexState × Option SearchProjectionCheckpoint :=
  (store.searchDocuments, store.searchIndexState, store.control.publishedCheckpoint)

/-- A projection is cleared, with the lease. -/
def Store.Cleared (store : Store Part Content) : Prop :=
  store.searchDocuments = [] ∧ store.control.publishedCheckpoint = none ∧
    store.control.lease = none

/-- A store after a call that publishes nothing, for the holders of leases that were drawn. -/
def Later (drawn : List String) (before after : Store Part Content) : Prop :=
  after.Cleared ∨ (after.shown = before.shown ∧
    (before.revision < after.revision ∨
      after.revision = before.revision ∧ after.source = before.source) ∧
    ∀ id ∈ drawn, id ∈ after.leaseId → id ∈ before.leaseId)

variable {corpus} {world : World ι Part Content} {before after : Store Part Content}
  {drawn : List String}

/-- A candidate is worth no less under the same lease. -/
theorem Fresh.of_later {checkpoint : SearchProjectionCheckpoint} {candidate : Candidate Content}
    {id : String} (later : Later drawn before after) (member : id ∈ drawn)
    (held : id ∈ after.leaseId)
    (fresh : id ∈ before.leaseId → Fresh corpus before checkpoint candidate) :
    Fresh corpus after checkpoint candidate := by
  rcases later with ⟨-, -, free⟩ | ⟨shown, moved, kept⟩
  · rw [Store.leaseId, free] at held
    cases held
  · obtain ⟨documents, rest⟩ := Prod.mk.inj shown
    obtain ⟨below, faithful⟩ := fresh (kept id member held)
    rcases moved with further | ⟨same, source⟩
    · exact ⟨below.trans further.le, fun level => absurd (level ▸ below) further.not_ge⟩
    · refine ⟨same ▸ below, fun level => ?_⟩
      have before := faithful (level.trans same)
      cases candidate <;>
          simpa only [Faithful, documents, (Prod.mk.inj rest).1, source] using before

theorem Current.of_later (later : Later drawn before after) (current : Current corpus before) :
    Current corpus after := by
  intro published member
  rcases later with ⟨-, absent, -⟩ | ⟨shown, moved, -⟩
  · rw [absent] at member
    cases member
  · obtain ⟨documents, rest⟩ := Prod.mk.inj shown
    obtain ⟨state, same⟩ := Prod.mk.inj rest
    rw [same] at member
    obtain ⟨below, reflects, complete⟩ := current published member
    rw [documents, state]
    rcases moved with further | ⟨level, source⟩
    · exact ⟨below.trans further.le, fun here => absurd (here ▸ below) further.not_ge, complete⟩
    · rw [level, source]
      exact ⟨below, reflects, complete⟩

/-- A call that publishes nothing keeps what holds. -/
theorem Kept.of_later (kept : Kept corpus world) (later : Later world.drawn world.store after)
    (more : ∀ id ∈ world.drawn, id ∈ drawn) (held : ∀ id ∈ after.leaseId, id ∈ drawn) :
    Kept corpus { world with store := after, drawn } where
  ascending := by
    rcases later with ⟨empty, -⟩ | ⟨shown, -⟩
    · dsimp only
      rw [empty]
      exact List.Pairwise.nil
    · exact (Prod.mk.inj shown).1 ▸ kept.ascending
  held := held
  given projector lease present := more _ (kept.given projector lease present)
  apart := kept.apart
  fresh projector lease checkpoint candidate working current :=
    .of_later later (kept.given projector lease (by rw [working]; rfl)) current
      (kept.fresh projector lease checkpoint candidate working)
  current := kept.current.of_later later

/-- The store after statements of a transaction that is not at its end. -/
structure Wrote (before after : Store Part Content) : Prop where
  revision : after.revision = before.revision
  counters : before.control.checkpoint.fenceToken ≤ after.control.checkpoint.fenceToken ∧
    before.control.checkpoint.commandGeneration ≤ after.control.checkpoint.commandGeneration
  shown : after.Cleared ∨
    (after.shown = before.shown ∧ after.control.lease = before.control.lease)

theorem wrote_of_write {updatedAt : String} {statement : TxWrite Part Content}
    (ran : before.write updatedAt statement = .ok after) : Wrote before after := by
  cases statement with
  | source source =>
      obtain rfl := Except.ok.inj ran
      exact ⟨rfl, ⟨le_rfl, le_rfl⟩, .inr ⟨rfl, rfl⟩⟩
  | requestSearchProjectionCommand command =>
      obtain ⟨-, ran⟩ := check_bind_eq_ok_iff.mp ran
      obtain rfl := Except.ok.inj ran
      exact ⟨rfl, ⟨le_rfl, Nat.le_succ _⟩, .inr ⟨rfl, rfl⟩⟩
  | clearSearchProjection =>
      obtain rfl := Except.ok.inj ran
      exact ⟨rfl, ⟨Nat.le_succ _, Nat.le_succ _⟩, .inl ⟨rfl, rfl, rfl⟩⟩
  | clearEverything source =>
      obtain rfl := Except.ok.inj ran
      exact ⟨rfl, ⟨Nat.le_succ _, Nat.le_succ _⟩, .inl ⟨rfl, rfl, rfl⟩⟩

theorem wrote_of_foldlM {updatedAt : String} {statements : List (TxWrite Part Content)}
    (ran : statements.foldlM (Store.write updatedAt) before = .ok after) : Wrote before after := by
  induction statements generalizing before with
  | nil =>
      obtain rfl := Except.ok.inj ran
      exact ⟨rfl, ⟨le_rfl, le_rfl⟩, .inr ⟨rfl, rfl⟩⟩
  | cons statement rest ih =>
      rw [List.foldlM_cons] at ran
      obtain ⟨middle, first, others⟩ := bind_eq_ok_iff.mp ran
      have one := wrote_of_write first
      have two := ih others
      refine ⟨two.revision.trans one.revision, ⟨one.counters.1.trans two.counters.1,
        one.counters.2.trans two.counters.2⟩, ?_⟩
      rcases two.shown with fenced | ⟨same, lease⟩
      · exact .inl fenced
      · rcases one.shown with ⟨documents, published, free⟩ | ⟨before, held⟩
        · obtain ⟨first, rest⟩ := Prod.mk.inj same
          exact .inl ⟨first.trans documents, (Prod.mk.inj rest).2.trans published,
            lease.trans free⟩
        · exact .inr ⟨same.trans before, lease.trans held⟩

/-- What a transaction leaves at its end, with the revision advanced where it is to be. -/
theorem wrote_of_persist {updatedAt : String} {statements : List (TxWrite Part Content)}
    {advance : Bool}
    (ran : before.persistResultInternal statements advance updatedAt = .ok after) :
    ∃ written, statements.foldlM (Store.write updatedAt) before = .ok written ∧
      after = if advance = true then
        { written with control := written.control.bumpSearchSourceRevision updatedAt }
        else written := by
  obtain ⟨written, folded, ran⟩ := bind_eq_ok_iff.mp ran
  exact ⟨written, folded, (Except.ok.inj ran).symm⟩

/-! ## What every call keeps -/

theorem Kept.persist {statements : List (TxWrite Part Content)} {updatedAt : String}
    (kept : Kept corpus world)
    (ran : world.store.persistResultInternal statements true updatedAt = .ok after) :
    Kept corpus { world with store := after } := by
  obtain ⟨written, folded, rfl⟩ := wrote_of_persist ran
  have wrote := wrote_of_foldlM folded
  rcases wrote.shown with ⟨documents, published, free⟩ | ⟨same, lease⟩
  · refine kept.of_later (.inl ⟨documents, published, free⟩) (fun _ => id) fun id held => ?_
    have absent : written.leaseId = none := by
      rw [Store.leaseId, free, Option.map_none]
    cases absent.symm.trans held
  · have leaseId : written.leaseId = world.store.leaseId := by
      rw [Store.leaseId, lease, Store.leaseId]
    refine kept.of_later (.inr ⟨same, .inl ?_, fun id _ held => leaseId ▸ held⟩) (fun _ => id)
      fun id held => kept.held id (leaseId ▸ held)
    exact Nat.lt_succ_of_le wrote.revision.ge

theorem Kept.requestSearchProjectionCommand {command : SearchProjectionCommand}
    {updatedAt : String} (kept : Kept corpus world)
    (ran : world.store.persistResultInternal [.requestSearchProjectionCommand command] false
      updatedAt = .ok after) : Kept corpus { world with store := after } := by
  obtain ⟨written, folded, rfl⟩ := wrote_of_persist ran
  rw [List.foldlM_cons] at folded
  obtain ⟨single, statement, rest⟩ := bind_eq_ok_iff.mp folded
  obtain ⟨-, statement⟩ := check_bind_eq_ok_iff.mp statement
  obtain rfl := Except.ok.inj statement
  obtain rfl := Except.ok.inj rest
  exact kept.of_later (.inr ⟨rfl, .inr ⟨rfl, rfl⟩, fun _ _ held => held⟩) (fun _ => id) kept.held

theorem Kept.withStore {result : Except ProjectionFault (Store Part Content)}
    (kept : Kept corpus world)
    (next : ∀ store, result = .ok store → Kept corpus { world with store }) :
    Kept corpus (world.withStore result) := by
  cases result with
  | error fault => exact kept
  | ok store => exact next store rfl

/-- A change of the control row that leaves all but the lease, and the lease to its holder. -/
structure LeaseOnly (before after : SearchProjectionControl) : Prop where
  checkpoint : after.checkpoint = before.checkpoint
  published : after.publishedCheckpoint = before.publishedCheckpoint
  holder : ∀ id ∈ after.lease.map (·.leaseId), id ∈ before.lease.map (·.leaseId)

theorem leaseOnly_heartbeatLease (control : SearchProjectionControl)
    (lease : SearchProjectorLease) (heartbeatAt : String) (expires nowMs : Int) :
    LeaseOnly control (control.heartbeatLease lease heartbeatAt expires nowMs) := by
  unfold SearchProjectionControl.heartbeatLease
  split
  · next current present =>
      split
      · refine ⟨rfl, rfl, fun id held => ?_⟩
        rw [present]
        exact held
      · exact ⟨rfl, rfl, fun _ held => held⟩
  · exact ⟨rfl, rfl, fun _ held => held⟩

theorem leaseOnly_releaseLease (control : SearchProjectionControl) (lease : SearchProjectorLease)
    (updatedAt : String) : LeaseOnly control (control.releaseLease lease updatedAt) := by
  unfold SearchProjectionControl.releaseLease
  split
  · exact ⟨rfl, rfl, fun _ held => by cases held⟩
  · exact ⟨rfl, rfl, fun _ held => held⟩

theorem Kept.withControl (kept : Kept corpus world) (projector : ι)
    {change : SearchProjectionControl → SearchProjectorLease → SearchProjectionControl}
    (only : ∀ control lease, LeaseOnly control (change control lease)) :
    Kept corpus (world.withControl projector change) := by
  unfold World.withControl
  split
  · next lease _ =>
      have only := only world.store.control lease
      refine kept.of_later (.inr ⟨?_, .inr ⟨?_, rfl⟩, fun id _ => only.holder id⟩) (fun _ => id)
        fun id held => kept.held id (only.holder id held)
      · rw [Store.shown, only.published]
        rfl
      · rw [Store.revision, only.checkpoint]
        rfl
  · exact kept

variable [DecidableEq ι]

/-- A projector moves on, under a lease of its own. -/
theorem Kept.withProjector {projector : ι} {state : Projector Content} (kept : Kept corpus world)
    (given : ∀ lease ∈ state.lease, lease.leaseId ∈ world.drawn ∧ ∀ other, other ≠ projector →
      ∀ otherLease ∈ (world.projectors other).lease, lease.leaseId ≠ otherLease.leaseId)
    (fresh : ∀ lease checkpoint candidate, state = .working lease checkpoint candidate →
      lease.leaseId ∈ world.store.leaseId → Fresh corpus world.store checkpoint candidate) :
    Kept corpus (world.withProjector projector state) := by
  have at_ : ∀ other, (world.withProjector projector state).projectors other =
      if other = projector then state else world.projectors other := fun other =>
    Function.update_apply world.projectors projector state other
  refine ⟨kept.ascending, kept.held, ?_, ?_, ?_, kept.current⟩
  · intro other lease present
    rw [at_] at present
    split at present
    · exact (given lease present).1
    · exact kept.given other lease present
  · intro first second distinct lease one otherLease two
    rw [at_] at one two
    split at one <;> split at two
    · next here there => exact (distinct (here.trans there.symm)).elim
    · next there => exact (given lease one).2 second there otherLease two
    · next there _ => exact ((given otherLease two).2 first there lease one).symm
    · exact kept.apart first second distinct lease one otherLease two
  · intro other lease checkpoint candidate working
    rw [at_] at working
    split at working
    · exact fresh lease checkpoint candidate working
    · exact kept.fresh other lease checkpoint candidate working

/-- A projector goes on under the lease it has. -/
theorem Kept.goesOn {projector : ι} {state : Projector Content} {lease : SearchProjectorLease}
    (kept : Kept corpus world) (present : (world.projectors projector).lease = some lease)
    (same : state.lease = some lease)
    (fresh : ∀ checkpoint candidate, state = .working lease checkpoint candidate →
      lease.leaseId ∈ world.store.leaseId → Fresh corpus world.store checkpoint candidate) :
    Kept corpus (world.withProjector projector state) := by
  refine kept.withProjector (fun other named => ?_) fun other checkpoint candidate working => ?_
  · obtain rfl := Option.some.inj (same.symm.trans named)
    exact ⟨kept.given projector lease present, fun another distinct otherLease there =>
      kept.apart projector another distinct.symm lease present otherLease there⟩
  · subst working
    obtain rfl := Option.some.inj same
    exact fresh checkpoint candidate rfl

/-- What an acquisition leaves, where the lease is free or has run out. -/
theorem acquired_of_tryAcquire {owner leaseId heartbeatAt : String} {ttlMillis : Nat}
    {nowMs : Int} {lease : SearchProjectorLease}
    (ran : before.tryAcquireSearchProjectorLease owner ttlMillis leaseId heartbeatAt nowMs =
      .ok (some lease, after)) : lease.leaseId = leaseId ∧ after = { before with
        control := { before.control with lease := some lease, updatedAt := heartbeatAt } } := by
  obtain ⟨-, ran⟩ := check_bind_eq_ok_iff.mp ran
  have answer := Except.ok.inj ran
  unfold SearchProjectionControl.acquireLease at answer
  split at answer
  · cases answer
  · next control acquired =>
      split at acquired
      · obtain rfl := Option.some.inj acquired
        obtain ⟨held, rfl⟩ := Prod.mk.inj answer
        obtain rfl := Option.some.inj held
        exact ⟨rfl, rfl⟩
      · cases acquired

theorem Kept.acquire {projector : ι} {owner leaseId heartbeatAt : String} {ttlMillis : Nat}
    {nowMs : Int} (kept : Kept corpus world) (undrawn : leaseId ∉ world.drawn) :
    Kept corpus (world.acquire projector owner ttlMillis leaseId heartbeatAt nowMs) := by
  unfold World.acquire
  split
  · next lease store ran =>
      obtain ⟨rfl, rfl⟩ := acquired_of_tryAcquire ran
      have taken : Kept corpus { world with
          store := { world.store with control :=
            { world.store.control with lease := some lease, updatedAt := heartbeatAt } }
          drawn := lease.leaseId :: world.drawn } := by
        refine kept.of_later (.inr ⟨rfl, .inr ⟨rfl, rfl⟩, ?_⟩)
          (fun _ => List.mem_cons_of_mem lease.leaseId) fun id now => ?_
        · intro id member now
          obtain rfl := Option.some.inj now
          exact (undrawn member).elim
        · obtain rfl := Option.some.inj now
          exact List.mem_cons_self
      refine taken.withProjector (fun other present => ?_) fun _ _ _ working => by cases working
      obtain rfl := Option.some.inj present
      refine ⟨List.mem_cons_self, fun another _ otherLease there same => undrawn ?_⟩
      rw [same]
      exact kept.given another otherLease there
  · exact kept

theorem ok_of_toOption {α : Type} {ε : Type} {result : Except ε α} {value : α}
    (read : result.toOption = some value) : result = .ok value := by
  cases result with
  | error fault => cases read
  | ok other => rw [Option.some.inj read]

/-- A projector that goes on with what is as fresh as before. -/
theorem Kept.advance (kept : Kept corpus world) (projector : ι)
    {next : Store Part Content → Projector Content → Option (Projector Content)}
    (goes : ∀ state, next world.store (world.projectors projector) = some state →
      ∃ lease checkpoint candidate, (world.projectors projector).lease = some lease ∧
        state = .working lease checkpoint candidate ∧
        (lease.leaseId ∈ world.store.leaseId → Fresh corpus world.store checkpoint candidate)) :
    Kept corpus (world.advance projector next) := by
  unfold World.advance
  split
  · next state found =>
      obtain ⟨lease, checkpoint, candidate, present, rfl, fresh⟩ := goes state found
      refine kept.goesOn present rfl fun _ _ same held => ?_
      cases same
      exact fresh held
  · exact kept

theorem Kept.readControl (kept : Kept corpus world) (projector : ι) :
    Kept corpus (world.advance projector Projector.readControl) := by
  refine kept.advance projector fun state found => ?_
  obtain ⟨lease, present, found⟩ := Option.bind_eq_some_iff.mp found
  obtain ⟨-, -, found⟩ := Option.bind_eq_some_iff.mp found
  obtain rfl := Option.some.inj found
  exact ⟨lease, _, _, present, rfl, fun _ => ⟨le_rfl, fun _ => List.nil_prefix⟩⟩

/-- A prefix goes on by the element that comes next. -/
theorem concat_prefix {α : Type} {front whole : List α} {next : α} (before : front <+: whole)
    (here : whole[front.length]? = some next) : front ++ [next] <+: whole := by
  obtain ⟨rest, rfl⟩ := before
  rw [List.getElem?_append_right le_rfl, Nat.sub_self] at here
  cases rest with
  | nil => cases here
  | cons first later =>
      obtain rfl := Option.some.inj here
      exact ⟨later, by rw [List.append_assoc, List.singleton_append]⟩

theorem Kept.readPart (kept : Kept corpus world) (projector : ι) :
    Kept corpus (world.advance projector (Projector.readPart corpus)) := by
  refine kept.advance projector fun state found => ?_
  unfold Projector.readPart at found
  split at found
  · next lease checkpoint command gathered working =>
      obtain ⟨part, here, found⟩ := Option.bind_eq_some_iff.mp found
      obtain rfl := Option.some.inj found
      refine ⟨lease, _, _, by rw [working]; rfl, rfl, fun held => ?_⟩
      obtain ⟨below, faithful⟩ := kept.fresh projector lease checkpoint _ working held
      refine ⟨below, fun level => concat_prefix (faithful level) ?_⟩
      rw [List.getElem?_map, here]
      rfl
  · cases found

theorem Kept.build (kept : Kept corpus world) (projector : ι) (around : Surroundings) :
    Kept corpus (world.advance projector fun store => Projector.build corpus store around) := by
  refine kept.advance projector fun state found => ?_
  unfold Projector.build at found
  split at found
  · next lease checkpoint command gathered working =>
      obtain ⟨_, whole, found⟩ := Option.bind_eq_some_iff.mp found
      obtain ⟨build, built, found⟩ := Option.bind_eq_some_iff.mp found
      obtain rfl := Option.some.inj found
      refine ⟨lease, _, _, by rw [working]; rfl, rfl, fun held => ?_⟩
      obtain ⟨below, faithful⟩ := kept.fresh projector lease checkpoint _ working held
      refine ⟨below, fun level => ⟨around, ?_⟩⟩
      have counted := ((Option.guard_eq_some' _).mp whole).1
      rw [← (faithful level).eq_of_length (by rw [List.length_map, counted])]
      exact ok_of_toOption built
  · cases found

theorem Kept.readStatus (kept : Kept corpus world) (projector : ι) :
    Kept corpus (world.advance projector Projector.readStatus) := by
  refine kept.advance projector fun state found => ?_
  unfold Projector.readStatus at found
  split at found
  · next lease checkpoint forceRebuild build working =>
      obtain rfl := Option.some.inj found
      refine ⟨lease, _, _, by rw [working]; rfl, rfl, fun held => ?_⟩
      obtain ⟨below, faithful⟩ := kept.fresh projector lease checkpoint _ working held
      exact ⟨below, fun level => ⟨faithful level, rfl⟩⟩
  · cases found

theorem write_ofEdit (rows : List SearchDocument) (edit : Edit SearchDocument String) :
    SearchIndexOperation.write rows (.ofEdit edit) = edit.write SearchDocument.id rows := by
  cases edit <;> rfl

/-- The operations that were found lead from the rows to the documents. -/
theorem foldl_write_of_reconcile [Crates] {documents rows : List SearchDocument}
    {forceRebuild : Bool} {operations : List SearchIndexOperation} {targetCount truncated : Nat}
    (sorted : Ascending SearchDocument.id rows)
    (ran : reconcileSortedSearchDocuments documents forceRebuild (rows.map .ok) =
      .ok (operations, targetCount, truncated)) :
    operations.foldl SearchIndexOperation.write rows = documents ∧
      targetCount = documents.length ∧ Ascending SearchDocument.id documents := by
  have ordered : Ascending SearchDocument.id documents := by
    rw [← firstUnordered_eq_none_iff]
    cases found : firstUnordered documents with
    | none => rfl
    | some document =>
        unfold reconcileSortedSearchDocuments at ran
        rw [found] at ran
        cases ran
  rw [reconcile_eq ordered, readAll_ok] at ran
  obtain ⟨rfl, rest⟩ := Prod.mk.inj (Except.ok.inj ran)
  obtain ⟨rfl, -⟩ := Prod.mk.inj rest
  refine ⟨?_, rfl, ordered⟩
  unfold differing
  rw [List.foldl_map]
  simp only [write_ofEdit]
  exact foldl_write_diff ordered sorted fun document previous => keeps_eq_true

theorem Kept.reconcile [Crates] (kept : Kept corpus world) (projector : ι) (now : String) :
    Kept corpus (world.advance projector fun store => Projector.reconcile store now) := by
  refine kept.advance projector fun state found => ?_
  unfold Projector.reconcile at found
  split at found
  · next lease checkpoint forceRebuild build existingStatus working =>
      obtain ⟨⟨operations, targetCount, truncated⟩, ran, found⟩ :=
        Option.bind_eq_some_iff.mp found
      obtain rfl := Option.some.inj found
      refine ⟨lease, _, _, by rw [working]; rfl, rfl, fun held => ?_⟩
      obtain ⟨below, faithful⟩ := kept.fresh projector lease checkpoint _ working held
      refine ⟨below, fun level => ?_⟩
      obtain ⟨⟨around, built⟩, status⟩ := faithful level
      obtain ⟨written, count, ordered⟩ := foldl_write_of_reconcile kept.ascending
        (ok_of_toOption ran)
      dsimp only [Faithful]
      rw [written, ← status]
      exact ⟨⟨around, build, built, rfl⟩, ⟨rfl, count⟩, ordered, rfl⟩
  · cases found

/-! ## Publication -/

/-- What a publication that is not refused has found. -/
structure Granted (control : SearchProjectionControl) (lease : SearchProjectorLease)
    (checkpoint : SearchProjectionCheckpoint) (nowMs : Int) : Prop where
  lease : ∃ current ∈ control.lease, current.leaseId = lease.leaseId ∧
    current.owner = lease.owner ∧ nowMs < current.expiresAtUnixMs
  checkpoint : control.checkpoint = checkpoint
  command : control.command ≠ .pause

theorem projectionPublishRejection_eq_none_iff {control : SearchProjectionControl}
    {lease : SearchProjectorLease} {checkpoint : SearchProjectionCheckpoint} {nowMs : Int} :
    projectionPublishRejection control lease checkpoint nowMs = none ↔
      Granted control lease checkpoint nowMs := by
  unfold projectionPublishRejection
  split_ifs with held fence revision generation paused
  · exact iff_of_false nofun fun granted => fence (by rw [granted.checkpoint])
  · exact iff_of_false nofun fun granted => revision (by rw [granted.checkpoint])
  · exact iff_of_false nofun fun granted => generation (by rw [granted.checkpoint])
  · exact iff_of_false nofun fun granted => granted.command paused
  · push Not at fence revision generation
    obtain ⟨current, present, same⟩ := (Option.any_eq_true _ _).mp held
    refine iff_of_true rfl ⟨⟨current, present, of_decide_eq_true same⟩, ?_, paused⟩
    cases here : control.checkpoint
    cases checkpoint
    rw [here] at fence revision generation
    subst fence revision generation
    rfl
  · refine iff_of_false nofun fun granted => held ((Option.any_eq_true _ _).mpr ?_)
    obtain ⟨current, present, same⟩ := granted.lease
    exact ⟨current, present, decide_eq_true same⟩

theorem Granted.leaseId {store : Store Part Content} {lease : SearchProjectorLease}
    {checkpoint : SearchProjectionCheckpoint} {nowMs : Int}
    (granted : Granted store.control lease checkpoint nowMs) : lease.leaseId ∈ store.leaseId := by
  obtain ⟨current, present, named, -, -⟩ := granted.lease
  rw [Store.leaseId, Option.mem_def.mp present]
  exact congrArg some named

/-- What a publication leaves, where it is not refused. -/
def Store.published (store : Store Part Content) (checkpoint : SearchProjectionCheckpoint)
    (operations : List SearchIndexOperation) (state : SearchIndexState) (updatedAt : String) :
    Store Part Content :=
  { store with
    control := store.control.recordPublishedSearchCheckpoint checkpoint updatedAt
    searchDocuments := operations.foldl SearchIndexOperation.write store.searchDocuments
    searchIndexState := some state }

/-- A publication is granted and made, or refused and nothing changes. -/
theorem publish_cases (store : Store Part Content) (lease : SearchProjectorLease)
    (checkpoint : SearchProjectionCheckpoint) (operations : List SearchIndexOperation)
    (state : SearchIndexState) (nowMs : Int) (updatedAt : String) :
    (¬Granted store.control lease checkpoint nowMs ∧
      (store.publishSearchProjection lease checkpoint operations state nowMs updatedAt).2 =
        store) ∨
    (Granted store.control lease checkpoint nowMs ∧
      (store.publishSearchProjection lease checkpoint operations state nowMs updatedAt).2 =
        store.published checkpoint operations state updatedAt) := by
  unfold Store.publishSearchProjection
  cases found : projectionPublishRejection store.control lease checkpoint nowMs with
  | some reason =>
      refine .inl ⟨fun granted => ?_, rfl⟩
      cases found.symm.trans (projectionPublishRejection_eq_none_iff.mpr granted)
  | none => exact .inr ⟨projectionPublishRejection_eq_none_iff.mp found, rfl⟩

theorem Kept.publish (kept : Kept corpus world) (projector : ι) (nowMs : Int)
    (updatedAt : String) : Kept corpus (world.publish projector nowMs updatedAt) := by
  unfold World.publish
  split
  · next lease checkpoint operations completed working =>
      have mine : (world.projectors projector).lease = some lease := by
        rw [working]
        rfl
      have done : Kept corpus (world.withProjector projector (.leased lease)) :=
        kept.goesOn mine rfl fun _ _ next => by cases next
      rcases publish_cases world.store lease checkpoint operations completed nowMs updatedAt with
        ⟨-, result⟩ | ⟨granted, result⟩
      · dsimp only
        rw [result]
        exact done
      · dsimp only
        rw [result]
        obtain ⟨reflects, completes, ordered, -⟩ :=
          (kept.fresh projector lease checkpoint _ working granted.leaseId).2
            (by rw [← granted.checkpoint]; rfl)
        refine ⟨ordered, kept.held, done.given, done.apart, ?_, ?_⟩
        · intro other otherLease otherCheckpoint candidate busy same
          have leased : (world.withProjector projector (.leased lease)).projectors projector =
            .leased lease := Function.update_self ..
          have elsewhere : projector ≠ other := by
            rintro rfl
            cases leased.symm.trans busy
          have here := Option.some.inj ((Option.mem_def.mp granted.leaseId).symm.trans same)
          exact (done.apart projector other elsewhere lease (by rw [leased]; rfl) otherLease
            (congrArg Projector.lease busy) here).elim
        · intro published stamped
          obtain rfl := Option.some.inj stamped
          refine ⟨?_, fun _ => reflects, completed, rfl, completes⟩
          rw [← granted.checkpoint]
          exact le_rfl
  · exact kept

/-! ## Whole runs -/

namespace World

/-- The row a migration puts in, and no projection yet. -/
def initial (source : Part → Content) (updatedAt : String) : World ι Part Content where
  store := ⟨source, ⟨⟨0, 0, 0⟩, none, .reconcile, none, updatedAt⟩, [], none⟩
  projectors := fun _ => .standby
  drawn := []

/-- No id of a lease is drawn again. -/
def Admits (world : World ι Part Content) : Call ι Part Content Surroundings → Prop
  | .acquire _ _ _ leaseId _ _ => leaseId ∉ world.drawn
  | _ => True

end World

omit [DecidableEq ι] in
theorem Kept.initial (source : Part → Content) (updatedAt : String) :
    Kept corpus (World.initial source updatedAt : World ι Part Content) where
  ascending := List.Pairwise.nil
  held _ held := by cases held
  given _ _ present := by cases present
  apart _ _ _ _ present := by cases present
  fresh _ _ _ _ working := by cases working
  current _ published := by cases published

section Runs

variable [Crates] {call : Call ι Part Content Surroundings}

theorem Kept.step (kept : Kept corpus world) (admits : world.Admits call) :
    Kept corpus (world.step corpus call) := by
  cases call with
  | persist writes updatedAt => exact kept.withStore fun store ran => kept.persist ran
  | requestSearchProjectionCommand command updatedAt =>
      exact kept.withStore fun store ran => kept.requestSearchProjectionCommand ran
  | restore source control updatedAt =>
      exact kept.of_later (.inl ⟨rfl, rfl, rfl⟩) (fun _ => id) fun _ held => by cases held
  | acquire projector owner ttlMillis leaseId heartbeatAt nowMs => exact kept.acquire admits
  | heartbeat projector ttlMillis heartbeatAt nowMs =>
      exact kept.withControl projector fun control lease =>
        leaseOnly_heartbeatLease control lease _ _ _
  | release projector updatedAt =>
      exact kept.withControl projector fun control lease => leaseOnly_releaseLease control lease _
  | readControl projector => exact kept.readControl projector
  | readPart projector => exact kept.readPart projector
  | build projector around => exact kept.build projector around
  | readStatus projector => exact kept.readStatus projector
  | reconcile projector now => exact kept.reconcile projector now
  | publish projector nowMs updatedAt => exact kept.publish projector nowMs updatedAt
  | abandon projector =>
      exact kept.withProjector (fun _ present => by cases present) fun _ _ _ next => by cases next

variable (corpus)

/-- A publication by the holder of the lease, for the checkpoint that stands. -/
structure Published (world : World ι Part Content) (call : Call ι Part Content Surroundings)
    (after : World ι Part Content) : Prop where
  granted : ∃ projector nowMs updatedAt lease checkpoint candidate,
    call = .publish projector nowMs updatedAt ∧
      world.projectors projector = .working lease checkpoint candidate ∧
      Granted world.store.control lease checkpoint nowMs
  reflects : Reflects corpus world.store.source after.store.searchDocuments
  generation : after.store.searchIndexState.map (·.generation) =
    some (nextGeneration world.store.searchIndexState)

/-- What one call can change. -/
structure Guarded (world : World ι Part Content) (call : Call ι Part Content Surroundings)
    (after : World ι Part Content) : Prop where
  /-- Only a restore sets a counter back. -/
  counters : (∀ source control updatedAt, call ≠ .restore source control updatedAt) →
    world.store.revision ≤ after.store.revision ∧
      world.store.control.checkpoint.fenceToken ≤ after.store.control.checkpoint.fenceToken ∧
      world.store.control.checkpoint.commandGeneration ≤
        after.store.control.checkpoint.commandGeneration
  /-- A projection is cleared, or published by whoever holds the lease. -/
  shown : after.store.shown = world.store.shown ∨ after.store.Cleared ∨
    Published corpus world call after

variable {corpus}

omit [DecidableEq ι] [Crates] in
theorem Guarded.of_store_eq {after : World ι Part Content} (same : after.store = world.store) :
    Guarded corpus world call after := by
  refine ⟨fun _ => ?_, .inl (by rw [same])⟩
  rw [same]
  exact ⟨le_rfl, le_rfl, le_rfl⟩

omit [DecidableEq ι] [Crates] in
theorem Guarded.withControl (projector : ι)
    {change : SearchProjectionControl → SearchProjectorLease → SearchProjectionControl}
    (only : ∀ control lease, LeaseOnly control (change control lease)) :
    Guarded corpus world call (world.withControl projector change) := by
  unfold World.withControl
  split
  · next lease _ =>
      have only := only world.store.control lease
      refine ⟨fun _ => ?_, .inl ?_⟩
      · rw [Store.revision, Store.revision, only.checkpoint]
        exact ⟨le_rfl, le_rfl, le_rfl⟩
      · rw [Store.shown, only.published]
        rfl
  · exact .of_store_eq rfl

omit [Crates] in
theorem store_advance (projector : ι) (next : Store Part Content → Projector Content →
    Option (Projector Content)) : (world.advance projector next).store = world.store := by
  unfold World.advance
  split <;> rfl

omit [DecidableEq ι] [Crates] in
theorem Guarded.of_persist {statements : List (TxWrite Part Content)} {advance : Bool}
    {updatedAt : String}
    (ran : world.store.persistResultInternal statements advance updatedAt = .ok after) :
    Guarded corpus world call { world with store := after } := by
  obtain ⟨written, folded, rfl⟩ := wrote_of_persist ran
  have wrote := wrote_of_foldlM folded
  refine ⟨fun _ => ?_, wrote.shown.elim (fun cleared => .inr (.inl ?_)) fun same => .inl ?_⟩
  · cases advance with
    | true => exact ⟨wrote.revision.ge.trans (Nat.le_succ _), wrote.counters⟩
    | false => exact ⟨wrote.revision.ge, wrote.counters⟩
  · cases advance <;> exact cleared
  · cases advance <;> exact same.1

/-- **What one call changes** of what a projection shows. -/
theorem Kept.guarded (kept : Kept corpus world) (call : Call ι Part Content Surroundings) :
    Guarded corpus world call (world.step corpus call) := by
  have withStore : ∀ {advance : Bool} {statements : List (TxWrite Part Content)}
      {updatedAt : String}, Guarded corpus world call (world.withStore
        (world.store.persistResultInternal statements advance updatedAt)) := by
    intro advance statements updatedAt
    cases ran : world.store.persistResultInternal statements advance updatedAt with
    | error fault => exact .of_store_eq rfl
    | ok store => exact .of_persist ran
  cases call with
  | persist writes updatedAt => exact withStore
  | requestSearchProjectionCommand command updatedAt => exact withStore
  | restore source control updatedAt =>
      exact ⟨fun other => (other source control updatedAt rfl).elim, .inr (.inl ⟨rfl, rfl, rfl⟩)⟩
  | acquire projector owner ttlMillis leaseId heartbeatAt nowMs =>
      change Guarded corpus world _ (world.acquire projector owner ttlMillis leaseId heartbeatAt
        nowMs)
      unfold World.acquire
      split
      · next lease store ran =>
          obtain ⟨-, rfl⟩ := acquired_of_tryAcquire ran
          exact ⟨fun _ => ⟨le_rfl, le_rfl, le_rfl⟩, .inl rfl⟩
      · exact .of_store_eq rfl
  | heartbeat projector ttlMillis heartbeatAt nowMs =>
      exact .withControl projector fun control lease => leaseOnly_heartbeatLease control lease _ _ _
  | release projector updatedAt =>
      exact .withControl projector fun control lease => leaseOnly_releaseLease control lease _
  | readControl projector => exact .of_store_eq (store_advance ..)
  | readPart projector => exact .of_store_eq (store_advance ..)
  | build projector around => exact .of_store_eq (store_advance ..)
  | readStatus projector => exact .of_store_eq (store_advance ..)
  | reconcile projector now => exact .of_store_eq (store_advance ..)
  | publish projector nowMs updatedAt =>
      change Guarded corpus world _ (world.publish projector nowMs updatedAt)
      unfold World.publish
      split
      · next lease checkpoint operations completed working =>
          rcases publish_cases world.store lease checkpoint operations completed nowMs updatedAt
            with ⟨-, result⟩ | ⟨granted, result⟩
          · exact .of_store_eq result
          · obtain ⟨reflects, -, -, generation⟩ :=
              (kept.fresh projector lease checkpoint _ working granted.leaseId).2
                (by rw [← granted.checkpoint]; rfl)
            dsimp only
            rw [result]
            refine ⟨fun _ => ⟨le_rfl, le_rfl, le_rfl⟩, .inr (.inr ?_)⟩
            exact ⟨⟨projector, nowMs, updatedAt, lease, checkpoint, _, rfl, working, granted⟩,
              reflects, congrArg some generation⟩
      · exact .of_store_eq rfl
  | abandon projector => exact .of_store_eq rfl

theorem Kept.of_mem_states {source : Part → Content} {updatedAt : String}
    {calls : List (Call ι Part Content Surroundings)}
    (admissible : Run.Admissible (World.step corpus) World.Admits
      (World.initial source updatedAt) calls) :
    ∀ world ∈ Run.states (World.step corpus) (World.initial source updatedAt) calls,
      Kept corpus world :=
  Run.forall_mem_states (fun _ _ kept admits => kept.step admits) (.initial source updatedAt)
    admissible

/-- **No stale projection is published.** Whatever calls come in whatever order, what is
published is complete, and what is published for the revision that stands was built from the
source rows that stand. A call changes what is shown only by clearing it, or by a publication of
the holder of the lease for the checkpoint that stands. -/
theorem published_sound (source : Part → Content) (updatedAt : String)
    (calls : List (Call ι Part Content Surroundings))
    (admissible : Run.Admissible (World.step corpus) World.Admits
      (World.initial source updatedAt) calls) :
    ∀ world ∈ Run.states (World.step corpus) (World.initial source updatedAt) calls,
      Current corpus world.store ∧
        ∀ call, Guarded corpus world call (world.step corpus call) := by
  intro world member
  have kept := Kept.of_mem_states admissible world member
  exact ⟨kept.current, kept.guarded⟩

/-! ## A cycle nobody comes between -/

omit [Crates] in
theorem projectors_withProjector (projector : ι) (state : Projector Content) :
    (world.withProjector projector state).projectors projector = state := Function.update_self ..

omit [Crates] in
theorem withProjector_withProjector (projector : ι) (state later : Projector Content) :
    (world.withProjector projector state).withProjector projector later =
      world.withProjector projector later := by
  unfold World.withProjector
  rw [Function.update_idem]

omit [Crates] in
/-- A projector that can go on does. -/
theorem advance_withProjector {projector : ι} {state later : Projector Content}
    {next : Store Part Content → Projector Content → Option (Projector Content)}
    (found : next world.store state = some later) :
    (world.withProjector projector state).advance projector next =
      world.withProjector projector later := by
  unfold World.advance
  rw [projectors_withProjector, show (world.withProjector projector state).store = world.store
    from rfl, found]
  exact withProjector_withProjector projector state later

/-- The calls of a projector that was given the lease. -/
def leasedCalls (corpus : Corpus Part Content Surroundings) (projector : ι) (text : String)
    (publishMs : Int) (around : Surroundings) : List (Call ι Part Content Surroundings) :=
  .readControl projector ::
    (List.replicate corpus.queries.length (.readPart projector) ++
      [.build projector around, .readStatus projector, .reconcile projector text,
        .publish projector publishMs text])

/-- The calls of one cycle of a projector. -/
def cycle (corpus : Corpus Part Content Surroundings) (projector : ι) (owner : String)
    (ttlMillis : Nat) (leaseId text : String) (nowMs publishMs : Int) (around : Surroundings) :
    List (Call ι Part Content Surroundings) :=
  .acquire projector owner ttlMillis leaseId text nowMs ::
    leasedCalls corpus projector text publishMs around

/-- A store whose lease was taken. -/
def Store.leasedTo (store : Store Part Content) (lease : SearchProjectorLease) :
    Store Part Content :=
  { store with
    control := { store.control with lease := some lease, updatedAt := lease.heartbeatAt } }

omit [Crates] in
/-- A lease that is free, or has run out, is taken. -/
theorem acquire_of_free {projector : ι} {owner leaseId text : String} {ttlMillis : Nat}
    {nowMs : Int} (named : Text.trim owner ≠ "")
    (free : world.store.control.lease.all (·.expiresAtUnixMs ≤ nowMs) = true) :
    let lease := ⟨leaseId, owner, text, SearchProjectionControl.expiresMs nowMs ttlMillis⟩
    world.acquire projector owner ttlMillis leaseId text nowMs =
      World.withProjector { world with
        store := world.store.leasedTo lease, drawn := leaseId :: world.drawn } projector
          (.leased lease) := by
  intro lease
  have ran : world.store.tryAcquireSearchProjectorLease owner ttlMillis leaseId text nowMs =
      .ok (some lease, world.store.leasedTo lease) := by
    unfold Store.tryAcquireSearchProjectorLease SearchProjectionControl.acquireLease
    rw [rejectIf, if_neg named]
    dsimp only [bind, Except.bind]
    rw [if_pos free]
    rfl
  unfold World.acquire
  rw [ran]

/-- The queries that remain are all made. -/
theorem foldl_readPart {projector : ι} {lease : SearchProjectorLease}
    {checkpoint : SearchProjectionCheckpoint} {command : SearchProjectionCommand}
    {made rest : List Part} (whole : corpus.queries = made ++ rest) :
    (List.replicate rest.length (Call.readPart projector)).foldl (World.step corpus)
        (world.withProjector projector
          (.working lease checkpoint (.reading command (made.map world.store.source)))) =
      world.withProjector projector
        (.working lease checkpoint (.reading command (corpus.queries.map world.store.source))) := by
  induction rest generalizing made with
  | nil =>
      rw [List.append_nil] at whole
      rw [whole]
      rfl
  | cons part rest ih =>
      have here : Projector.readPart corpus world.store
          (.working lease checkpoint (.reading command (made.map world.store.source))) =
        some (.working lease checkpoint
          (.reading command ((made ++ [part]).map world.store.source))) := by
        unfold Projector.readPart
        dsimp only
        rw [whole, List.length_map, List.getElem?_append_right le_rfl, Nat.sub_self,
          List.getElem?_cons_zero, List.map_append]
        rfl
      rw [List.length_cons, List.replicate_succ, List.foldl_cons]
      change List.foldl _ (World.advance _ projector (Projector.readPart corpus)) _ = _
      rw [advance_withProjector here]
      exact ih (by rw [whole, List.append_assoc, List.singleton_append])

/-- The calls of the holder of the lease publish the edits between the rows that stand and the
documents that are built. -/
theorem foldl_leasedCalls {projector : ι} {lease : SearchProjectorLease} {text : String}
    {publishMs : Int} {around : Surroundings} {build : ProjectionBuild}
    (mine : world.store.control.holds lease = true)
    (running : world.store.control.command ≠ .pause)
    (built : corpus.buildCorpus (corpus.queries.map world.store.source) around = .ok build)
    (ordered : Ascending SearchDocument.id build.documents) :
    ∃ operations completed,
      reconcileSortedSearchDocuments build.documents (world.store.control.command = .rebuild)
        (world.store.searchDocuments.map .ok) = .ok (operations, build.documents.length,
          (build.documents.filter SearchDocument.contentTruncated).length) ∧
      ((leasedCalls corpus projector text publishMs around).foldl (World.step corpus)
        (world.withProjector projector (.leased lease))).store =
          (world.store.publishSearchProjection lease world.store.control.checkpoint operations
            completed publishMs text).2 := by
  let at_ : Candidate Content → World ι Part Content := fun candidate =>
    world.withProjector projector (.working lease world.store.control.checkpoint candidate)
  have zero : (world.withProjector projector (.leased lease)).advance projector
      Projector.readControl = at_ (.reading world.store.control.command []) :=
    advance_withProjector (Option.bind_eq_some_iff.mpr
      ⟨(), (Option.guard_eq_some' _).mpr ⟨mine, running⟩, rfl⟩)
  have gathers : (List.replicate corpus.queries.length (Call.readPart projector)).foldl
      (World.step corpus) (at_ (.reading world.store.control.command [])) =
        at_ (.reading world.store.control.command (corpus.queries.map world.store.source)) :=
    @foldl_readPart ι Part Content Surroundings corpus world _ _ projector lease
      world.store.control.checkpoint world.store.control.command [] corpus.queries rfl
  have one : (at_ (.reading world.store.control.command
      (corpus.queries.map world.store.source))).advance projector
        (fun store => Projector.build corpus store around) =
          at_ (.built (world.store.control.command = .rebuild) build) :=
    advance_withProjector (Option.bind_eq_some_iff.mpr ⟨(), (Option.guard_eq_some' _).mpr
      ⟨List.length_map _, mine, rfl, rfl⟩, Option.bind_eq_some_iff.mpr
        ⟨build, by rw [built]; rfl, rfl⟩⟩)
  have two : (at_ (.built (world.store.control.command = .rebuild) build)).advance projector
      Projector.readStatus = at_ (.surveyed (world.store.control.command = .rebuild) build
        world.store.searchIndexState) := advance_withProjector rfl
  obtain ⟨operations, found⟩ : ∃ operations, reconcileSortedSearchDocuments build.documents
      (world.store.control.command = .rebuild) (world.store.searchDocuments.map .ok) =
        .ok (operations, build.documents.length,
          (build.documents.filter SearchDocument.contentTruncated).length) := by
    rw [reconcile_eq ordered, readAll_ok]
    exact ⟨_, rfl⟩
  obtain ⟨completed, three⟩ : ∃ completed, (at_ (.surveyed
      (world.store.control.command = .rebuild) build world.store.searchIndexState)).advance
        projector (fun store => Projector.reconcile store text) =
          at_ (.reconciled operations completed) :=
    ⟨_, advance_withProjector (Option.bind_eq_some_iff.mpr ⟨_, by rw [found]; rfl, rfl⟩)⟩
  refine ⟨operations, completed, found, ?_⟩
  rw [leasedCalls, List.foldl_cons, List.foldl_append]
  change (World.publish (World.advance (World.advance (World.advance (List.foldl _
    (World.advance _ projector Projector.readControl) _) projector
      (fun store => Projector.build corpus store around)) projector Projector.readStatus) projector
        (fun store => Projector.reconcile store text)) projector publishMs text).store = _
  rw [zero, gathers, one, two, three]
  unfold World.publish
  rw [projectors_withProjector]
  rfl

/-- **An undisturbed cycle publishes.** After any run, a projector that finds the lease free or
run out and nothing paused, and whose build succeeds, has published the documents it built for
the checkpoint that stands, if nobody comes between its calls and its lease has not run out. -/
theorem publishes_undisturbed {source : Part → Content} {updatedAt : String}
    {calls : List (Call ι Part Content Surroundings)}
    (admissible : Run.Admissible (World.step corpus) World.Admits
      (World.initial source updatedAt) calls)
    (reached : calls.foldl (World.step corpus) (World.initial source updatedAt) = world)
    {projector : ι} {owner leaseId text : String} {ttlMillis : Nat} {nowMs publishMs : Int}
    {around : Surroundings} {build : ProjectionBuild} (named : Text.trim owner ≠ "")
    (free : world.store.control.lease.all (·.expiresAtUnixMs ≤ nowMs) = true)
    (running : world.store.control.command ≠ .pause)
    (built : corpus.buildCorpus (corpus.queries.map world.store.source) around = .ok build)
    (ordered : Ascending SearchDocument.id build.documents)
    (inTime : publishMs < SearchProjectionControl.expiresMs nowMs ttlMillis) :
    let final := (cycle corpus projector owner ttlMillis leaseId text nowMs publishMs around).foldl
      (World.step corpus) world
    final.store.source = world.store.source ∧ final.store.searchDocuments = build.documents ∧
      final.store.control.publishedCheckpoint = some final.store.control.checkpoint := by
  have kept := Kept.of_mem_states admissible world (reached ▸ Run.foldl_mem_states _ _)
  intro final
  let lease : SearchProjectorLease :=
    ⟨leaseId, owner, text, SearchProjectionControl.expiresMs nowMs ttlMillis⟩
  let taken : World ι Part Content :=
    { world with store := world.store.leasedTo lease, drawn := leaseId :: world.drawn }
  have mine : taken.store.control.holds lease = true :=
    (Option.any_eq_true _ _).mpr ⟨lease, rfl, decide_eq_true ⟨rfl, rfl⟩⟩
  obtain ⟨operations, completed, found, ends⟩ :=
    @foldl_leasedCalls ι Part Content Surroundings corpus taken _ _ projector lease text publishMs
      around build mine running built ordered
  have granted : Granted taken.store.control lease taken.store.control.checkpoint publishMs :=
    ⟨⟨lease, rfl, rfl, rfl, inTime⟩, rfl, running⟩
  have last : final.store =
      taken.store.published taken.store.control.checkpoint operations completed text := by
    change (List.foldl _ (world.acquire projector owner ttlMillis leaseId text nowMs) _).store = _
    rw [acquire_of_free named free]
    exact ends.trans ((publish_cases taken.store lease taken.store.control.checkpoint operations
      completed publishMs text).elim (fun refused => (refused.1 granted).elim) (·.2))
  rw [last]
  exact ⟨rfl, (foldl_write_of_reconcile kept.ascending found).1, rfl⟩

end Runs

namespace OneArticle

open scoped Reference

/-- One query, and a law article for the id it reads. -/
def articles : Corpus Unit String Unit where
  queries := [()]
  buildCorpus ids _ := .ok ⟨ids.map lawArticle, none, 0, false⟩

/-- The calls of a projector alone. -/
def calls : List (Call Unit Unit String Unit) :=
  cycle articles () "projector" 30000 "first" "2026-01-01T00:00:00Z" 0 1 ()

theorem published_sound_calls : Current articles (calls.foldl (World.step articles)
    (World.initial (fun _ => "a") "2026-01-01T00:00:00Z")).store :=
  (published_sound _ _ calls ⟨List.not_mem_nil, trivial, trivial, trivial,
    trivial, trivial, trivial, trivial⟩ _ (Run.foldl_mem_states _ _)).1

theorem publishes_calls :
    (calls.foldl (World.step articles)
      (World.initial (fun _ => "a") "2026-01-01T00:00:00Z")).store.searchDocuments =
        [lawArticle "a"] :=
  (@publishes_undisturbed Unit Unit String Unit articles _ _ _ _ _ [] trivial rfl () "projector"
    "first" _ 30000 0 1 () _ (by decide) rfl
    (show SearchProjectionCommand.reconcile ≠ .pause by decide) rfl (List.pairwise_singleton _ _)
    (by decide)).2.1

end OneArticle

end Chancela.SearchProjection
