import Chancela.Api.Endpoints
import Chancela.Api.VerifyMemo
import Chancela.Core.Pages
import Chancela.Core.Seal

/-! # Act endpoints

The requests that move an act through its lifecycle, and those that close its book. A request
is decided on clones of the rows: it appends its events to the ledger, writes the changed rows
to the store, and puts them into the live maps only after that write has committed.
-/

namespace Chancela

open Outcome

/-- The active legal hold of a book. -/
structure LegalHold where
  reason : String
deriving DecidableEq

/-- A book with what its endpoints read besides its own methods. -/
structure FiledBook extends Book where
  entityId : EntityId
  legalHold : Option LegalHold
deriving DecidableEq

/-- A preserved document. -/
structure StoredDocument where
  id : String
  templateId : String
  pdfDigest : String
  pdfBytes : List UInt8
deriving DecidableEq

/-- A document made for an act, the payload of its event, and the pages it fills. -/
structure Generated where
  stored : StoredDocument
  eventPayload : Json
  pageCount : UInt32

/-- The evidence of a seal, with the report behind a digital one. -/
structure ResolvedSealEvidence where
  core : SealEvidence
  validationReport : Option (List UInt8)

/-- A refusal of a called service, passed on as it is. -/
inductive ServiceError where
  | api (fault : ApiError)
  | internal (message : String)
  | unavailable (message : String)
deriving DecidableEq

/-- What an act request is refused with. The faults of the core are kept as they are; the
response shows their text. -/
inductive ActApiError where
  | service (fault : ServiceError)
  | unprocessableAct (fault : ActError)
  | conflictingAct (fault : ActError)
  | book (fault : BookError)
  | bookPageCapacityExceeded (capacity used reserved required : UInt32)
  | sealing (fault : SealError)
  | complianceBlocked (message : String) (issues : List ComplianceIssue)
  | warningsNotAcknowledged (message : String) (warnings : List ComplianceIssue)
  | appendRejected (kind : String) (rejection : AppendError)
deriving DecidableEq

namespace ActApiError

def notFound : ActApiError := .service (.api .notFound)

def conflict (message : String) : ActApiError := .service (.api (.conflict message))

def unprocessable (message : String) : ActApiError := .service (.api (.unprocessable message))

def capacityReservationError : BookError → ActApiError
  | .capacityExceeded capacity used reserved required =>
      .bookPageCapacityExceeded capacity used reserved required
  | other => .book other

end ActApiError

def serviced {α : Type} (answer : Except ServiceError α) : Except ActApiError α :=
  answer.mapError .service

/-- `ok_or(ApiError::NotFound)`. -/
def rowOrNotFound {α : Type} : Option α → Except ActApiError α
  | none => .error .notFound
  | some row => .ok row

/-- A call of a core method on a clone: its value and the clone afterwards, or the fault as
the request reports it. -/
def onClone {ε α β : Type} (report : ε → ActApiError) (result : Except ε α × β) :
    Except ActApiError (α × β) :=
  match result.1 with
  | .error fault => .error (report fault)
  | .ok value => .ok (value, result.2)

def ActState.debug : ActState → String
  | .draft => "Draft"
  | .review => "Review"
  | .convened => "Convened"
  | .deliberated => "Deliberated"
  | .textApproved => "TextApproved"
  | .signing => "Signing"
  | .sealed => "Sealed"
  | .archived => "Archived"

def BookState.debug : BookState → String
  | .created => "Created"
  | .open_ => "Open"
  | .closed => "Closed"

/-- The books and the acts, as the process holds them or as the store does. -/
structure Rows where
  books : Table fun book : FiledBook => book.id
  acts : Table Act.id

/-- The rows a request writes. -/
structure Change where
  act : Option Act
  book : Option FiledBook

namespace Rows

/-- `upsert_book` and `upsert_act`, each where the request changed such a row. -/
def upsert (rows : Rows) (change : Change) : Rows where
  books := match change.book with
    | some book => rows.books.insert book
    | none => rows.books
  acts := match change.act with
    | some act => rows.acts.insert act
    | none => rows.acts

end Rows

/-- The live rows, the stored ones, and the live ledger. -/
structure ActsState where
  live : Rows
  stored : Rows
  ledger : Ledger

/-- What a request finds outside the rows and the ledger: who asks and when, the documents,
the entities and the templates of that moment, and how its durable write ends. -/
structure Surroundings where
  actor : String
  now : OffsetDateTime
  newId : Nat → Uuid
  requirePermission : Permission → Except ServiceError Unit
  loadDocument : ActId → Except ServiceError (Option StoredDocument)
  loadSigned : ActId → Except ServiceError (Option StoredDocument)
  latestSignedDocumentForSeal : ActId → Except ServiceError (Option StoredDocument)
  entities : EntityId → Option Entity
  rulePackFor : Entity → RulePack
  freezeActBody : Act → Entity → Except ServiceError (Option ActBody)
  generateForAct : Act → FiledBook → Entity → Except ServiceError (Option Generated)
  generateForEncerramento : FiledBook → Entity → Except ServiceError (Option Generated)
  generateAbsentOwnerCommunication :
    Act → FiledBook → Entity → Except ServiceError (Option Generated)
  validateCanonicalSigningSnapshot : StoredDocument → Except ServiceError Unit
  validateDigitalSealEvidence :
    ActId → StoredDocument → StoredDocument → Except ServiceError ResolvedSealEvidence
  eventPayload : String → Except ServiceError (List UInt8)
  persist : Except ServiceError Unit

def ensureBookOpenForActMutation (book : FiledBook) : Except ActApiError Unit :=
  rejectIf (book.state ≠ .open_) (.conflict ("book " ++ book.id.display ++ " is " ++
    book.state.debug ++ "; acts in a non-open book are read-only"))

def actScope (entityId : EntityId) (act : Act) : String :=
  "entity:" ++ entityId.display ++ "/book:" ++ act.bookId.display ++ "/act:" ++ act.id.display

/-- The act a request names and the open book it stands in. -/
def Rows.actInOpenBook (rows : Rows) (id : ActId) : Except ActApiError (Act × FiledBook) := do
  let act ← rowOrNotFound (rows.acts.get id)
  let book ← rowOrNotFound (rows.books.get act.bookId)
  ensureBookOpenForActMutation book
  return (act, book)

section Requests

variable [Crates]

/-- An event a request appends; the ordinal tells the identities it draws apart. -/
def Surroundings.eventCall (around : Surroundings) (ordinal : Nat) (scope kind : String)
    (justification : Option String) (payload : List UInt8) : AppendCall :=
  ⟨around.actor, scope, kind, justification, payload, around.newId ordinal, around.now⟩

/-- Append events one after the other. A rejection rolls back those before it, `appended`
among them; otherwise the count of all is returned. -/
def tryAppendEvents (ledger : Ledger) (appended : Nat) :
    List AppendCall → Except ActApiError Nat × Ledger
  | [] => (.ok appended, ledger)
  | call :: rest =>
      match ledger.tryAppend call with
      | (.error rejection, ledger) =>
          (.error (.appendRejected call.kind rejection), rollbackLedgerEvents ledger appended)
      | (.ok _, ledger) => tryAppendEvents ledger (appended + 1) rest

namespace ActsState

variable (state : ActsState)

/-- `AppState::persist_write_through` and the publication of what it wrote: a failed write
rolls the events back and leaves the rows. -/
def persistWriteThrough (ledger : Ledger) (eventCount : Nat) (change : Change)
    (around : Surroundings) : Except ActApiError Unit × ActsState :=
  match around.persist with
  | .error fault =>
      (.error (.service fault), { state with ledger := rollbackLedgerEvents ledger eventCount })
  | .ok () => (.ok (), ⟨state.live.upsert change, state.stored.upsert change, ledger⟩)

/-- The end of a request: append its events, then write its rows. -/
def appendAndPersist (ledger : Ledger) (appended : Nat) (calls : List AppendCall) (change : Change)
    (around : Surroundings) : Except ActApiError Unit × ActsState :=
  match tryAppendEvents ledger appended calls with
  | (.error fault, ledger) => (.error fault, { state with ledger := ledger })
  | (.ok count, ledger) => state.persistWriteThrough ledger count change around

end ActsState

/-! ## Advance -/

/-- The blocking findings of the rule pack of an entity: `blocking_compliance_issues`. -/
def blockingComplianceIssues (around : Surroundings) (act : Act) (entity : Entity) :
    List ComplianceIssue :=
  ((around.rulePackFor entity).checkAct act entity).filter (·.severity == .error)

/-- What entering `Signing` adds to the step: the compliance gate, the frozen body, the
signing snapshot, and the reservation of its pages. -/
def enterSigning (around : Surroundings) (next : Act) (book : FiledBook) (entity : Entity) :
    Except ActApiError (Act × FiledBook × Generated) := do
  let blocking := blockingComplianceIssues around next entity
  rejectIf (blocking ≠ []) (.complianceBlocked
    ("advance to Signing blocked by compliance errors: " ++ renderIssues blocking) blocking)
  let frozen ← serviced (around.freezeActBody next entity)
  let next := match frozen with
    | some body => { next with body := some body }
    | none => next
  let made ← serviced (around.generateForAct next book entity)
  match made with
  | none => .error (.conflict
      "no canonical Ata template is available for this act; signing cannot start")
  | some snapshot => do
      let ((), next) ← onClone .unprocessableAct (next.freezePageCount snapshot.pageCount)
      let ((), reserved) ← onClone ActApiError.capacityReservationError
        (book.toBook.reservePages snapshot.pageCount)
      return (next, { book with toBook := reserved }, snapshot)

/-- The document that would stand in the way of a signing snapshot. -/
def documentBeforeSigning (around : Surroundings) (id : ActId) (target : ActState) :
    Except ActApiError (Option StoredDocument) :=
  if target = .signing then serviced (around.loadDocument id) else .ok none

/-- The row changes of `advance_act`, with the signing snapshot where there is one. -/
def advanceChange (rows : Rows) (id : ActId) (target : ActState) (around : Surroundings) :
    Except ActApiError (Act × FiledBook × Option Generated) := do
  serviced (around.requirePermission .actAdvance)
  let existing ← documentBeforeSigning around id target
  rejectIf existing.isSome (.conflict ("a canonical act document already exists; explicit " ++
    "invalidation is required before creating a new signing snapshot"))
  let (act, book) ← rows.actInOpenBook id
  let entity ← rowOrNotFound (around.entities book.entityId)
  rejectIf (act.state = .textApproved ∧ target = .signing ∧ act.requiresAiHumanVerification)
    (.conflict ("AI-assisted act requires accepted human review before Signing; accepted " ++
      "means human reviewed only"))
  let ((), next) ← onClone .unprocessableAct (act.advanceTo target)
  if target = .signing then do
    let (next, reserved, snapshot) ← enterSigning around next book entity
    return (next, reserved, some snapshot)
  else
    return (next, book, none)

namespace ActsState

variable (state : ActsState)

/-- `advance_act`. The book is written only with a reservation. -/
def advanceAct (id : ActId) (target : ActState) (around : Surroundings) :
    Except ActApiError Unit × ActsState :=
  match advanceChange state.live id target around with
  | .error fault => (.error fault, state)
  | .ok (next, book, snapshot) =>
      match around.eventPayload "act.advanced" with
      | .error fault => (.error (.service fault), state)
      | .ok payload =>
          let scope := actScope book.entityId next
          let advanced := around.eventCall 0 scope "act.advanced"
            (some ("advance to " ++ target.debug)) payload
          match snapshot with
          | none => state.appendAndPersist state.ledger 0 [advanced] ⟨some next, none⟩ around
          | some made =>
              let generated := around.eventCall 1 scope "document.generated"
                (some "canonical signing snapshot") (jsonToVec made.eventPayload)
              state.appendAndPersist state.ledger 0 [advanced, generated] ⟨some next, some book⟩
                around

end ActsState

/-! ## Reopen -/

/-- The return of the pages an act was reopened with to its book. -/
def releaseFrozenPages (book : Book) : Option UInt32 → Except BookError Unit × Book
  | some pages => book.releaseReservedPages pages
  | none => (.ok (), book)

/-- The row changes of `reopen_act`, with the pages it released. -/
def reopenChange (rows : Rows) (id : ActId) (reason : String) (around : Surroundings) :
    Except ActApiError (Act × FiledBook × Option UInt32) := do
  serviced (around.requirePermission .signingPerform)
  serviced (around.requirePermission .actEdit)
  let reason := Text.trim reason
  rejectIf (reason = "") (.unprocessable ("reopen requires a non-empty reason; the regression " ++
    "must be reconstructable from the ledger"))
  let signed ← serviced (around.loadSigned id)
  rejectIf signed.isSome (.conflictingAct .signaturesCollected)
  let canonical ← serviced (around.loadDocument id)
  let (act, book) ← rows.actInOpenBook id
  match book.legalHold with
  | some hold => .error (.conflict ("book " ++ book.id.display ++ " is under legal hold (" ++
      debugStr hold.reason ++ "); reopening an act is refused while the hold stands"))
  | none => do
      let (released, next) ← onClone .conflictingAct act.reopenForCorrection
      let ((), bookNext) ← onClone .book (releaseFrozenPages book.toBook released)
      let next := match canonical with
        | some document => next.recordSupersededSigningSnapshot
            ⟨document.id, document.pdfDigest, around.actor, around.now, reason⟩
        | none => next
      return (next, { book with toBook := bookNext }, released)

namespace ActsState

variable (state : ActsState)

/-- `reopen_act`. The book is written only with a release. -/
def reopenAct (id : ActId) (reason : String) (around : Surroundings) :
    Except ActApiError Unit × ActsState :=
  match reopenChange state.live id reason around with
  | .error fault => (.error fault, state)
  | .ok (next, book, released) =>
      match around.eventPayload "act.reopened" with
      | .error fault => (.error (.service fault), state)
      | .ok payload =>
          let reopened := around.eventCall 0 (actScope book.entityId next) "act.reopened"
            (some ("reopen for correction: " ++ Text.trim reason)) payload
          state.appendAndPersist state.ledger 0 [reopened]
            ⟨some next, released.map fun _ => book⟩ around

end ActsState

/-! ## Seal -/

/-- The body of a seal request. -/
structure SealRequest where
  acknowledgeWarnings : Bool
  manualSignatureOriginalReference : Option (Except ServiceError ManualSignatureOriginalReference)
  templateId : Option String

/-- The checks on the canonical snapshot of an act, before any lock is taken. -/
def canonicalForSeal (id : ActId) (request : SealRequest) (around : Surroundings) :
    Except ActApiError StoredDocument := do
  let found ← serviced (around.loadDocument id)
  match found with
  | none => .error (.conflict
      "canonical signing snapshot is missing; advance the act to Signing first")
  | some canonical => do
      rejectIf (∃ asserted ∈ request.templateId, asserted ≠ canonical.templateId)
        (.conflict ("seal template_id " ++ debugStr (request.templateId.getD "") ++
          " does not match frozen signing snapshot template " ++ debugStr canonical.templateId))
      serviced (around.validateCanonicalSigningSnapshot canonical)
      return canonical

/-- `into_core` on the manual reference of a request, where it has one. -/
def manualReference (request : SealRequest) :
    Except ActApiError (Option ManualSignatureOriginalReference) :=
  match request.manualSignatureOriginalReference with
  | none => .ok none
  | some reference => (serviced reference).map some

/-- The evidence of a seal: the signed document, or the manual original, and not both. -/
def resolveSealEvidence (id : ActId) (canonical : StoredDocument)
    (manual : Option ManualSignatureOriginalReference) (around : Surroundings) :
    Except ActApiError ResolvedSealEvidence := do
  let signed ← serviced (around.latestSignedDocumentForSeal id)
  match signed, manual with
  | some _, some _ => .error (.conflict ("seal evidence is ambiguous; choose the validated " ++
      "signed-PDF path or the explicit manual-original path"))
  | some signed, none => serviced (around.validateDigitalSealEvidence id canonical signed)
  | none, some originalReference => .ok ⟨.manual originalReference, none⟩
  | none, none =>
    .error (.conflict ("seal requires either a complete validated signed PDF bound " ++
      "to the canonical signing snapshot, or manual_signature_original_reference for a retained " ++
      "manually signed original"))

/-- What a seal request checks before it seals: the act, its book, the entity and the
evidence. -/
def sealInputs (rows : Rows) (id : ActId) (request : SealRequest) (around : Surroundings) :
    Except ActApiError (Act × FiledBook × Entity × ResolvedSealEvidence) := do
  serviced (around.requirePermission .signingPerform)
  let manual ← manualReference request
  let canonical ← canonicalForSeal id request around
  let (act, book) ← rows.actInOpenBook id
  let entity ← rowOrNotFound (around.entities book.entityId)
  rejectIf (act.state ≠ .signing)
    (.conflict ("seal requires act state Signing, found " ++ act.state.debug))
  let evidence ← resolveSealEvidence id canonical manual around
  return (act, book, entity, evidence)

/-- How a seal fault is reported; the compliance faults with the issues behind them. -/
def reportedSealError (around : Surroundings) (act : Act) (entity : Entity) :
    SealError → ActApiError
  | .complianceBlocked message =>
      .complianceBlocked message (blockingComplianceIssues around act entity)
  | .warningsNotAcknowledged message => .warningsNotAcknowledged message
      (((around.rulePackFor entity).checkAct act entity).filter (·.severity == .warning))
  | other => .sealing other

/-- The conversion of the reservation of an act into used pages. -/
def consumeFrozenPages (book : Book) (act : Act) : Except BookError Unit × Book :=
  match act.pageCount with
  | some pages => book.consumeReservedPages pages
  | none => (.ok (), book)

namespace ActsState

variable (state : ActsState)

/-- The end of a seal request, once the act is sealed on the clones: the validation report and
the communication to absent owners join the ledger before the rows are written. -/
def recordSeal (book : FiledBook) (act : Act) (entity : Entity) (evidence : ResolvedSealEvidence)
    (ledger : Ledger) (around : Surroundings) : Except ActApiError Unit × ActsState :=
  let scope := actScope entity.id act
  let report := evidence.validationReport.toList.map fun payload =>
    around.eventCall 1 scope "document.signature.validated_for_seal"
      (some "technical evidence only") payload
  match tryAppendEvents ledger 1 report with
  | (.error fault, ledger) => (.error fault, { state with ledger := ledger })
  | (.ok baseEvents, ledger) =>
      match around.generateAbsentOwnerCommunication act book entity with
      | .error fault => (.error (.service fault),
          { state with ledger := rollbackLedgerEvents ledger baseEvents })
      | .ok made =>
          let generated := made.toList.map fun document =>
            around.eventCall 2 scope "document.generated" none (jsonToVec document.eventPayload)
          state.appendAndPersist ledger baseEvents generated ⟨some act, some book⟩ around

def sealActHandler (id : ActId) (request : SealRequest) (around : Surroundings) :
    Except ActApiError Unit × ActsState :=
  match sealInputs state.live id request around with
  | .error fault => (.error fault, state)
  | .ok (act, book, entity, evidence) =>
      match sealActWithEvidence book.toBook act entity (around.rulePackFor entity) around.actor
          request.acknowledgeWarnings evidence.core state.ledger (around.newId 0) around.now with
      | (.error fault, _, _, ledger) =>
          (.error (reportedSealError around act entity fault), { state with ledger := ledger })
      | (.ok _, bookNext, actNext, ledger) =>
          match consumeFrozenPages bookNext actNext with
          | (.error fault, _) =>
              (.error (.book fault), { state with ledger := rollbackLedgerEvents ledger 1 })
          | (.ok (), bookNext) =>
              state.recordSeal { book with toBook := bookNext } actNext entity evidence ledger
                around

end ActsState

/-! ## Archive -/

def SealMetadata.hasCompleteDigitalSignatureEvidence (metadata : SealMetadata) : Bool :=
  metadata.signingSnapshotDigest.isSome && metadata.signedPdfDigest.isSome &&
    metadata.signatureValidationReportDigest.isSome

def SealMetadata.records (metadata : SealMetadata) : SealEvidence → Bool
  | .digital signingSnapshotDigest signedPdfDigest signatureValidationReportDigest =>
      metadata.signingSnapshotDigest == some signingSnapshotDigest &&
        metadata.signedPdfDigest == some signedPdfDigest &&
        metadata.signatureValidationReportDigest == some signatureValidationReportDigest
  | .manual _ => false

/-- The seal evidence an archive request wants to see again. -/
def checkArchiveEvidence (id : ActId) (metadata : SealMetadata)
    (canonical signed : Option StoredDocument) (around : Surroundings) :
    Except ActApiError Unit := do
  if metadata.manualSignatureOriginalReference.isSome then .ok ()
  else do
    rejectIf (!metadata.hasCompleteDigitalSignatureEvidence) (.conflict ("sealed act has " ++
      "incomplete digital signature evidence metadata; archive is refused"))
    match canonical, signed with
    | none, _ => .error (.conflict ("sealed act's canonical signing snapshot is missing; " ++
        "archive is refused"))
    | some _, none => .error (.conflict ("sealed act's signed PDF evidence is missing; " ++
        "archive is refused"))
    | some canonical, some signed => do
        let resolved ← serviced (around.validateDigitalSealEvidence id canonical signed)
        rejectIf (!metadata.records resolved.core) (.conflict ("sealed act evidence no longer " ++
          "matches its immutable seal digest tuple; archive is refused"))

/-- The row change of `archive_act`. -/
def archiveChange (rows : Rows) (id : ActId) (around : Surroundings) :
    Except ActApiError (Act × FiledBook) := do
  serviced (around.requirePermission .actArchive)
  let canonical ← serviced (around.loadDocument id)
  let signed ← serviced (around.loadSigned id)
  let (act, book) ← rows.actInOpenBook id
  match act.sealMetadata with
  | none => .error (.conflict ("legacy incomplete sealed act has no immutable seal evidence " ++
      "metadata; archive is refused pending explicit evidence remediation"))
  | some metadata => do
      checkArchiveEvidence id metadata canonical signed around
      let ((), next) ← onClone .conflictingAct act.archive
      return (next, book)

namespace ActsState

variable (state : ActsState)

def archiveAct (id : ActId) (around : Surroundings) : Except ActApiError Unit × ActsState :=
  match archiveChange state.live id around with
  | .error fault => (.error fault, state)
  | .ok (next, book) =>
      match around.eventPayload "act.archived" with
      | .error fault => (.error (.service fault), state)
      | .ok payload =>
          let archived := around.eventCall 0 (actScope book.entityId next) "act.archived" none
            payload
          state.appendAndPersist state.ledger 0 [archived] ⟨some next, none⟩ around

end ActsState

/-! ## Closing the book -/

def FiledBook.scope (book : FiledBook) : String :=
  "entity:" ++ book.entityId.display ++ "/book:" ++ book.id.display

def FiledBook.closed (book : FiledBook) (termo : TermoDeEncerramento) :
    Except ActApiError FiledBook := do
  let ((), closed) ← onClone .book (book.toBook.close termo)
  return { book with toBook := closed }

/-- The row change of `close_book`; the termo comes from the admitted request. -/
def closeChange (rows : Rows) (id : BookId) (termo : Except ServiceError TermoDeEncerramento)
    (around : Surroundings) : Except ActApiError FiledBook := do
  serviced (around.requirePermission .bookClose)
  let termo ← serviced termo
  let book ← rowOrNotFound (rows.books.get id)
  book.closed termo

/-- The row change of `close_from_termo`. The termo passed its signature gate, and is projected
from the book found. -/
def closeFromTermoChange (rows : Rows) (id : BookId) (signed : Except ServiceError Unit)
    (project : FiledBook → Entity → Except ServiceError TermoDeEncerramento)
    (around : Surroundings) : Except ActApiError FiledBook := do
  serviced (around.requirePermission .bookClose)
  serviced signed
  let book ← rowOrNotFound (rows.books.get id)
  rejectIf (book.state ≠ .open_) (.conflict "book is not Open; it cannot be closed")
  let entity ← rowOrNotFound (around.entities book.entityId)
  let termo ← serviced (project book entity)
  book.closed termo

namespace ActsState

variable (state : ActsState)

/-- The end of a closing: `book.closed`, then the event of the closing document where there is
one, then the row. -/
def recordClose (next : FiledBook) (document : Except ServiceError (Option (List UInt8)))
    (around : Surroundings) : Except ActApiError Unit × ActsState :=
  match around.eventPayload "book.closed" with
  | .error fault => (.error (.service fault), state)
  | .ok payload =>
      match tryAppendEvents state.ledger 0
          [around.eventCall 0 next.scope "book.closed" none payload] with
      | (.error fault, ledger) => (.error fault, { state with ledger := ledger })
      | (.ok appended, ledger) =>
          match document with
          | .error fault => (.error (.service fault),
              { state with ledger := rollbackLedgerEvents ledger appended })
          | .ok made =>
              let generated := made.toList.map
                (around.eventCall 1 next.scope "document.generated" none)
              state.appendAndPersist ledger appended generated ⟨none, some next⟩ around

/-- The closing document of a book. None is made where the entity is gone. -/
def closingDocument (next : FiledBook) (around : Surroundings) :
    Except ServiceError (Option (List UInt8)) :=
  match around.entities next.entityId with
  | some entity => (around.generateForEncerramento next entity).map
      (Option.map fun made => jsonToVec made.eventPayload)
  | none => .ok none

/-- `close_book`, in its one-shot form. -/
def closeBook (id : BookId) (termo : Except ServiceError TermoDeEncerramento)
    (around : Surroundings) : Except ActApiError Unit × ActsState :=
  match closeChange state.live id termo around with
  | .error fault => (.error fault, state)
  | .ok next => state.recordClose next (closingDocument next around) around

/-- `close_from_termo`, with the manifest of the signatures the termo collected. -/
def closeFromTermo (id : BookId) (signed : Except ServiceError Unit)
    (project : FiledBook → Entity → Except ServiceError TermoDeEncerramento)
    (manifest : Except ServiceError (Option (List UInt8))) (around : Surroundings) :
    Except ActApiError Unit × ActsState :=
  match closeFromTermoChange state.live id signed project around with
  | .error fault => (.error fault, state)
  | .ok next => state.recordClose next manifest around

end ActsState

end Requests

end Chancela
