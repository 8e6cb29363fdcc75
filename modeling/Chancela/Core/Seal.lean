import Chancela.Core.Book
import Chancela.Core.Payload
import Chancela.Ledger.Append

/-! # Opening books and sealing acts

The two operations that bind a book and its acts to the ledger. Sealing validates
the evidence, runs the rule pack, takes the next ata number, appends the digest of
the act to the ledger and freezes the act. A refused seal changes nothing, and a
completed one makes exactly three changes
(`Chancela.sealActWithEvidence_effect`).
-/

namespace Chancela

inductive Severity where
  | warning
  | error
deriving DecidableEq

/-- A compliance finding. -/
structure ComplianceIssue where
  ruleId : String
  severity : Severity
  message : String
deriving DecidableEq

/-- The compliance rules in force for an entity. -/
structure RulePack where
  id : String
  checkAct : Act → Entity → List ComplianceIssue

inductive SealError where
  | book (fault : BookError)
  | act (fault : ActError)
  | complianceBlocked (issues : String)
  | warningsNotAcknowledged (issues : String)
  | missingManualSignatureOriginalReference
  | invalidSignatureEvidence (reason : String)
  | serialize
deriving DecidableEq

/-- The evidence a seal binds: digests of the signed PDF, or where the signed
original is kept. -/
inductive SealEvidence where
  | digital (signingSnapshotDigest signedPdfDigest signatureValidationReportDigest : String)
  | manual (originalReference : ManualSignatureOriginalReference)
deriving DecidableEq

namespace SealEvidence

def isLowercaseDigest (value : String) : Bool :=
  let bytes := Text.utf8 value
  bytes.length == 64 && bytes.all fun byte =>
    (0x30 ≤ byte && byte ≤ 0x39) || (0x61 ≤ byte && byte ≤ 0x66)

def checkDigest (field value : String) : Except SealError Unit :=
  if isLowercaseDigest value then .ok ()
  else .error (.invalidSignatureEvidence (field ++ " must be a lowercase SHA-256 hex digest"))

def validate : SealEvidence → Except SealError Unit
  | .digital signingSnapshotDigest signedPdfDigest signatureValidationReportDigest => do
      checkDigest "signing_snapshot_digest" signingSnapshotDigest
      checkDigest "signed_pdf_digest" signedPdfDigest
      checkDigest "signature_validation_report_digest" signatureValidationReportDigest
  | .manual originalReference =>
      if Text.isBlank originalReference.storageReference then
        .error (.invalidSignatureEvidence "manual signature storage reference must not be empty")
      else .ok ()

def sealMetadata (evidence : SealEvidence) (rulePackId : String) (entity : Entity) :
    SealMetadata :=
  let metadata := SealMetadata.new rulePackId entity.family entity.kind
  match evidence with
  | .digital signingSnapshotDigest signedPdfDigest signatureValidationReportDigest =>
      metadata.withDigitalSignatureEvidence signingSnapshotDigest signedPdfDigest
        signatureValidationReportDigest
  | .manual originalReference =>
      metadata.withManualSignatureOriginalReference (some originalReference)

end SealEvidence

/-- What a successful seal reports. -/
structure SealOutcome where
  ataNumber : Nat
  eventSeq : Nat
  payloadDigest : Digest
  sealMetadata : SealMetadata
  acknowledgedWarnings : List ComplianceIssue
deriving DecidableEq

def renderIssues (issues : List ComplianceIssue) : String :=
  String.intercalate "; " (issues.map fun issue => "[" ++ issue.ruleId ++ "] " ++ issue.message)

def sealEventKind : String := "act.sealed"

def bookScope (entity : Entity) (book : Book) : String :=
  "entity:" ++ entity.id.display ++ "/book:" ++ book.id.display

/-- The event a seal appends, with the identity and the instant the ledger draws. -/
def sealCall (book : Book) (entity : Entity) (rulePack : RulePack) (actor : String)
    (ataNumber : Nat) (payload : List UInt8) (id : Uuid) (now : OffsetDateTime) : AppendCall where
  actor := actor
  scope := bookScope entity book
  kind := sealEventKind
  justification := some ("seal ata n.º " ++ toString ataNumber ++ " (" ++ rulePack.id ++ ")")
  payload := payload
  id := id
  timestamp := now

/-- The genesis event of a book. A tenant other than the default one prefixes its
own segment to the scope. -/
def openCall (book : Book) (entity : Entity) (actor : String) (payload : List UInt8) (id : Uuid)
    (now : OffsetDateTime) : AppendCall where
  actor := actor
  scope :=
    if entity.tenantId = defaultTenantId then bookScope entity book
    else "tenant:" ++ entity.tenantId.display ++ "/" ++ bookScope entity book
  kind := "book.opened"
  justification := none
  payload := payload
  id := id
  timestamp := now

section Operations

variable [Crates]

/-- `open_and_seal_book`: the outcome, and the book and the ledger after the call. A
termo that does not serialize leaves the book open without a genesis event. -/
def openAndSealBook (book : Book) (entity : Entity) (termo : TermoDeAbertura) (actor : String)
    (ledger : Ledger) (id : Uuid) (now : OffsetDateTime) :
    Except SealError Nat × Book × Ledger :=
  match book.open_ termo with
  | (.error fault, book) => (.error (.book fault), book, ledger)
  | (.ok (), book) =>
      match (serialize termo).map jsonToVec with
      | none => (.error .serialize, book, ledger)
      | some payload =>
          let appended := ledger.append (openCall book entity actor payload id now)
          (.ok appended.1.seq, book, appended.2)

/-- `seal_act_with_evidence`: the outcome, and the book, the act and the ledger after
the call. -/
def sealActWithEvidence (book : Book) (act : Act) (entity : Entity) (rulePack : RulePack)
    (actor : String) (acknowledgeWarnings : Bool) (evidence : SealEvidence) (ledger : Ledger)
    (id : Uuid) (now : OffsetDateTime) : Except SealError SealOutcome × Book × Act × Ledger :=
  match evidence.validate with
  | .error fault => (.error fault, book, act, ledger)
  | .ok () =>
      if act.bookId ≠ book.id then
        (.error (.book (.wrongBook act.bookId.display book.id.display)), book, act, ledger)
      else if act.state ≠ .signing then
        (.error (.act (.invalidTransition act.state .sealed)), book, act, ledger)
      else
        let (warnings, errors) :=
          (rulePack.checkAct act entity).partition (·.severity == .warning)
        if errors ≠ [] then
          (.error (.complianceBlocked (renderIssues errors)), book, act, ledger)
        else if warnings ≠ [] ∧ acknowledgeWarnings = false then
          (.error (.warningsNotAcknowledged (renderIssues warnings)), book, act, ledger)
        else
          let counterBefore := book.lastAtaNumber
          match book.assignNextAtaNumber with
          | (.error fault, book) => (.error (.book fault), book, act, ledger)
          | (.ok ataNumber, book) =>
              let metadata := (evidence.sealMetadata rulePack.id entity).withAtaNumber ataNumber
              match sealedActPreimage act metadata with
              | none =>
                  (.error .serialize, { book with lastAtaNumber := counterBefore }, act, ledger)
              | some payload =>
                  let (event, ledger) :=
                    ledger.append (sealCall book entity rulePack actor ataNumber payload id now)
                  match act.markSealed ataNumber event.payloadDigest event.seq metadata with
                  | (.error fault, act) => (.error (.act fault), book, act, ledger)
                  | (.ok (), act) =>
                      (.ok ⟨ataNumber, event.seq, event.payloadDigest, metadata, warnings⟩,
                        book, act, ledger)

/-- `seal_act`, the manual-signature entry point. -/
def sealAct (book : Book) (act : Act) (entity : Entity) (rulePack : RulePack) (actor : String)
    (acknowledgeWarnings : Bool)
    (manualSignatureOriginalReference : Option ManualSignatureOriginalReference)
    (ledger : Ledger) (id : Uuid) (now : OffsetDateTime) :
    Except SealError SealOutcome × Book × Act × Ledger :=
  match manualSignatureOriginalReference with
  | none => (.error .missingManualSignatureOriginalReference, book, act, ledger)
  | some originalReference =>
      sealActWithEvidence book act entity rulePack actor acknowledgeWarnings
        (.manual originalReference) ledger id now

def sealedAs (act : Act) (ledger : Ledger) (payload : List UInt8) (metadata : SealMetadata)
    (ataNumber : Nat) : Act :=
  { act with
    ataNumber := some ataNumber
    payloadDigest := some (digest payload)
    sealEventSeq := some ledger.events.length
    sealMetadata := some metadata
    state := .sealed }

/-- What a seal can do to the book, the act and the ledger. -/
inductive SealEffect (book : Book) (act : Act) (ledger : Ledger) :
    Except SealError SealOutcome × Book × Act × Ledger → Prop where
  | refused (fault : SealError) : SealEffect book act ledger (.error fault, book, act, ledger)
  | completed (inBook : act.bookId = book.id) (signing : act.state = .signing)
      (metadata : SealMetadata) (numbered : metadata.ataNumber = some (book.lastAtaNumber + 1))
      (call : AppendCall) (kind : call.kind = sealEventKind)
      (preimage : sealedActPreimage act metadata = some call.payload)
      (warnings : List ComplianceIssue) :
      SealEffect book act ledger
        (.ok ⟨book.lastAtaNumber + 1, ledger.events.length, digest call.payload, metadata,
            warnings⟩,
          { book with lastAtaNumber := book.lastAtaNumber + 1 },
          sealedAs act ledger call.payload metadata (book.lastAtaNumber + 1),
          ledger.appendAt call)

/-- **What a seal does.** It refuses and changes nothing, or it takes the next ata
number, appends the digest of the preimage and freezes the act. -/
theorem sealActWithEvidence_effect (book : Book) (act : Act) (entity : Entity)
    (rulePack : RulePack) (actor : String) (acknowledgeWarnings : Bool) (evidence : SealEvidence)
    (ledger : Ledger) (id : Uuid) (now : OffsetDateTime) :
    SealEffect book act ledger (sealActWithEvidence book act entity rulePack actor
      acknowledgeWarnings evidence ledger id now) := by
  unfold sealActWithEvidence
  split
  · exact .refused _
  split
  · exact .refused _
  rename_i inBook
  split
  · exact .refused _
  rename_i signing
  dsimp only
  split
  · exact .refused _
  split
  · exact .refused _
  rw [Book.assignNextAtaNumber]
  split
  · rename_i fault after same
    split at same
    · cases same
      exact .refused _
    · cases same
  rename_i ataNumber after same
  split at same
  · cases same
  cases same
  split
  · exact .refused _
  rename_i payload preimage
  have signs : act.state = .signing := not_not.mp signing
  simp only [Act.markSealed, signs, ne_eq, not_true_eq_false, if_false]
  exact .completed (not_not.mp inBook) signs _ rfl
    (sealCall _ entity rulePack actor (book.lastAtaNumber + 1) payload id now) rfl preimage _

theorem sealAct_effect (book : Book) (act : Act) (entity : Entity) (rulePack : RulePack)
    (actor : String) (acknowledgeWarnings : Bool)
    (reference : Option ManualSignatureOriginalReference) (ledger : Ledger) (id : Uuid)
    (now : OffsetDateTime) :
    SealEffect book act ledger (sealAct book act entity rulePack actor acknowledgeWarnings
      reference ledger id now) := by
  cases reference with
  | none => exact .refused _
  | some originalReference => apply sealActWithEvidence_effect

theorem sealActWithEvidence_of_ready {book : Book} {act : Act} {entity : Entity}
    {rulePack : RulePack} {evidence : SealEvidence} {payload : List UInt8}
    (valid : evidence.validate = .ok ()) (inBook : act.bookId = book.id)
    (signing : act.state = .signing) (compliant : rulePack.checkAct act entity = [])
    (isOpen : book.state = .open_)
    (preimage : sealedActPreimage act ((evidence.sealMetadata rulePack.id entity).withAtaNumber
      (book.lastAtaNumber + 1)) = some payload)
    (actor : String) (acknowledgeWarnings : Bool) (ledger : Ledger) (id : Uuid)
    (now : OffsetDateTime) :
    ∃ call, call.kind = sealEventKind ∧ call.payload = payload ∧
      sealActWithEvidence book act entity rulePack actor acknowledgeWarnings evidence ledger id
          now =
        (.ok ⟨book.lastAtaNumber + 1, ledger.events.length, digest payload,
            (evidence.sealMetadata rulePack.id entity).withAtaNumber (book.lastAtaNumber + 1), []⟩,
          { book with lastAtaNumber := book.lastAtaNumber + 1 },
          sealedAs act ledger payload
            ((evidence.sealMetadata rulePack.id entity).withAtaNumber (book.lastAtaNumber + 1))
            (book.lastAtaNumber + 1),
          ledger.appendAt call) := by
  refine ⟨sealCall { book with lastAtaNumber := book.lastAtaNumber + 1 } entity rulePack actor
    (book.lastAtaNumber + 1) payload id now, rfl, rfl, ?_⟩
  simp only [sealActWithEvidence, valid, inBook, signing, compliant, Book.assignNextAtaNumber,
    isOpen, preimage, Act.markSealed, sealedAs, ne_eq, not_true_eq_false, if_false,
    List.partition_eq_filter_filter, List.filter_nil, false_and]
  rfl

theorem openAndSealBook_effect (book : Book) (entity : Entity) (termo : TermoDeAbertura)
    (actor : String) (ledger : Ledger) (id : Uuid) (now : OffsetDateTime) :
    (openAndSealBook book entity termo actor ledger id now).2.1.id = book.id ∧
      (openAndSealBook book entity termo actor ledger id now).2.1.lastAtaNumber =
        book.lastAtaNumber ∧
      ((openAndSealBook book entity termo actor ledger id now).2.2 = ledger ∨
        ∃ call, (openAndSealBook book entity termo actor ledger id now).2.2 =
          ledger.appendAt call) := by
  obtain ⟨sameId, sameCounter⟩ := book.open_spec termo
  unfold openAndSealBook
  split
  · rename_i fault after opened
    rw [opened] at sameId sameCounter
    exact ⟨sameId, sameCounter, .inl rfl⟩
  · rename_i after opened
    rw [opened] at sameId sameCounter
    split
    · exact ⟨sameId, sameCounter, .inl rfl⟩
    · exact ⟨sameId, sameCounter, .inr ⟨_, rfl⟩⟩

end Operations

end Chancela
