import Chancela.Core.Act
import Chancela.Crates.Reference
import Chancela.Ledger.Event

/-! # The seal preimage

The view of an act that its seal digests, together with the seal's own metadata.
The serialized preimage has one act content only: absent optional fields and empty
lists emit nothing and are told apart from present ones by the missing key
(`Chancela.ActPayload.of_eq_iff`).
-/

namespace Chancela

/-- `ActPayload`: the canonical view of an act's sealed content. -/
structure ActPayload where
  actId : String
  bookId : String
  title : String
  channel : MeetingChannel
  meetingDate : Option Date
  place : Option String
  attendanceReference : Option String
  deliberations : String
  telematicEvidence : Option String
  attachments : List Attachment
  signatories : List SignatorySlot
  retifies : Option String
  meetingTime : Option Time
  mesa : Mesa
  agenda : List AgendaItem
  referencedDocuments : List DocumentReference
  writtenResolutionEvidence : Option WrittenResolutionEvidence
  deliberationItems : List DeliberationItem
  membersPresent : Option UInt32
  membersRepresented : Option UInt32
  convening : Option Convening
  attendees : Option (List Attendee)
  pageCount : Option UInt32
  supersededSigningSnapshots : Option (List SupersededSigningSnapshot)
  conveningWaiver : Option ConveningWaiver
  body : Option ActBody
deriving DecidableEq

/-- `(!items.is_empty()).then_some(items)`. -/
def nonEmpty {α : Type*} (items : List α) : Option (List α) :=
  if items.isEmpty then none else some items

def ActPayload.of (act : Act) : ActPayload where
  actId := act.id.display
  bookId := act.bookId.display
  title := act.title
  channel := act.channel
  meetingDate := act.meetingDate
  place := act.place
  attendanceReference := act.attendanceReference
  deliberations := act.deliberations
  telematicEvidence := act.telematicEvidence
  attachments := act.attachments
  signatories := act.signatories
  retifies := act.retifies.map Uuid.display
  meetingTime := act.meetingTime
  mesa := act.mesa
  agenda := act.agenda
  referencedDocuments := act.referencedDocuments
  writtenResolutionEvidence := act.writtenResolutionEvidence
  deliberationItems := act.deliberationItems
  membersPresent := act.membersPresent
  membersRepresented := act.membersRepresented
  convening := act.convening
  attendees := nonEmpty act.attendees
  pageCount := act.pageCount
  supersededSigningSnapshots := nonEmpty act.supersededSigningSnapshots
  conveningWaiver := act.conveningWaiver
  body := act.body

structure SealedActPayload where
  act : ActPayload
  sealMetadata : SealMetadata
deriving DecidableEq

instance : Serialize ManualSignatureOriginalReference where
  serialize reference := Json.struct [
    Json.field "storage_reference" reference.storageReference,
    Json.skipNone "custodian" reference.custodian,
    Json.skipNone "note" reference.note]

instance : Serialize SealMetadata where
  serialize metadata := Json.struct [
    Json.field "rule_pack_id" metadata.rulePackId,
    Json.field "version" metadata.version,
    Json.field "family" metadata.family,
    Json.field "profile" metadata.profile,
    Json.skipNone "manual_signature_original_reference" metadata.manualSignatureOriginalReference,
    Json.skipNone "signing_snapshot_digest" metadata.signingSnapshotDigest,
    Json.skipNone "signed_pdf_digest" metadata.signedPdfDigest,
    Json.skipNone "signature_validation_report_digest" metadata.signatureValidationReportDigest,
    Json.skipNone "ata_number" metadata.ataNumber]

instance : FaithfulJson ManualSignatureOriginalReference :=
  .of_struct (fun _ => rfl) (fun _ _ => rfl) (fun _ => by simp) fun first second agreed => by
    cases first
    cases second
    simp_all

instance : FaithfulJson SealMetadata :=
  .of_struct (fun _ => rfl) (fun _ _ => rfl) (fun _ => by simp) fun first second agreed => by
    cases first
    cases second
    simp_all

section Preimage

variable [Crates]

instance : Serialize ActPayload where
  serialize payload := Json.struct [
    Json.field "act_id" payload.actId,
    Json.field "book_id" payload.bookId,
    Json.field "title" payload.title,
    Json.field "channel" payload.channel,
    Json.field "meeting_date" payload.meetingDate,
    Json.field "place" payload.place,
    Json.field "attendance_reference" payload.attendanceReference,
    Json.field "deliberations" payload.deliberations,
    Json.field "telematic_evidence" payload.telematicEvidence,
    Json.field "attachments" payload.attachments,
    Json.field "signatories" payload.signatories,
    Json.field "retifies" payload.retifies,
    Json.field "meeting_time" payload.meetingTime,
    Json.field "mesa" payload.mesa,
    Json.field "agenda" payload.agenda,
    Json.field "referenced_documents" payload.referencedDocuments,
    Json.skipNone "written_resolution_evidence" payload.writtenResolutionEvidence,
    Json.field "deliberation_items" payload.deliberationItems,
    Json.field "members_present" payload.membersPresent,
    Json.field "members_represented" payload.membersRepresented,
    Json.skipNone "convening" payload.convening,
    Json.skipNone "attendees" payload.attendees,
    Json.skipNone "page_count" payload.pageCount,
    Json.skipNone "superseded_signing_snapshots" payload.supersededSigningSnapshots,
    Json.skipNone "convening_waiver" payload.conveningWaiver,
    Json.skipNone "body" payload.body]

instance : Serialize SealedActPayload where
  serialize payload := Json.struct [
    Json.field "act" payload.act,
    Json.field "seal_metadata" payload.sealMetadata]

/-- The bytes a seal digests; absent when the payload does not serialize. -/
def sealedActPreimage (act : Act) (metadata : SealMetadata) : Option (List UInt8) :=
  (serialize (⟨.of act, metadata⟩ : SealedActPayload)).map jsonToVec

def sealedActDigest (act : Act) : Option Digest := do
  let metadata ← act.sealMetadata
  let payload ← sealedActPreimage act metadata
  return digest payload

instance : FaithfulJson ActPayload :=
  .of_struct (fun _ => rfl) (fun _ _ => rfl) (fun _ => by simp) fun first second agreed => by
    cases first
    cases second
    simp_all

instance : FaithfulJson SealedActPayload :=
  .of_struct (fun _ => rfl) (fun _ _ => rfl) (fun _ => by simp) fun first second agreed => by
    cases first
    cases second
    simp_all

end Preimage

/-- The minutes of an annual meeting, with what the rule packs ask for. -/
def annualMeeting : Act :=
  { Act.newDraft ⟨0x33333333333333333333333333333333#128⟩ ⟨0x22222222222222222222222222222222#128⟩
      "Ata da AG anual" .physical with
    meetingDate := some ⟨2026, 89⟩
    meetingTime := some ⟨10, 0, 0, 0⟩
    place := some "Sede social"
    mesa := ⟨some "Ana Presidente", ["Rui Secretário"]⟩
    agenda := [⟨1, "Aprovação das contas"⟩]
    attendanceReference := some "Lista de presenças"
    deliberations := "Aprovadas as contas do exercício." }

-- The value behind the preimage that the tests of the sealing module freeze.
open scoped Reference in
example : serialize (ActPayload.of annualMeeting) = some (.obj [
    ("act_id", .str "33333333-3333-3333-3333-333333333333"),
    ("book_id", .str "22222222-2222-2222-2222-222222222222"),
    ("title", .str "Ata da AG anual"), ("channel", .str "Physical"),
    ("meeting_date", .arr [.num 2026, .num 89]), ("place", .str "Sede social"),
    ("attendance_reference", .str "Lista de presenças"),
    ("deliberations", .str "Aprovadas as contas do exercício."), ("telematic_evidence", .null),
    ("attachments", .arr []), ("signatories", .arr []), ("retifies", .null),
    ("meeting_time", .arr [.num 10, .num 0, .num 0, .num 0]),
    ("mesa", .obj [("presidente", .str "Ana Presidente"),
      ("secretarios", .arr [.str "Rui Secretário"])]),
    ("agenda", .arr [.obj [("number", .num 1), ("text", .str "Aprovação das contas")]]),
    ("referenced_documents", .arr []), ("deliberation_items", .arr []),
    ("members_present", .null), ("members_represented", .null)]) :=
  rfl

/-- Two acts with the same identity and the same contents: every field but the
lifecycle state, what the seal filled in, and the provenance notes. -/
structure Act.SameContent (first second : Act) : Prop where
  id : first.id = second.id
  bookId : first.bookId = second.bookId
  title : first.title = second.title
  channel : first.channel = second.channel
  meetingDate : first.meetingDate = second.meetingDate
  meetingTime : first.meetingTime = second.meetingTime
  place : first.place = second.place
  mesa : first.mesa = second.mesa
  agenda : first.agenda = second.agenda
  attendanceReference : first.attendanceReference = second.attendanceReference
  membersPresent : first.membersPresent = second.membersPresent
  membersRepresented : first.membersRepresented = second.membersRepresented
  referencedDocuments : first.referencedDocuments = second.referencedDocuments
  writtenResolutionEvidence : first.writtenResolutionEvidence = second.writtenResolutionEvidence
  deliberations : first.deliberations = second.deliberations
  deliberationItems : first.deliberationItems = second.deliberationItems
  telematicEvidence : first.telematicEvidence = second.telematicEvidence
  attachments : first.attachments = second.attachments
  signatories : first.signatories = second.signatories
  retifies : first.retifies = second.retifies
  convening : first.convening = second.convening
  conveningWaiver : first.conveningWaiver = second.conveningWaiver
  attendees : first.attendees = second.attendees
  pageCount : first.pageCount = second.pageCount
  supersededSigningSnapshots :
    first.supersededSigningSnapshots = second.supersededSigningSnapshots
  body : first.body = second.body

theorem nonEmpty_injective {α : Type*} :
    Function.Injective (nonEmpty : List α → Option (List α)) := by
  intro first second same
  cases first <;> cases second <;> simp_all [nonEmpty]

theorem ActPayload.of_eq_iff {first second : Act} :
    ActPayload.of first = ActPayload.of second ↔ first.SameContent second := by
  constructor
  · intro same
    simp only [ActPayload.of, ActPayload.mk.injEq, Uuid.display_injective.eq_iff,
      nonEmpty_injective.eq_iff, (Option.map_injective Uuid.display_injective).eq_iff] at same
    obtain ⟨id, bookId, title, channel, meetingDate, place, attendanceReference, deliberations,
      telematicEvidence, attachments, signatories, retifies, meetingTime, mesa, agenda,
      referencedDocuments, writtenResolutionEvidence, deliberationItems, membersPresent,
      membersRepresented, convening, attendees, pageCount, supersededSigningSnapshots,
      conveningWaiver, body⟩ := same
    constructor <;> assumption
  · intro same
    obtain ⟨id, bookId, title, channel, meetingDate, meetingTime, place, mesa, agenda,
      attendanceReference, membersPresent, membersRepresented, referencedDocuments,
      writtenResolutionEvidence, deliberations, deliberationItems, telematicEvidence, attachments,
      signatories, retifies, convening, conveningWaiver, attendees, pageCount,
      supersededSigningSnapshots, body⟩ := same
    simp only [ActPayload.of, *]

end Chancela
