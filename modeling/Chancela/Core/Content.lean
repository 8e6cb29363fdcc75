import Chancela.Crates.Basic

/-! # The contents of an act

The records an act is made of and their derived serializers. Every one of them is
faithful: a serialized record has one value only, absent options and empty lists
included. This is what lets a digest of the serialized act bind its contents.
-/

namespace Chancela

abbrev ActId := Uuid
abbrev BookId := Uuid
abbrev EntityId := Uuid
abbrev TenantId := Uuid

/-- The meeting channel. -/
inductive MeetingChannel where
  | physical
  | hybrid
  | telematic
  | writtenResolution
deriving DecidableEq

def MeetingChannel.name : MeetingChannel → String
  | .physical => "Physical"
  | .hybrid => "Hybrid"
  | .telematic => "Telematic"
  | .writtenResolution => "WrittenResolution"

inductive AttachmentKind where
  | convocatoria
  | agenda
  | proxy
  | attendanceList
  | report
  | exhibit
  | other
deriving DecidableEq

def AttachmentKind.name : AttachmentKind → String
  | .convocatoria => "Convocatoria"
  | .agenda => "Agenda"
  | .proxy => "Proxy"
  | .attendanceList => "AttendanceList"
  | .report => "Report"
  | .exhibit => "Exhibit"
  | .other => "Other"

/-- The capacity in which a person signs or attends. -/
inductive SignatoryCapacity where
  | chair
  | secretary
  | member
  | shareholder
  | associate
  | cooperator
  | manager
  | administrator
  | attorney
  | condoOwner
  | statutoryAuditor
  | guest
  | other
deriving DecidableEq

def SignatoryCapacity.name : SignatoryCapacity → String
  | .chair => "Chair"
  | .secretary => "Secretary"
  | .member => "Member"
  | .shareholder => "Shareholder"
  | .associate => "Associate"
  | .cooperator => "Cooperator"
  | .manager => "Manager"
  | .administrator => "Administrator"
  | .attorney => "Attorney"
  | .condoOwner => "CondoOwner"
  | .statutoryAuditor => "StatutoryAuditor"
  | .guest => "Guest"
  | .other => "Other"

/-- Serialized in snake case, unlike the other enumerations. -/
inductive WrittenResolutionReviewStatus where
  | reviewed
  | needsFollowUp
deriving DecidableEq

def WrittenResolutionReviewStatus.asStr : WrittenResolutionReviewStatus → String
  | .reviewed => "reviewed"
  | .needsFollowUp => "needs_follow_up"

inductive DispatchChannel where
  | registeredLetter
  | registeredLetterAR
  | email
  | handDelivery
  | publication
  | portal
deriving DecidableEq

def DispatchChannel.name : DispatchChannel → String
  | .registeredLetter => "RegisteredLetter"
  | .registeredLetterAR => "RegisteredLetterAR"
  | .email => "Email"
  | .handDelivery => "HandDelivery"
  | .publication => "Publication"
  | .portal => "Portal"

/-- The ground on which a meeting was held without a prior convocatória. -/
inductive NoConveningBasis where
  | assembleiaUniversal
  | other
deriving DecidableEq

def NoConveningBasis.name : NoConveningBasis → String
  | .assembleiaUniversal => "AssembleiaUniversal"
  | .other => "Other"

inductive PresenceMode where
  | inPerson
  | represented
  | absent
deriving DecidableEq

def PresenceMode.name : PresenceMode → String
  | .inPerson => "InPerson"
  | .represented => "Represented"
  | .absent => "Absent"

inductive BodyFormat where
  | markdown
deriving DecidableEq

def BodyFormat.name : BodyFormat → String
  | .markdown => "Markdown"

instance : Serialize MeetingChannel := ⟨fun value => some (.str value.name)⟩
instance : Serialize AttachmentKind := ⟨fun value => some (.str value.name)⟩
instance : Serialize SignatoryCapacity := ⟨fun value => some (.str value.name)⟩
instance : Serialize WrittenResolutionReviewStatus := ⟨fun value => some (.str value.asStr)⟩
instance : Serialize DispatchChannel := ⟨fun value => some (.str value.name)⟩
instance : Serialize NoConveningBasis := ⟨fun value => some (.str value.name)⟩
instance : Serialize PresenceMode := ⟨fun value => some (.str value.name)⟩
instance : Serialize BodyFormat := ⟨fun value => some (.str value.name)⟩

instance : FaithfulJson MeetingChannel := .of_listed
  [.physical, .hybrid, .telematic, .writtenResolution]
  (fun _ => rfl) (fun value => by cases value <;> decide) (by decide)

instance : FaithfulJson AttachmentKind := .of_listed
  [.convocatoria, .agenda, .proxy, .attendanceList, .report, .exhibit, .other]
  (fun _ => rfl) (fun value => by cases value <;> decide) (by decide)

instance : FaithfulJson SignatoryCapacity := .of_listed
  [.chair, .secretary, .member, .shareholder, .associate, .cooperator, .manager, .administrator,
    .attorney, .condoOwner, .statutoryAuditor, .guest, .other]
  (fun _ => rfl) (fun value => by cases value <;> decide) (by decide)

instance : FaithfulJson WrittenResolutionReviewStatus := .of_listed [.reviewed, .needsFollowUp]
  (fun _ => rfl) (fun value => by cases value <;> decide) (by decide)

instance : FaithfulJson DispatchChannel := .of_listed
  [.registeredLetter, .registeredLetterAR, .email, .handDelivery, .publication, .portal]
  (fun _ => rfl) (fun value => by cases value <;> decide) (by decide)

instance : FaithfulJson NoConveningBasis := .of_listed [.assembleiaUniversal, .other]
  (fun _ => rfl) (fun value => by cases value <;> decide) (by decide)

instance : FaithfulJson PresenceMode := .of_listed [.inPerson, .represented, .absent]
  (fun _ => rfl) (fun value => by cases value <;> decide) (by decide)

instance : FaithfulJson BodyFormat := .of_names (fun _ => rfl) fun first second _ => by
  cases first
  cases second
  rfl

instance : NonNullJson SignatoryCapacity := ⟨fun _ same => by cases same⟩
instance : NonNullJson DispatchChannel := ⟨fun _ same => by cases same⟩

/-- A document attached to the act. -/
structure Attachment where
  label : String
  kind : AttachmentKind
  digest : Option Digest
  beginningOfProof : Bool
deriving DecidableEq

instance : Serialize Attachment where
  serialize attachment := Json.struct [
    Json.field "label" attachment.label,
    Json.field "kind" attachment.kind,
    Json.field "digest" attachment.digest,
    Json.field "beginning_of_proof" attachment.beginningOfProof]

/-- A signature slot: who is expected to sign, and whether they have. -/
structure SignatorySlot where
  name : String
  email : Option String
  capacity : SignatoryCapacity
  signed : Bool
  permilage : Option UInt16
deriving DecidableEq

instance : Serialize SignatorySlot where
  serialize slot := Json.struct [
    Json.field "name" slot.name,
    Json.skipNone "email" slot.email,
    Json.field "capacity" slot.capacity,
    Json.field "signed" slot.signed,
    Json.field "permilage" slot.permilage]

/-- The presiding board. -/
structure Mesa where
  presidente : Option String
  secretarios : List String
deriving DecidableEq

instance : Serialize Mesa where
  serialize mesa := Json.struct [
    Json.field "presidente" mesa.presidente,
    Json.field "secretarios" mesa.secretarios]

structure AgendaItem where
  number : UInt32
  text : String
deriving DecidableEq

instance : Serialize AgendaItem where
  serialize item := Json.struct [
    Json.field "number" item.number,
    Json.field "text" item.text]

structure DocumentReference where
  label : String
  reference : Option String
deriving DecidableEq

instance : Serialize DocumentReference where
  serialize document := Json.struct [
    Json.field "label" document.label,
    Json.field "reference" document.reference]

structure WrittenResolutionEvidenceItem where
  label : String
  reference : Option String
  digest : Option Digest
  note : Option String
deriving DecidableEq

instance : Serialize WrittenResolutionEvidenceItem where
  serialize item := Json.struct [
    Json.field "label" item.label,
    Json.skipNone "reference" item.reference,
    Json.skipNone "digest" item.digest,
    Json.skipNone "note" item.note]

structure WrittenResolutionReviewEvidenceLocator where
  label : String
  locator : Option String
  digest : Option Digest
deriving DecidableEq

instance : Serialize WrittenResolutionReviewEvidenceLocator where
  serialize evidence := Json.struct [
    Json.field "label" evidence.label,
    Json.skipNone "locator" evidence.locator,
    Json.skipNone "digest" evidence.digest]

/-- A local review of written-resolution evidence. -/
structure WrittenResolutionReviewReceipt where
  reviewer : String
  reviewedAt : OffsetDateTime
  status : WrittenResolutionReviewStatus
  guardrailAcknowledgements : List String
  evidence : List WrittenResolutionReviewEvidenceLocator
  note : Option String
  consentProofClaimed : Bool
  quorumProofClaimed : Bool
  identityProofClaimed : Bool
  legalAcceptanceClaimed : Bool
  legalSufficiencyClaimed : Bool
  externalValidationClaimed : Bool
  automaticApprovalClaimed : Bool
  authorityCertifiedClaimed : Bool
deriving DecidableEq

instance [Crates] : Serialize WrittenResolutionReviewReceipt where
  serialize receipt := Json.struct [
    Json.field "reviewer" receipt.reviewer,
    Json.field "reviewed_at" receipt.reviewedAt,
    Json.field "status" receipt.status,
    Json.field "guardrail_acknowledgements" receipt.guardrailAcknowledgements,
    Json.skipEmpty "evidence" receipt.evidence,
    Json.skipNone "note" receipt.note,
    Json.field "consent_proof_claimed" receipt.consentProofClaimed,
    Json.field "quorum_proof_claimed" receipt.quorumProofClaimed,
    Json.field "identity_proof_claimed" receipt.identityProofClaimed,
    Json.field "legal_acceptance_claimed" receipt.legalAcceptanceClaimed,
    Json.field "legal_sufficiency_claimed" receipt.legalSufficiencyClaimed,
    Json.field "external_validation_claimed" receipt.externalValidationClaimed,
    Json.field "automatic_approval_claimed" receipt.automaticApprovalClaimed,
    Json.field "authority_certified_claimed" receipt.authorityCertifiedClaimed]

structure WrittenResolutionEvidence where
  checklist : List WrittenResolutionEvidenceItem
  reviewReceipts : List WrittenResolutionReviewReceipt
  note : Option String
deriving DecidableEq

instance [Crates] : Serialize WrittenResolutionEvidence where
  serialize evidence := Json.struct [
    Json.field "checklist" evidence.checklist,
    Json.skipEmpty "review_receipts" evidence.reviewReceipts,
    Json.skipNone "note" evidence.note]

/-- A voting result, with the tally when one was taken. -/
inductive VoteResult where
  | unanimous
  | recorded (emFavor contra abstencoes : UInt32)
deriving DecidableEq

/-- Externally tagged: a variant with fields is an object under its name. -/
instance : Serialize VoteResult where
  serialize
    | .unanimous => some (.str "Unanimous")
    | .recorded emFavor contra abstencoes =>
        some (.obj [("Recorded", .obj [("em_favor", .num emFavor.toNat),
          ("contra", .num contra.toNat), ("abstencoes", .num abstencoes.toNat)])])

structure MemberStatement where
  member : String
  text : String
deriving DecidableEq

instance : Serialize MemberStatement where
  serialize statement := Json.struct [
    Json.field "member" statement.member,
    Json.field "text" statement.text]

structure DeliberationItem where
  agendaNumber : Option UInt32
  text : String
  vote : Option VoteResult
  statements : List MemberStatement
deriving DecidableEq

instance : Serialize DeliberationItem where
  serialize item := Json.struct [
    Json.field "agenda_number" item.agendaNumber,
    Json.field "text" item.text,
    Json.field "vote" item.vote,
    Json.field "statements" item.statements]

structure ConveningRecipient where
  name : String
  contact : Option String
  channel : Option DispatchChannel
  reference : Option String
  dispatchedAt : Option Date
deriving DecidableEq

instance : Serialize ConveningRecipient where
  serialize recipient := Json.struct [
    Json.field "name" recipient.name,
    Json.field "contact" recipient.contact,
    Json.field "channel" recipient.channel,
    Json.field "reference" recipient.reference,
    Json.field "dispatched_at" recipient.dispatchedAt]

structure SecondCall where
  date : Option Date
  time : Option Time
  reducedQuorum : Bool
deriving DecidableEq

instance : Serialize SecondCall where
  serialize call := Json.struct [
    Json.field "date" call.date,
    Json.field "time" call.time,
    Json.field "reduced_quorum" call.reducedQuorum]

/-- How the meeting was called. -/
structure Convening where
  convener : Option String
  convenerCapacity : Option SignatoryCapacity
  dispatchDate : Option Date
  antecedenceDays : Option UInt16
  channel : Option DispatchChannel
  evidenceReference : Option String
  recipients : List ConveningRecipient
  secondCall : Option SecondCall
deriving DecidableEq

instance : Serialize Convening where
  serialize convening := Json.struct [
    Json.field "convener" convening.convener,
    Json.field "convener_capacity" convening.convenerCapacity,
    Json.field "dispatch_date" convening.dispatchDate,
    Json.field "antecedence_days" convening.antecedenceDays,
    Json.field "channel" convening.channel,
    Json.field "evidence_reference" convening.evidenceReference,
    Json.field "recipients" convening.recipients,
    Json.field "second_call" convening.secondCall]

/-- The record that a meeting was held without a convocatória. -/
structure ConveningWaiver where
  basis : NoConveningBasis
  grounds : Option String
  allAgreedToMeet : Bool
  allAgreedToAgenda : Bool
  evidenceReference : Option String
deriving DecidableEq

instance : Serialize ConveningWaiver where
  serialize waiver := Json.struct [
    Json.field "basis" waiver.basis,
    Json.skipNone "grounds" waiver.grounds,
    Json.field "all_agreed_to_meet" waiver.allAgreedToMeet,
    Json.field "all_agreed_to_agenda" waiver.allAgreedToAgenda,
    Json.skipNone "evidence_reference" waiver.evidenceReference]

/-- The voting weight of an attendee. -/
inductive AttendanceWeight where
  | capital (units : UInt64)
  | permilage (share : UInt32)
deriving DecidableEq

instance : Serialize AttendanceWeight where
  serialize
    | .capital units => some (.obj [("Capital", .num units.toNat)])
    | .permilage share => some (.obj [("Permilage", .num share.toNat)])

/-- A row of the lista de presenças. -/
structure Attendee where
  name : String
  quality : SignatoryCapacity
  qualityNote : Option String
  presence : PresenceMode
  representedBy : Option String
  weight : Option AttendanceWeight
deriving DecidableEq

instance : Serialize Attendee where
  serialize attendee := Json.struct [
    Json.field "name" attendee.name,
    Json.field "quality" attendee.quality,
    Json.skipNone "quality_note" attendee.qualityNote,
    Json.field "presence" attendee.presence,
    Json.field "represented_by" attendee.representedBy,
    Json.field "weight" attendee.weight]

/-- A canonical signing snapshot that a reopen retired. -/
structure SupersededSigningSnapshot where
  documentId : String
  pdfDigest : String
  actor : String
  supersededAt : OffsetDateTime
  reason : String
deriving DecidableEq

instance [Crates] : Serialize SupersededSigningSnapshot where
  serialize snapshot := Json.struct [
    Json.field "document_id" snapshot.documentId,
    Json.field "pdf_digest" snapshot.pdfDigest,
    Json.field "actor" snapshot.actor,
    Json.field "superseded_at" snapshot.supersededAt,
    Json.field "reason" snapshot.reason]

/-- The narrative body, with what it compiled to. -/
structure ActBody where
  format : BodyFormat
  source : String
  compilerId : String
  compiledDigest : String
deriving DecidableEq

instance : Serialize ActBody where
  serialize body := Json.struct [
    Json.field "format" body.format,
    Json.field "source" body.source,
    Json.field "compiler_id" body.compilerId,
    Json.field "compiled_digest" body.compiledDigest]

section Faithful

-- A record is faithful once each of its fields is, so the instances go from the
-- innermost records outwards.

instance : FaithfulJson Attachment :=
  .of_struct (fun _ => rfl) (fun _ _ => rfl) (fun _ => by simp) fun first second agreed => by
    cases first
    cases second
    simp_all

instance : FaithfulJson SignatorySlot :=
  .of_struct (fun _ => rfl) (fun _ _ => rfl) (fun _ => by simp) fun first second agreed => by
    cases first
    cases second
    simp_all

instance : FaithfulJson Mesa :=
  .of_struct (fun _ => rfl) (fun _ _ => rfl) (fun _ => by simp) fun first second agreed => by
    cases first
    cases second
    simp_all

instance : FaithfulJson AgendaItem :=
  .of_struct (fun _ => rfl) (fun _ _ => rfl) (fun _ => by simp) fun first second agreed => by
    cases first
    cases second
    simp_all

instance : FaithfulJson DocumentReference :=
  .of_struct (fun _ => rfl) (fun _ _ => rfl) (fun _ => by simp) fun first second agreed => by
    cases first
    cases second
    simp_all

instance : FaithfulJson WrittenResolutionEvidenceItem :=
  .of_struct (fun _ => rfl) (fun _ _ => rfl) (fun _ => by simp) fun first second agreed => by
    cases first
    cases second
    simp_all

instance : FaithfulJson WrittenResolutionReviewEvidenceLocator :=
  .of_struct (fun _ => rfl) (fun _ _ => rfl) (fun _ => by simp) fun first second agreed => by
    cases first
    cases second
    simp_all

instance [Crates] : FaithfulJson WrittenResolutionReviewReceipt :=
  .of_struct (fun _ => rfl) (fun _ _ => rfl) (fun _ => by simp) fun first second agreed => by
    cases first
    cases second
    simp_all

instance [Crates] : FaithfulJson WrittenResolutionEvidence :=
  .of_struct (fun _ => rfl) (fun _ _ => rfl) (fun _ => by simp) fun first second agreed => by
    cases first
    cases second
    simp_all

instance : FaithfulJson VoteResult where
  inj := by
    intro first second json serialized serialized'
    have same := serialized.trans serialized'.symm
    clear serialized serialized'
    cases first <;> cases second <;> simp_all [serialize, Int.natCast_inj, UInt32.toNat_inj]

instance : NonNullJson VoteResult := ⟨fun vote same => by cases vote <;> cases same⟩

instance : FaithfulJson MemberStatement :=
  .of_struct (fun _ => rfl) (fun _ _ => rfl) (fun _ => by simp) fun first second agreed => by
    cases first
    cases second
    simp_all

instance : FaithfulJson DeliberationItem :=
  .of_struct (fun _ => rfl) (fun _ _ => rfl) (fun _ => by simp) fun first second agreed => by
    cases first
    cases second
    simp_all

instance : FaithfulJson ConveningRecipient :=
  .of_struct (fun _ => rfl) (fun _ _ => rfl) (fun _ => by simp) fun first second agreed => by
    cases first
    cases second
    simp_all

instance : FaithfulJson SecondCall :=
  .of_struct (fun _ => rfl) (fun _ _ => rfl) (fun _ => by simp) fun first second agreed => by
    cases first
    cases second
    simp_all

instance : NonNullJson SecondCall := ⟨fun _ => Json.struct_ne_null _⟩

instance : FaithfulJson Convening :=
  .of_struct (fun _ => rfl) (fun _ _ => rfl) (fun _ => by simp) fun first second agreed => by
    cases first
    cases second
    simp_all

instance : FaithfulJson ConveningWaiver :=
  .of_struct (fun _ => rfl) (fun _ _ => rfl) (fun _ => by simp) fun first second agreed => by
    cases first
    cases second
    simp_all

instance : FaithfulJson AttendanceWeight where
  inj := by
    intro first second json serialized serialized'
    have same := serialized.trans serialized'.symm
    clear serialized serialized'
    cases first <;> cases second <;>
      simp_all [serialize, Int.natCast_inj, UInt32.toNat_inj, UInt64.toNat_inj]

instance : NonNullJson AttendanceWeight := ⟨fun weight same => by cases weight <;> cases same⟩

instance : FaithfulJson Attendee :=
  .of_struct (fun _ => rfl) (fun _ _ => rfl) (fun _ => by simp) fun first second agreed => by
    cases first
    cases second
    simp_all

instance [Crates] : FaithfulJson SupersededSigningSnapshot :=
  .of_struct (fun _ => rfl) (fun _ _ => rfl) (fun _ => by simp) fun first second agreed => by
    cases first
    cases second
    simp_all

instance : FaithfulJson ActBody :=
  .of_struct (fun _ => rfl) (fun _ _ => rfl) (fun _ => by simp) fun first second agreed => by
    cases first
    cases second
    simp_all

end Faithful

/-! ## Entities

The legal person a book belongs to: its tenant, legal family and kind, and the
statute overrides a rule pack may read.
-/

inductive EntityFamily where
  | commercialCompany
  | condominium
  | association
  | foundation
  | cooperative
deriving DecidableEq

def EntityFamily.name : EntityFamily → String
  | .commercialCompany => "CommercialCompany"
  | .condominium => "Condominium"
  | .association => "Association"
  | .foundation => "Foundation"
  | .cooperative => "Cooperative"

inductive EntityKind where
  | sociedadeEmNomeColetivo
  | sociedadePorQuotas
  | sociedadeUnipessoalPorQuotas
  | sociedadeAnonima
  | sociedadeEmComanditaSimples
  | sociedadeEmComanditaPorAcoes
  | condominio
  | associacao
  | fundacao
  | cooperativa
deriving DecidableEq

def EntityKind.name : EntityKind → String
  | .sociedadeEmNomeColetivo => "SociedadeEmNomeColetivo"
  | .sociedadePorQuotas => "SociedadePorQuotas"
  | .sociedadeUnipessoalPorQuotas => "SociedadeUnipessoalPorQuotas"
  | .sociedadeAnonima => "SociedadeAnonima"
  | .sociedadeEmComanditaSimples => "SociedadeEmComanditaSimples"
  | .sociedadeEmComanditaPorAcoes => "SociedadeEmComanditaPorAcoes"
  | .condominio => "Condominio"
  | .associacao => "Associacao"
  | .fundacao => "Fundacao"
  | .cooperativa => "Cooperativa"

instance : Serialize EntityFamily := ⟨fun family => some (.str family.name)⟩
instance : Serialize EntityKind := ⟨fun kind => some (.str kind.name)⟩

instance : FaithfulJson EntityFamily := .of_listed
  [.commercialCompany, .condominium, .association, .foundation, .cooperative]
  (fun _ => rfl) (fun value => by cases value <;> decide) (by decide)

instance : FaithfulJson EntityKind := .of_listed
  [.sociedadeEmNomeColetivo, .sociedadePorQuotas, .sociedadeUnipessoalPorQuotas, .sociedadeAnonima,
    .sociedadeEmComanditaSimples, .sociedadeEmComanditaPorAcoes, .condominio, .associacao,
    .fundacao, .cooperativa]
  (fun _ => rfl) (fun value => by cases value <;> decide) (by decide)

structure Quorum where
  minPresent : UInt32
deriving DecidableEq

structure Majority where
  numerator : UInt32
  denominator : UInt32
deriving DecidableEq

structure StatuteOverrides where
  quorum : Option Quorum
  majority : Option Majority
  convocationNoticeDays : Option UInt16
deriving DecidableEq

structure Entity where
  id : EntityId
  tenantId : TenantId
  name : String
  nipc : String
  seat : String
  family : EntityFamily
  kind : EntityKind
  statute : Option StatuteOverrides
deriving DecidableEq

def defaultTenantId : TenantId := ⟨0x74656e616e740000_0000000000000001#128⟩

def quotasEntity : Entity where
  id := ⟨0x11111111111111111111111111111111#128⟩
  tenantId := defaultTenantId
  name := "Encosto Estratégico Lda"
  nipc := "503004642"
  seat := "Lisboa"
  family := .commercialCompany
  kind := .sociedadePorQuotas
  statute := none

end Chancela
