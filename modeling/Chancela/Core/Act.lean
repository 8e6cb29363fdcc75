import Chancela.Core.Content

/-! # Acts and their lifecycle

An act is drafted, moved forward one state at a time until it is out for
signature, sealed, and at last archived. Every method is modelled as the outcome
it returns together with the act it leaves behind. A method either refuses and
leaves the act as it was, or makes one change (`Chancela.Act.after_effect`), and
none of them touches the fields a seal fills in.
-/

namespace Chancela

/-- The act lifecycle. -/
inductive ActState where
  | draft
  | review
  | convened
  | deliberated
  | textApproved
  | signing
  | sealed
  | archived
deriving DecidableEq

/-- `REVERSIBLE_STATES`: the drafting states, earliest first. -/
def reversibleStates : List ActState := [.draft, .review, .convened, .deliberated, .textApproved]

def reversibleIndex (state : ActState) : Option Nat := reversibleStates.findIdx? (· == state)

inductive ActError where
  | invalidTransition (from_ target : ActState)
  | sealed
  | pageCountAlreadyFrozen (frozen : UInt32)
  | signaturesCollected
  | revertFromSigning
deriving DecidableEq

inductive AiHumanVerificationStatus where
  | pending
  | accepted
  | rejected
deriving DecidableEq

structure AiHumanVerification where
  status : AiHumanVerificationStatus
  actor : Option String
  reviewedAt : Option OffsetDateTime
  note : Option String
deriving DecidableEq

structure AiStatementSource where
  path : String
  sourceType : String
  sourceLabel : String
  humanVerified : Bool
  humanVerificationStatus : AiHumanVerificationStatus
  authoritativeSourceClaimed : Bool
  legalValidityClaimed : Bool
deriving DecidableEq

structure AiProvenance where
  source : String
  tool : Option String
  statementSource : Option String
  statementSources : List AiStatementSource
  humanVerification : AiHumanVerification
deriving DecidableEq

def AiProvenance.humanReviewAccepted (provenance : AiProvenance) : Bool :=
  provenance.humanVerification.status == .accepted

def AiProvenance.setHumanVerification (provenance : AiProvenance)
    (status : AiHumanVerificationStatus) (actor : String) (reviewedAt : OffsetDateTime)
    (note : Option String) : AiProvenance :=
  { provenance with humanVerification := ⟨status, some actor, some reviewedAt, note⟩ }

structure ManualSignatureOriginalReference where
  storageReference : String
  custodian : Option String
  note : Option String
deriving DecidableEq

/-- The rule pack and signature evidence applied when an act was sealed. -/
structure SealMetadata where
  rulePackId : String
  version : String
  family : EntityFamily
  profile : EntityKind
  manualSignatureOriginalReference : Option ManualSignatureOriginalReference
  signingSnapshotDigest : Option String
  signedPdfDigest : Option String
  signatureValidationReportDigest : Option String
  ataNumber : Option Nat
deriving DecidableEq

/-- `rule_pack_version`: what stands behind the last `/`. -/
def rulePackVersion (rulePackId : String) : String :=
  match (Text.split rulePackId '/').reverse with
  | version :: _ :: _ => if version = "" then "unversioned" else version
  | _ => "unversioned"

namespace SealMetadata

def new (rulePackId : String) (family : EntityFamily) (profile : EntityKind) : SealMetadata where
  rulePackId := rulePackId
  version := rulePackVersion rulePackId
  family := family
  profile := profile
  manualSignatureOriginalReference := none
  signingSnapshotDigest := none
  signedPdfDigest := none
  signatureValidationReportDigest := none
  ataNumber := none

def withAtaNumber (metadata : SealMetadata) (ataNumber : Nat) : SealMetadata :=
  { metadata with ataNumber := some ataNumber }

def withManualSignatureOriginalReference (metadata : SealMetadata)
    (reference : Option ManualSignatureOriginalReference) : SealMetadata :=
  { metadata with manualSignatureOriginalReference := reference }

def withDigitalSignatureEvidence (metadata : SealMetadata)
    (signingSnapshotDigest signedPdfDigest signatureValidationReportDigest : String) :
    SealMetadata :=
  { metadata with
    signingSnapshotDigest := some signingSnapshotDigest
    signedPdfDigest := some signedPdfDigest
    signatureValidationReportDigest := some signatureValidationReportDigest }

end SealMetadata

/-- An ata. -/
structure Act where
  id : ActId
  bookId : BookId
  title : String
  channel : MeetingChannel
  meetingDate : Option Date
  meetingTime : Option Time
  place : Option String
  mesa : Mesa
  agenda : List AgendaItem
  attendanceReference : Option String
  membersPresent : Option UInt32
  membersRepresented : Option UInt32
  referencedDocuments : List DocumentReference
  writtenResolutionEvidence : Option WrittenResolutionEvidence
  deliberations : String
  deliberationItems : List DeliberationItem
  telematicEvidence : Option String
  attachments : List Attachment
  signatories : List SignatorySlot
  state : ActState
  ataNumber : Option Nat
  payloadDigest : Option Digest
  sealEventSeq : Option Nat
  sealMetadata : Option SealMetadata
  retifies : Option ActId
  convening : Option Convening
  conveningWaiver : Option ConveningWaiver
  attendees : List Attendee
  aiProvenance : Option AiProvenance
  pageCount : Option UInt32
  supersededSigningSnapshots : List SupersededSigningSnapshot
  body : Option ActBody
deriving DecidableEq

namespace Act

/-- `Act::draft`, with the identity it draws. -/
def newDraft (id : ActId) (bookId : BookId) (title : String) (channel : MeetingChannel) : Act where
  id := id
  bookId := bookId
  title := title
  channel := channel
  meetingDate := none
  meetingTime := none
  place := none
  mesa := ⟨none, []⟩
  agenda := []
  attendanceReference := none
  membersPresent := none
  membersRepresented := none
  referencedDocuments := []
  writtenResolutionEvidence := none
  deliberations := ""
  deliberationItems := []
  telematicEvidence := none
  attachments := []
  signatories := []
  state := .draft
  ataNumber := none
  payloadDigest := none
  sealEventSeq := none
  sealMetadata := none
  retifies := none
  convening := none
  conveningWaiver := none
  attendees := []
  aiProvenance := none
  pageCount := none
  supersededSigningSnapshots := []
  body := none

def isSealed (act : Act) : Bool := act.state == .sealed || act.state == .archived

/-- `Act::is_mutable`: the act is not out for signature, sealed or archived. -/
def isMutable (act : Act) : Bool := !(act.state == .signing || act.isSealed)

/-- A content setter: refused once the act is no longer mutable. -/
def setContent (act : Act) (edited : Act) : Except ActError Unit × Act :=
  if act.isMutable then (.ok (), edited) else (.error .sealed, act)

def freezePageCount (act : Act) (pages : UInt32) : Except ActError Unit × Act :=
  match act.pageCount with
  | some frozen =>
      if frozen = pages then (.ok (), act) else (.error (.pageCountAlreadyFrozen frozen), act)
  | none =>
      if act.isSealed then (.error .sealed, act)
      else (.ok (), { act with pageCount := some pages })

def setDeliberations (act : Act) (text : String) : Except ActError Unit × Act :=
  act.setContent { act with deliberations := text }

def setBody (act : Act) (body : ActBody) : Except ActError Unit × Act :=
  act.setContent { act with body := some body }

def clearBody (act : Act) : Except ActError Unit × Act := act.setContent { act with body := none }

def addAttachment (act : Act) (attachment : Attachment) : Except ActError Unit × Act :=
  act.setContent { act with attachments := act.attachments ++ [attachment] }

def addSignatory (act : Act) (slot : SignatorySlot) : Except ActError Unit × Act :=
  act.setContent { act with signatories := act.signatories ++ [slot] }

def setAiHumanVerification (act : Act) (status : AiHumanVerificationStatus) (actor : String)
    (reviewedAt : OffsetDateTime) (note : Option String) : Except ActError Unit × Act :=
  act.setContent { act with
    aiProvenance := act.aiProvenance.map (·.setHumanVerification status actor reviewedAt note) }

def requiresAiHumanVerification (act : Act) : Bool :=
  act.aiProvenance.any fun provenance => !provenance.humanReviewAccepted

/-- The forward steps of `advance_to`. -/
def isNextState : ActState → ActState → Bool
  | .draft, .review => true
  | .review, .convened => true
  | .convened, .deliberated => true
  | .deliberated, .textApproved => true
  | .textApproved, .signing => true
  | _, _ => false

def advanceTo (act : Act) (target : ActState) : Except ActError Unit × Act :=
  if act.state = .textApproved ∧ target = .signing ∧ act.requiresAiHumanVerification then
    (.error (.invalidTransition act.state target), act)
  else if isNextState act.state target then (.ok (), { act with state := target })
  else (.error (.invalidTransition act.state target), act)

def revertTo (act : Act) (target : ActState) : Except ActError Unit × Act :=
  if act.state = .signing then (.error .revertFromSigning, act)
  else match reversibleIndex act.state, reversibleIndex target with
    | some current, some earlier =>
        if earlier < current then (.ok (), { act with state := target })
        else (.error (.invalidTransition act.state target), act)
    | _, _ => (.error (.invalidTransition act.state target), act)

/-- `Act::reopen_for_correction`, which returns the page count it releases. -/
def reopenForCorrection (act : Act) : Except ActError (Option UInt32) × Act :=
  if act.state ≠ .signing then (.error (.invalidTransition act.state .textApproved), act)
  else if act.signatories.any (·.signed) then (.error .signaturesCollected, act)
  else (.ok act.pageCount, { act with state := .textApproved, pageCount := none })

/-- `Act::record_superseded_signing_snapshot`, which checks nothing. -/
def recordSupersededSigningSnapshot (act : Act) (snapshot : SupersededSigningSnapshot) : Act :=
  { act with supersededSigningSnapshots := act.supersededSigningSnapshots ++ [snapshot] }

def archive (act : Act) : Except ActError Unit × Act :=
  if act.state = .sealed then (.ok (), { act with state := .archived })
  else (.error (.invalidTransition act.state .archived), act)

def markSealed (act : Act) (ataNumber : Nat) (payloadDigest : Digest) (sealEventSeq : Nat)
    (sealMetadata : SealMetadata) : Except ActError Unit × Act :=
  if act.state ≠ .signing then (.error (.invalidTransition act.state .sealed), act)
  else (.ok (), { act with
    ataNumber := some ataNumber
    payloadDigest := some payloadDigest
    sealEventSeq := some sealEventSeq
    sealMetadata := some sealMetadata
    state := .sealed })

end Act

/-- A call of a lifecycle method or content setter of an act. -/
inductive ActCall where
  | setDeliberations (text : String)
  | setBody (body : ActBody)
  | clearBody
  | addAttachment (attachment : Attachment)
  | addSignatory (slot : SignatorySlot)
  | setAiHumanVerification (status : AiHumanVerificationStatus) (actor : String)
      (reviewedAt : OffsetDateTime) (note : Option String)
  | freezePageCount (pages : UInt32)
  | advanceTo (target : ActState)
  | revertTo (target : ActState)
  | reopenForCorrection
  | archive
deriving DecidableEq

namespace Act

/-- The act a call leaves behind, whether the call succeeded or not. -/
def after (act : Act) : ActCall → Act
  | .setDeliberations text => (act.setDeliberations text).2
  | .setBody body => (act.setBody body).2
  | .clearBody => act.clearBody.2
  | .addAttachment attachment => (act.addAttachment attachment).2
  | .addSignatory slot => (act.addSignatory slot).2
  | .setAiHumanVerification status actor reviewedAt note =>
      (act.setAiHumanVerification status actor reviewedAt note).2
  | .freezePageCount pages => (act.freezePageCount pages).2
  | .advanceTo target => (act.advanceTo target).2
  | .revertTo target => (act.revertTo target).2
  | .reopenForCorrection => act.reopenForCorrection.2
  | .archive => act.archive.2

/-- What a call can do to an act. -/
inductive Effect (act : Act) : ActCall → Act → Prop where
  | refused (call : ActCall) : Effect act call act
  | edited {call : ActCall} (isMutable : act.isMutable = true) (deliberations : String)
      (body : Option ActBody) (attachments : List Attachment) (signatories : List SignatorySlot)
      (aiProvenance : Option AiProvenance) :
      Effect act call { act with
        deliberations := deliberations
        body := body
        attachments := attachments
        signatories := signatories
        aiProvenance := aiProvenance }
  | pagesFrozen (unsealed : act.isSealed = false) (unfrozen : act.pageCount = none)
      (pages : UInt32) :
      Effect act (.freezePageCount pages) { act with pageCount := some pages }
  | moved {call : ActCall} (isMutable : act.isMutable = true) (target : ActState)
      (before : target ≠ .sealed ∧ target ≠ .archived) :
      Effect act call { act with state := target }
  | reopened (signing : act.state = .signing) :
      Effect act .reopenForCorrection { act with state := .textApproved, pageCount := none }
  | archived (isSealed : act.state = .sealed) :
      Effect act .archive { act with state := .archived }

theorem isMutable_iff {act : Act} :
    act.isMutable = true ↔ act.state ≠ .signing ∧ act.state ≠ .sealed ∧ act.state ≠ .archived := by
  simp [isMutable, isSealed]

theorem isSealed_iff {act : Act} :
    act.isSealed = true ↔ act.state = .sealed ∨ act.state = .archived := by
  simp [isSealed]

theorem setContent_cases (act edited : Act) :
    (act.setContent edited).2 = act ∨
      act.isMutable = true ∧ (act.setContent edited).2 = edited := by
  unfold setContent
  split
  · exact .inr ⟨‹_›, rfl⟩
  · exact .inl rfl

theorem isNextState_spec {current target : ActState} (next : isNextState current target = true) :
    (current ≠ .signing ∧ current ≠ .sealed ∧ current ≠ .archived) ∧
      target ≠ .sealed ∧ target ≠ .archived := by
  cases current <;> cases target <;> first | exact absurd next (by decide) | decide

theorem reversibleIndex_eq_some {state : ActState} {index : Nat}
    (found : reversibleIndex state = some index) :
    state ≠ .signing ∧ state ≠ .sealed ∧ state ≠ .archived := by
  have absent : reversibleIndex .signing = none ∧ reversibleIndex .sealed = none ∧
      reversibleIndex .archived = none := by decide
  refine ⟨?_, ?_, ?_⟩
  all_goals
    intro same
    rw [same] at found
    simp [absent] at found

/-- **What a call does.** Every call refuses or makes one of these changes. -/
theorem after_effect (act : Act) (call : ActCall) : act.Effect call (act.after call) := by
  have setter : ∀ edited : Act, (act.isMutable = true → act.Effect call edited) →
      act.Effect call (act.setContent edited).2 := by
    intro edited effect
    rcases act.setContent_cases edited with same | ⟨allowed, same⟩
    · rw [same]
      exact .refused call
    · rw [same]
      exact effect allowed
  cases call with
  | setDeliberations text => exact setter _ fun allowed => .edited allowed text _ _ _ _
  | setBody body => exact setter _ fun allowed => .edited allowed _ (some body) _ _ _
  | clearBody => exact setter _ fun allowed => .edited allowed _ none _ _ _
  | addAttachment attachment => exact setter _ fun allowed => .edited allowed _ _ _ _ _
  | addSignatory slot => exact setter _ fun allowed => .edited allowed _ _ _ _ _
  | setAiHumanVerification status actor reviewedAt note =>
      exact setter _ fun allowed => .edited allowed _ _ _ _ _
  | freezePageCount pages =>
      rw [after, freezePageCount]
      split
      · split <;> exact .refused _
      · rename_i unfrozen
        split
        · exact .refused _
        · exact .pagesFrozen (Bool.eq_false_iff.mpr ‹_›) unfrozen pages
  | advanceTo target =>
      rw [after, advanceTo]
      split
      · exact .refused _
      · split
        · have spec := isNextState_spec ‹_›
          exact .moved (isMutable_iff.mpr spec.1) target spec.2
        · exact .refused _
  | revertTo target =>
      rw [after, revertTo]
      split
      · exact .refused _
      · split
        · rename_i current earlier found found'
          split
          · exact .moved (isMutable_iff.mpr (reversibleIndex_eq_some found)) target
              (reversibleIndex_eq_some found').2
          · exact .refused _
        · exact .refused _
  | reopenForCorrection =>
      rw [after, reopenForCorrection]
      split
      · exact .refused _
      · rename_i signing
        split
        · exact .refused _
        · exact .reopened (not_not.mp signing)
  | archive =>
      rw [after, archive]
      split
      · exact .archived ‹_›
      · exact .refused _

theorem Effect.frame {act result : Act} {call : ActCall} (effect : act.Effect call result) :
    result.id = act.id ∧ result.bookId = act.bookId ∧ result.ataNumber = act.ataNumber ∧
      result.payloadDigest = act.payloadDigest ∧ result.sealEventSeq = act.sealEventSeq ∧
      result.sealMetadata = act.sealMetadata := by
  cases effect <;> exact ⟨rfl, rfl, rfl, rfl, rfl, rfl⟩

theorem Effect.isSealed_eq {act result : Act} {call : ActCall} (effect : act.Effect call result) :
    result.isSealed = act.isSealed := by
  rw [Bool.eq_iff_iff, isSealed_iff, isSealed_iff]
  cases effect with
  | refused | edited | pagesFrozen => rfl
  | moved allowed target before =>
      have state := isMutable_iff.mp allowed
      simp [state, before]
  | reopened signing => simp [signing]
  | archived state => simp [state]

theorem Effect.of_isSealed {act result : Act} {call : ActCall} (effect : act.Effect call result)
    (isSealed : act.isSealed = true) : ∃ state, result = { act with state := state } := by
  have frozen : act.isMutable = false := by
    simp [isMutable, isSealed]
  cases effect with
  | refused => exact ⟨act.state, rfl⟩
  | edited allowed => exact (Bool.false_ne_true (frozen.symm.trans allowed)).elim
  | pagesFrozen unsealed => exact (Bool.false_ne_true (unsealed.symm.trans isSealed)).elim
  | moved allowed target => exact ⟨target, rfl⟩
  | reopened signing =>
      rw [isSealed_iff, signing] at isSealed
      exact absurd isSealed (by decide)
  | archived => exact ⟨.archived, rfl⟩

end Act

end Chancela
