import Chancela.Core.Book
import Chancela.Foundation.Checked
import Chancela.Foundation.Outcome
import Mathlib.Data.List.MinMax
import Mathlib.Data.List.Sort

/-! # Termos as signable instruments

A termo de abertura or de encerramento is drafted, frozen, signed slot by slot and
sealed. Freezing validates the content, the signatories and the completion policy;
signatures follow the order of the required slots; sealing waits for the number of
signatures the policy asks for. `Chancela.TermoInstrument.after_effect` says what each
operation does.
-/

namespace Chancela

open Checked Outcome

inductive TermoKind where
  | abertura
  | encerramento
deriving DecidableEq

inductive TermoState where
  | draft
  | signing
  | sealed
deriving DecidableEq

inductive ClauseOrigin where
  | templateDefault
  | userEdited
  | userAdded
deriving DecidableEq

/-- A clause of the text of a termo. -/
structure TermoClause where
  id : Uuid
  heading : Option String
  text : String
  origin : ClauseOrigin
deriving DecidableEq

/-- A signature slot of a termo. -/
structure TermoSignatorySlot where
  id : Uuid
  name : String
  email : Option String
  capacity : SignatoryCapacity
  capacityNote : Option String
  required : Bool
  order : UInt16
  signed : Bool
  signedAt : Option OffsetDateTime
  signatureId : Option Uuid
deriving DecidableEq

/-- How many of the required slots must sign. -/
inductive TermoCompletionPolicy where
  | allRequired
  | atLeast (n : UInt16)
  | singleQualifying
deriving DecidableEq

/-- The fillable fields of a termo besides its body. -/
structure TermoFields where
  bookNumber : Option UInt32
  place : Option String
  pageCapacity : Option UInt32
  purpose : Option String
  instrumentDate : Option Date
  closingReason : Option ClosingReason
  predecessorNote : Option String
  entitySeat : Option String
deriving DecidableEq

inductive TermoError where
  | notMutable (state : TermoState)
  | invalidTransition (origin target : TermoState)
  | notSigning (state : TermoState)
  | noSignatories
  | noRequiredSlots
  | forbiddenCapacity (slotId : Uuid) (capacity : SignatoryCapacity)
  | missingSignatoryCapacityNote (slotId : Uuid)
  | unexpectedSignatoryCapacityNote (slotId : Uuid)
  | duplicateSlotId (slotId : Uuid)
  | duplicateSlotOrder (order : UInt16)
  | slotNotFound (slotId : Uuid)
  | slotAlreadySigned (slotId : Uuid)
  | sequentialOrderBlocked (blocked waitingOn : Uuid)
  | requiredSlotsNotSigned (slotIds : List Uuid)
  | invalidCompletionPolicy (policy : TermoCompletionPolicy) (requiredSlotCount : UInt16)
  | managementFloorNotSatisfiable (policy : TermoCompletionPolicy)
  | emptyBody
  | tooManyClauses (count max : Nat)
  | duplicateClauseId (clauseId : Uuid)
  | emptyClauseText (clauseId : Uuid)
  | clauseTextTooLong (clauseId : Uuid) (bytes maxBytes : Nat)
  | emptySignatoryName (slotId : Uuid)
  | missingField (field : String)
  | emptyField (field : String)
  | textTooLong (field : String) (maxChars : Nat)
  | fieldNotApplicable (field : String) (kind : TermoKind)
  | pageCapacityOutOfRange (requested min max : UInt32)
  | invalidBookNumber (number : UInt32)
  | signaturesAlreadyCollected
deriving DecidableEq

def defaultPageCapacity : UInt32 := 100

def maxTermoClauses : Nat := 100

def maxClauseTextBytes : Nat := 8 * 1024

def maxTermoTextChars : Nat := 200

def maxTermoPurposeChars : Nat := 500

/-- `is_permitted_termo_capacity`: the capacities that may draw up a termo. -/
def isPermittedTermoCapacity : SignatoryCapacity → Bool
  | .manager | .administrator | .member | .secretary | .chair => true
  | _ => false

def isManagementCapacity : SignatoryCapacity → Bool
  | .manager | .administrator => true
  | _ => false

def TermoClause.validate (clause : TermoClause) : Except TermoError Unit :=
  if Text.isBlank clause.text then .error (.emptyClauseText clause.id)
  else if maxClauseTextBytes < (Text.utf8 clause.text).length then
    .error (.clauseTextTooLong clause.id (Text.utf8 clause.text).length maxClauseTextBytes)
  else if clause.heading.any fun heading => maxTermoTextChars < heading.length then
    .error (.textTooLong "clause.heading" maxTermoTextChars)
  else .ok ()

namespace TermoSignatorySlot

/-- `TermoSignatorySlot::required`, with the identity it draws. -/
def required_ (id : Uuid) (name : String) (capacity : SignatoryCapacity) (order : UInt16) :
    TermoSignatorySlot where
  id := id
  name := name
  email := none
  capacity := capacity
  capacityNote := none
  required := true
  order := order
  signed := false
  signedAt := none
  signatureId := none

def validate (slot : TermoSignatorySlot) : Except TermoError Unit :=
  let notePresent := slot.capacityNote.any fun note => !Text.isBlank note
  if Text.isBlank slot.name then .error (.emptySignatoryName slot.id)
  else if maxTermoTextChars < slot.name.length then
    .error (.textTooLong "signatory.name" maxTermoTextChars)
  else if slot.capacity = .other then
    if notePresent then .ok () else .error (.missingSignatoryCapacityNote slot.id)
  else if isPermittedTermoCapacity slot.capacity then
    if notePresent then .error (.unexpectedSignatoryCapacityNote slot.id) else .ok ()
  else .error (.forbiddenCapacity slot.id slot.capacity)

def toCollectedRecord (slot : TermoSignatorySlot) : Option TermoCollectedSignature := do
  let signedAt ← slot.signedAt
  if slot.signed then
    some ⟨slot.id, slot.name, slot.capacity, slot.capacityNote, signedAt, slot.signatureId⟩
  else none

def withSignature (slot : TermoSignatorySlot) (signatureId : Option Uuid) (now : OffsetDateTime) :
    TermoSignatorySlot :=
  { slot with signed := true, signedAt := some now, signatureId := signatureId }

end TermoSignatorySlot

def TermoCompletionPolicy.threshold (requiredSlotCount : UInt16) : TermoCompletionPolicy → UInt16
  | .allRequired => requiredSlotCount
  | .atLeast n => min n requiredSlotCount
  | .singleQualifying => min 1 requiredSlotCount

def checkLen (field : String) (value : Option String) (maxChars : Nat) : Except TermoError Unit :=
  match value with
  | some text =>
      if Text.isBlank text then .error (.emptyField field)
      else if maxChars < text.length then .error (.textTooLong field maxChars)
      else .ok ()
  | none => .ok ()

namespace TermoFields

def empty : TermoFields where
  bookNumber := none
  place := none
  pageCapacity := none
  purpose := none
  instrumentDate := none
  closingReason := none
  predecessorNote := none
  entitySeat := none

def forAbertura : TermoFields := { empty with pageCapacity := some defaultPageCapacity }

def forEncerramento : TermoFields := empty

def checkBookNumber (fields : TermoFields) : Except TermoError Unit :=
  match fields.bookNumber with
  | some number => rejectIf (number < 1) (.invalidBookNumber number)
  | none => .ok ()

def validateAbertura (fields : TermoFields) : Except TermoError Unit :=
  match fields.pageCapacity with
  | none => .error (.missingField "page_capacity")
  | some capacity =>
      if ¬(minPageCapacity ≤ capacity ∧ capacity ≤ maxPageCapacity) then
        .error (.pageCapacityOutOfRange capacity minPageCapacity maxPageCapacity)
      else if fields.closingReason.isSome then
        .error (.fieldNotApplicable "closing_reason" .abertura)
      else .ok ()

def validateEncerramento (fields : TermoFields) : Except TermoError Unit :=
  if fields.pageCapacity.isSome then .error (.fieldNotApplicable "page_capacity" .encerramento)
  else if fields.entitySeat.isSome then .error (.fieldNotApplicable "entity_seat" .encerramento)
  else match fields.closingReason with
    | none => .error (.missingField "closing_reason")
    | some (.other note) =>
        if Text.isBlank note then .error (.missingField "closing_reason.note") else .ok ()
    | some _ => .ok ()

def validate (fields : TermoFields) (kind : TermoKind) : Except TermoError Unit := do
  fields.checkBookNumber
  checkLen "place" fields.place maxTermoTextChars
  checkLen "purpose" fields.purpose maxTermoPurposeChars
  checkLen "predecessor_note" fields.predecessorNote maxTermoTextChars
  checkLen "entity_seat" fields.entitySeat maxTermoTextChars
  match kind with
  | .abertura => fields.validateAbertura
  | .encerramento => fields.validateEncerramento

end TermoFields

/-- A termo as a drafted, signable instrument. -/
structure TermoInstrument where
  id : Uuid
  bookId : BookId
  kind : TermoKind
  state : TermoState
  title : String
  body : List TermoClause
  fields : TermoFields
  signatories : List TermoSignatorySlot
  completionPolicy : TermoCompletionPolicy
  templateId : Option String
  createdAt : OffsetDateTime
  signingStartedAt : Option OffsetDateTime
  sealedAt : Option OffsetDateTime
  numberingScheme : Option NumberingScheme
deriving DecidableEq

namespace TermoInstrument

/-- `TermoInstrument::draft`, with the identity it draws. -/
def draft (id : Uuid) (bookId : BookId) (kind : TermoKind) (title : String)
    (createdAt : OffsetDateTime) : TermoInstrument where
  id := id
  bookId := bookId
  kind := kind
  state := .draft
  title := title
  body := []
  fields := match kind with
    | .abertura => .forAbertura
    | .encerramento => .forEncerramento
  signatories := []
  completionPolicy := .allRequired
  templateId := none
  createdAt := createdAt
  signingStartedAt := none
  sealedAt := none
  numberingScheme := none

def isMutable (termo : TermoInstrument) : Bool := termo.state == .draft

def setTitle (termo : TermoInstrument) (title : String) :
    Except TermoError Unit × TermoInstrument :=
  if termo.isMutable then (.ok (), { termo with title := title })
  else (.error (.notMutable termo.state), termo)

def setBody (termo : TermoInstrument) (body : List TermoClause) :
    Except TermoError Unit × TermoInstrument :=
  if termo.isMutable then (.ok (), { termo with body := body })
  else (.error (.notMutable termo.state), termo)

def addSignatory (termo : TermoInstrument) (slot : TermoSignatorySlot) :
    Except TermoError Unit × TermoInstrument :=
  if !termo.isMutable then (.error (.notMutable termo.state), termo)
  else if termo.signatories.any fun existing => existing.id = slot.id then
    (.error (.duplicateSlotId slot.id), termo)
  else (.ok (), { termo with signatories := termo.signatories ++ [slot] })

def requiredSlots (termo : TermoInstrument) : List TermoSignatorySlot :=
  termo.signatories.filter (·.required)

def requiredSlotCount (termo : TermoInstrument) : UInt16 :=
  saturatingCount termo.requiredSlots.length

def managementSlots (termo : TermoInstrument) : List TermoSignatorySlot :=
  termo.requiredSlots.filter fun slot => isManagementCapacity slot.capacity

def satisfiesManagementFloor (termo : TermoInstrument) : Bool :=
  let required := termo.requiredSlotCount
  let management := saturatingCount termo.managementSlots.length
  if management = 0 then false
  else decide (termo.completionPolicy.threshold required > required - management)

def validatePolicy (termo : TermoInstrument) : Except TermoError Unit :=
  let required := termo.requiredSlotCount
  let outOfRange := match termo.completionPolicy with
    | .atLeast n => decide (n = 0 ∨ n > required)
    | _ => false
  if outOfRange then .error (.invalidCompletionPolicy termo.completionPolicy required)
  else if required > 0 ∧ termo.satisfiesManagementFloor = false then
    .error (.managementFloorNotSatisfiable termo.completionPolicy)
  else .ok ()

def setCompletionPolicy (termo : TermoInstrument) (policy : TermoCompletionPolicy) :
    Except TermoError Unit × TermoInstrument :=
  if !termo.isMutable then (.error (.notMutable termo.state), termo)
  else
    let previous := termo.completionPolicy
    let termo := { termo with completionPolicy := policy }
    match termo.validatePolicy with
    | .error fault => (.error fault, { termo with completionPolicy := previous })
    | .ok () => (.ok (), termo)

/-- The clauses have distinct identities and are each valid. -/
def checkClauses (seen : List Uuid) : List TermoClause → Except TermoError Unit
  | [] => .ok ()
  | clause :: rest => do
      rejectIf (clause.id ∈ seen) (.duplicateClauseId clause.id)
      clause.validate
      checkClauses (clause.id :: seen) rest

/-- The slots have distinct identities and orders and are each valid. -/
def checkSlots (seenSlots : List Uuid) (seenOrders : List UInt16) :
    List TermoSignatorySlot → Except TermoError Unit
  | [] => .ok ()
  | slot :: rest => do
      rejectIf (slot.id ∈ seenSlots) (.duplicateSlotId slot.id)
      rejectIf (slot.order ∈ seenOrders) (.duplicateSlotOrder slot.order)
      slot.validate
      checkSlots (slot.id :: seenSlots) (slot.order :: seenOrders) rest

def validate (termo : TermoInstrument) : Except TermoError Unit := do
  rejectIf (Text.isBlank termo.title) (.emptyField "title")
  rejectIf (maxTermoTextChars < termo.title.length) (.textTooLong "title" maxTermoTextChars)
  rejectIf (termo.body = []) .emptyBody
  rejectIf (maxTermoClauses < termo.body.length)
    (.tooManyClauses termo.body.length maxTermoClauses)
  checkClauses [] termo.body
  termo.fields.validate termo.kind
  rejectIf (termo.signatories = []) .noSignatories
  checkSlots [] [] termo.signatories
  rejectIf (termo.requiredSlotCount = 0) .noRequiredSlots
  termo.validatePolicy

def advanceToSigning (termo : TermoInstrument) (templateId : String) (now : OffsetDateTime) :
    Except TermoError Unit × TermoInstrument :=
  if termo.state ≠ .draft then (.error (.invalidTransition termo.state .signing), termo)
  else match termo.validate with
    | .error fault => (.error fault, termo)
    | .ok () =>
        (.ok (), { termo with
          templateId := some templateId
          signingStartedAt := some now
          state := .signing })

def withdrawToDraft (termo : TermoInstrument) : Except TermoError Unit × TermoInstrument :=
  if termo.state ≠ .signing then (.error (.invalidTransition termo.state .draft), termo)
  else if termo.signatories.any (·.signed) then (.error .signaturesAlreadyCollected, termo)
  else (.ok (), { termo with templateId := none, signingStartedAt := none, state := .draft })

/-- The required slots of an earlier order that have not signed. -/
def waitingSlots (termo : TermoInstrument) (order : UInt16) : List TermoSignatorySlot :=
  termo.signatories.filter fun slot => slot.required && !slot.signed && decide (slot.order < order)

def markSlotSigned (termo : TermoInstrument) (slotId : Uuid) (signatureId : Option Uuid)
    (now : OffsetDateTime) : Except TermoError Unit × TermoInstrument :=
  if termo.state ≠ .signing then (.error (.notSigning termo.state), termo)
  else match termo.signatories.zipIdx.find? fun indexed => indexed.1.id = slotId with
    | none => (.error (.slotNotFound slotId), termo)
    | some (slot, index) =>
        if slot.signed then (.error (.slotAlreadySigned slotId), termo)
        else match (termo.waitingSlots slot.order).argmin (·.order.toNat) with
          | some waitingOn => (.error (.sequentialOrderBlocked slotId waitingOn.id), termo)
          | none =>
              (.ok (), { termo with
                signatories := termo.signatories.set index (slot.withSignature signatureId now) })

def blockingRequiredSlotIds (termo : TermoInstrument) : List Uuid :=
  (termo.requiredSlots.filter fun slot => !slot.signed).map (·.id)

def signedRequiredSlots (termo : TermoInstrument) : List TermoSignatorySlot :=
  termo.requiredSlots.filter (·.signed)

def ensureCompletable (termo : TermoInstrument) : Except TermoError Unit :=
  if termo.requiredSlotCount = 0 then .error .noRequiredSlots
  else if saturatingCount termo.signedRequiredSlots.length <
      termo.completionPolicy.threshold termo.requiredSlotCount then
    .error (.requiredSlotsNotSigned termo.blockingRequiredSlotIds)
  else .ok ()

/-- `TermoInstrument::seal`. -/
def seal_ (termo : TermoInstrument) (now : OffsetDateTime) :
    Except TermoError Unit × TermoInstrument :=
  if termo.state ≠ .signing then (.error (.invalidTransition termo.state .sealed), termo)
  else match termo.ensureCompletable with
    | .error fault => (.error fault, termo)
    | .ok () => (.ok (), { termo with sealedAt := some now, state := .sealed })

def collectedSignatureRecords (termo : TermoInstrument) : List TermoCollectedSignature :=
  (termo.signatories.insertionSort fun first second => first.order ≤ second.order).filterMap
    TermoSignatorySlot.toCollectedRecord

end TermoInstrument

/-- A call of a method that changes a termo. The slots a caller adds are unsigned. -/
inductive TermoCall where
  | setTitle (title : String)
  | setBody (body : List TermoClause)
  | addSignatory (slot : TermoSignatorySlot) (unsigned : slot.signed = false)
  | setCompletionPolicy (policy : TermoCompletionPolicy)
  | advanceToSigning (templateId : String) (now : OffsetDateTime)
  | withdrawToDraft
  | markSlotSigned (slotId : Uuid) (signatureId : Option Uuid) (now : OffsetDateTime)
  | seal_ (now : OffsetDateTime)

namespace TermoInstrument

def call (termo : TermoInstrument) : TermoCall → Except TermoError Unit × TermoInstrument
  | .setTitle title => termo.setTitle title
  | .setBody body => termo.setBody body
  | .addSignatory slot _ => termo.addSignatory slot
  | .setCompletionPolicy policy => termo.setCompletionPolicy policy
  | .advanceToSigning templateId now => termo.advanceToSigning templateId now
  | .withdrawToDraft => termo.withdrawToDraft
  | .markSlotSigned slotId signatureId now => termo.markSlotSigned slotId signatureId now
  | .seal_ now => termo.seal_ now

def after (termo : TermoInstrument) (call : TermoCall) : TermoInstrument := (termo.call call).2

/-- What a call can do to a termo. -/
inductive Effect (termo : TermoInstrument) : TermoCall → TermoInstrument → Prop where
  | refused (call : TermoCall) : Effect termo call termo
  | edited {call : TermoCall} (drafting : termo.state = .draft) (title : String)
      (body : List TermoClause) (policy : TermoCompletionPolicy) :
      Effect termo call { termo with title := title, body := body, completionPolicy := policy }
  | added {slot : TermoSignatorySlot} {unsigned : slot.signed = false}
      (drafting : termo.state = .draft) :
      Effect termo (.addSignatory slot unsigned)
        { termo with signatories := termo.signatories ++ [slot] }
  | frozen {templateId : String} {now : OffsetDateTime} (drafting : termo.state = .draft)
      (valid : termo.validate = .ok ()) :
      Effect termo (.advanceToSigning templateId now) { termo with
        templateId := some templateId
        signingStartedAt := some now
        state := .signing }
  | withdrawn (signing : termo.state = .signing)
      (unsigned : ∀ slot ∈ termo.signatories, slot.signed = false) :
      Effect termo .withdrawToDraft
        { termo with templateId := none, signingStartedAt := none, state := .draft }
  | marked {slot : TermoSignatorySlot} {index : Nat} {signatureId : Option Uuid}
      {now : OffsetDateTime} (signing : termo.state = .signing)
      (found : termo.signatories[index]? = some slot) (unsigned : slot.signed = false)
      (next : ∀ earlier ∈ termo.signatories, earlier.required = true →
        earlier.order < slot.order → earlier.signed = true) :
      Effect termo (.markSlotSigned slot.id signatureId now) { termo with
        signatories := termo.signatories.set index (slot.withSignature signatureId now) }
  | completed {now : OffsetDateTime} (signing : termo.state = .signing)
      (completable : termo.ensureCompletable = .ok ()) :
      Effect termo (.seal_ now) { termo with sealedAt := some now, state := .sealed }

theorem isMutable_iff {termo : TermoInstrument} :
    termo.isMutable = true ↔ termo.state = .draft := by
  rw [isMutable, beq_iff_eq]

theorem waitingSlots_eq_nil_iff {termo : TermoInstrument} {order : UInt16} :
    termo.waitingSlots order = [] ↔ ∀ earlier ∈ termo.signatories, earlier.required = true →
      earlier.order < order → earlier.signed = true := by
  simp only [waitingSlots, List.filter_eq_nil_iff, Bool.and_eq_true, Bool.not_eq_true',
    decide_eq_true_eq]
  constructor
  · intro settled earlier member required before
    by_contra unsigned
    exact settled earlier member ⟨⟨required, Bool.not_eq_true _ ▸ unsigned⟩, before⟩
  · intro signed earlier member ⟨⟨required, unsigned⟩, before⟩
    exact Bool.false_ne_true (unsigned.symm.trans (signed earlier member required before))

theorem markSlotSigned_effect (termo : TermoInstrument) (slotId : Uuid) (signatureId : Option Uuid)
    (now : OffsetDateTime) :
    termo.Effect (.markSlotSigned slotId signatureId now)
      (termo.markSlotSigned slotId signatureId now).2 := by
  unfold markSlotSigned
  split
  · exact .refused _
  rename_i signing
  split
  · exact .refused _
  rename_i slot index found
  split
  · exact .refused _
  rename_i unsigned
  split
  · exact .refused _
  rename_i none
  obtain rfl : slot.id = slotId := by simpa using List.find?_some found
  refine .marked (not_not.mp signing) ?_ (Bool.not_eq_true _ ▸ unsigned)
    (waitingSlots_eq_nil_iff.mp (List.argmin_eq_none.mp none))
  exact List.mk_mem_zipIdx_iff_getElem?.mp (List.mem_of_find?_eq_some found)

/-- **What a call does.** -/
theorem after_effect (termo : TermoInstrument) (call : TermoCall) :
    termo.Effect call (termo.after call) := by
  cases call with
  | setTitle title =>
      rw [after, call, setTitle]
      split
      · exact .edited (isMutable_iff.mp ‹_›) title termo.body termo.completionPolicy
      · exact .refused _
  | setBody body =>
      rw [after, call, setBody]
      split
      · exact .edited (isMutable_iff.mp ‹_›) termo.title body termo.completionPolicy
      · exact .refused _
  | addSignatory slot unsigned =>
      rw [after, call, addSignatory]
      split
      · exact .refused _
      rename_i drafting
      split
      · exact .refused _
      · exact .added (isMutable_iff.mp (by simpa using drafting))
  | setCompletionPolicy policy =>
      rw [after, call, setCompletionPolicy]
      split
      · exact .refused _
      rename_i drafting
      dsimp only
      split
      · exact .refused _
      · exact .edited (isMutable_iff.mp (by simpa using drafting)) termo.title termo.body policy
  | advanceToSigning templateId now =>
      rw [after, call, advanceToSigning]
      split
      · exact .refused _
      rename_i drafting
      split
      · exact .refused _
      · exact .frozen (not_not.mp drafting) ‹_›
  | withdrawToDraft =>
      rw [after, call, withdrawToDraft]
      split
      · exact .refused _
      rename_i signing
      split
      · exact .refused _
      rename_i unsigned
      refine .withdrawn (not_not.mp signing) fun slot member => ?_
      by_contra signed
      exact unsigned (List.any_eq_true.mpr ⟨slot, member, Bool.not_eq_false _ ▸ signed⟩)
  | markSlotSigned slotId signatureId now =>
    exact termo.markSlotSigned_effect slotId signatureId now
  | seal_ now =>
      rw [after, call, seal_]
      split
      · exact .refused _
      rename_i signing
      split
      · exact .refused _
      · exact .completed (not_not.mp signing) ‹_›

end TermoInstrument

end Chancela
