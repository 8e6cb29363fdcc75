import Chancela.Core.Termo
import Chancela.Foundation.Replace
import Chancela.Foundation.Run

/-! # The order of the signatures of a termo

A slot signs only when every earlier required slot has signed, so the signatures of
required slots are collected in slot order, and while a termo waits for signatures
some slot can sign. Optional slots are not waited for: a termo lists its signatures in
the order they were collected as long as no slot signs behind a later one
(`Chancela.TermoInstrument.signedInOrder_of_admissible`).
-/

namespace Chancela.TermoInstrument

open Checked Outcome

variable {termo : TermoInstrument}

theorem validate_eq_ok_iff :
    termo.validate = .ok () ↔ Text.isBlank termo.title = false ∧
      termo.title.length ≤ maxTermoTextChars ∧ termo.body ≠ [] ∧
      termo.body.length ≤ maxTermoClauses ∧ checkClauses [] termo.body = .ok () ∧
      termo.fields.validate termo.kind = .ok () ∧ termo.signatories ≠ [] ∧
      checkSlots [] [] termo.signatories = .ok () ∧ termo.requiredSlotCount ≠ 0 ∧
      termo.validatePolicy = .ok () := by
  simp only [validate, check_bind_eq_ok_iff, rejectIf_eq_ok_iff, Bool.not_eq_true, Nat.not_lt,
    ne_eq]

theorem checkSlots_eq_ok_iff {seenSlots : List Uuid} {seenOrders : List UInt16}
    {slots : List TermoSignatorySlot} :
    checkSlots seenSlots seenOrders slots = .ok () ↔
      (∀ slot ∈ slots, slot.id ∉ seenSlots ∧ slot.order ∉ seenOrders ∧ slot.validate = .ok ()) ∧
        (slots.map (·.id)).Nodup ∧ (slots.map (·.order)).Nodup := by
  induction slots generalizing seenSlots seenOrders with
  | nil => simp [checkSlots]
  | cons slot rest ih =>
      rw [List.forall_mem_cons]
      simp only [checkSlots, check_bind_eq_ok_iff, rejectIf_eq_ok_iff, ih, List.map_cons,
        List.nodup_cons, List.mem_cons, not_or, List.mem_map, not_exists, not_and]
      constructor
      · rintro ⟨newId, newOrder, valid, fresh, ids, orders⟩
        refine ⟨⟨⟨newId, newOrder, valid⟩, fun other member => ?_⟩,
          ⟨fun other member => ?_, ids⟩, fun other member => ?_, orders⟩
        · obtain ⟨⟨-, oldId⟩, ⟨-, oldOrder⟩, passes⟩ := fresh other member
          exact ⟨oldId, oldOrder, passes⟩
        · exact (fresh other member).1.1
        · exact (fresh other member).2.1.1
      · rintro ⟨⟨⟨newId, newOrder, valid⟩, fresh⟩, ⟨otherIds, ids⟩, otherOrders, orders⟩
        refine ⟨newId, newOrder, valid, fun other member => ?_, ids, orders⟩
        obtain ⟨oldId, oldOrder, passes⟩ := fresh other member
        exact ⟨⟨otherIds other member, oldId⟩, ⟨otherOrders other member, oldOrder⟩, passes⟩

/-- What a frozen termo keeps of its slots: all but the signatures. -/
def Frozen (termo : TermoInstrument) : Prop :=
  (termo.signatories.map (·.id)).Nodup ∧ (termo.signatories.map (·.order)).Nodup ∧
    termo.requiredSlotCount ≠ 0 ∧ termo.satisfiesManagementFloor = true

/-- The state every run of a termo is in: drafts are unsigned, a frozen termo has
passed validation, and signatures follow the required slots. -/
structure Orderly (termo : TermoInstrument) : Prop where
  unsigned : termo.state = .draft → ∀ slot ∈ termo.signatories, slot.signed = false
  frozen : termo.state ≠ .draft → termo.Frozen
  stamped : ∀ slot ∈ termo.signatories, slot.signed = true → slot.signedAt.isSome = true
  earlier : ∀ slot ∈ termo.signatories, slot.signed = true → ∀ before ∈ termo.signatories,
    before.required = true → before.order < slot.order → before.signed = true
  completed : termo.state = .sealed → termo.ensureCompletable = .ok ()

theorem orderly_draft (id : Uuid) (bookId : BookId) (kind : TermoKind) (title : String)
    (createdAt : OffsetDateTime) : (draft id bookId kind title createdAt).Orderly where
  unsigned := fun _ _ member => by cases member
  frozen := fun drafted => (drafted rfl).elim
  stamped := fun _ member => by cases member
  earlier := fun _ member => by cases member
  completed := fun isSealed => by cases isSealed

theorem requiredSlotCount_eq_zero_iff : termo.requiredSlotCount = 0 ↔ termo.requiredSlots = [] := by
  rw [← UInt16.toNat_inj, requiredSlotCount, toNat_saturatingCount, ← List.length_eq_zero_iff]
  have zero : (0 : UInt16).toNat = 0 := rfl
  omega

theorem frozen_of_validate (valid : termo.validate = .ok ()) : termo.Frozen := by
  obtain ⟨-, -, -, -, -, -, -, slots, occupied, policy⟩ := validate_eq_ok_iff.mp valid
  obtain ⟨-, ids, orders⟩ := checkSlots_eq_ok_iff.mp slots
  refine ⟨ids, orders, occupied, ?_⟩
  by_contra floor
  have positive : termo.requiredSlotCount > 0 := UInt16.pos_iff_ne_zero.mpr occupied
  simp only [validatePolicy, ite_error_eq_ok_iff] at policy
  exact policy.2.1 ⟨positive, Bool.not_eq_true _ ▸ floor⟩

theorem length_requiredSlots (termo : TermoInstrument) :
    termo.requiredSlots.length = termo.signatories.countP (·.required) := by
  rw [requiredSlots, List.countP_eq_length_filter]

theorem length_managementSlots (termo : TermoInstrument) :
    termo.managementSlots.length = termo.signatories.countP
      fun slot => isManagementCapacity slot.capacity && slot.required := by
  rw [managementSlots, requiredSlots, List.filter_filter, List.countP_eq_length_filter]

section Signature

variable {termo : TermoInstrument} {slot : TermoSignatorySlot} {index : Nat}
  (found : termo.signatories[index]? = some slot) (signatureId : Option Uuid)
  (now : OffsetDateTime)

def withSignature (termo : TermoInstrument) (index : Nat) (slot : TermoSignatorySlot)
    (signatureId : Option Uuid) (now : OffsetDateTime) : TermoInstrument :=
  { termo with signatories := termo.signatories.set index (slot.withSignature signatureId now) }

include found

theorem countP_withSignature (counted : TermoSignatorySlot → Bool)
    (same : counted (slot.withSignature signatureId now) = counted slot) :
    (termo.withSignature index slot signatureId now).signatories.countP counted =
      termo.signatories.countP counted := Replace.countP_set_eq counted found same

theorem requiredSlotCount_withSignature :
    (termo.withSignature index slot signatureId now).requiredSlotCount =
      termo.requiredSlotCount := by
  rw [requiredSlotCount, requiredSlotCount, length_requiredSlots, length_requiredSlots,
    countP_withSignature found signatureId now _ rfl]

theorem satisfiesManagementFloor_withSignature :
    (termo.withSignature index slot signatureId now).satisfiesManagementFloor =
      termo.satisfiesManagementFloor := by
  have management : (termo.withSignature index slot signatureId now).managementSlots.length =
      termo.managementSlots.length := by
    rw [length_managementSlots, length_managementSlots,
      countP_withSignature found signatureId now _ rfl]
  rw [satisfiesManagementFloor, requiredSlotCount_withSignature found, management]
  rfl

theorem frozen_withSignature (frozen : termo.Frozen) :
    (termo.withSignature index slot signatureId now).Frozen := by
  obtain ⟨ids, orders, occupied, floor⟩ := frozen
  refine ⟨Replace.nodup_map_set ids found rfl, Replace.nodup_map_set orders found rfl, ?_, ?_⟩
  · rw [requiredSlotCount_withSignature found]
    exact occupied
  · rw [satisfiesManagementFloor_withSignature found]
    exact floor

theorem Orderly.withSignature (orderly : termo.Orderly) (signing : termo.state = .signing)
    (next : ∀ earlier ∈ termo.signatories, earlier.required = true →
      earlier.order < slot.order → earlier.signed = true) :
    (termo.withSignature index slot signatureId now).Orderly where
  unsigned := fun drafting => by cases signing.symm.trans drafting
  frozen := fun drafted => frozen_withSignature found signatureId now (orderly.frozen drafted)
  stamped := by
    intro other member signed
    rcases List.mem_or_eq_of_mem_set member with kept | rfl
    · exact orderly.stamped other kept signed
    · rfl
  earlier := by
    intro other member signed before earlier required order
    rcases List.mem_or_eq_of_mem_set earlier with listed | rfl
    · rcases List.mem_or_eq_of_mem_set member with kept | rfl
      · exact orderly.earlier other kept signed before listed required order
      · exact next before listed required order
    · rfl
  completed := fun isSealed => by cases signing.symm.trans isSealed

end Signature

/-- **Every call keeps a termo orderly.** -/
theorem Orderly.after (orderly : termo.Orderly) (call : TermoCall) :
    (termo.after call).Orderly := by
  have effect := termo.after_effect call
  generalize termo.after call = result at effect
  cases effect with
  | refused call => exact orderly
  | edited drafting title body policy =>
      exact ⟨orderly.unsigned, fun drafted => (drafted drafting).elim, orderly.stamped,
        orderly.earlier, fun isSealed => by cases drafting.symm.trans isSealed⟩
  | added drafting =>
      rename_i slot unsigned
      have allUnsigned : ∀ other ∈ termo.signatories ++ [slot], other.signed = false := by
        intro other member
        rcases List.mem_append.mp member with kept | new
        · exact orderly.unsigned drafting other kept
        · rw [List.mem_singleton.mp new]
          exact unsigned
      exact ⟨fun _ => allUnsigned, fun drafted => (drafted drafting).elim,
        fun other member signed => (Bool.false_ne_true ((allUnsigned other member).symm.trans
          signed)).elim,
        fun other member signed => (Bool.false_ne_true ((allUnsigned other member).symm.trans
          signed)).elim,
        fun isSealed => by cases drafting.symm.trans isSealed⟩
  | frozen drafting valid =>
      exact ⟨fun signing => (by cases signing), fun _ => frozen_of_validate valid, orderly.stamped,
        orderly.earlier, fun isSealed => by cases isSealed⟩
  | withdrawn signing unsigned =>
      exact ⟨fun _ => unsigned, fun drafted => (drafted rfl).elim, orderly.stamped,
        orderly.earlier, fun isSealed => by cases isSealed⟩
  | marked signing found unsigned next =>
      exact orderly.withSignature found _ _ signing next
  | completed signing completable =>
      have drafted : termo.state ≠ .draft := fun drafting => by cases signing.symm.trans drafting
      exact ⟨fun drafting => (by cases drafting), fun _ => orderly.frozen drafted, orderly.stamped,
        orderly.earlier, fun _ => completable⟩

end Chancela.TermoInstrument

namespace Chancela

def TermoCall.now? : TermoCall → Option OffsetDateTime
  | .advanceToSigning _ now | .markSlotSigned _ _ now | .seal_ now => some now
  | _ => none

/-- The clock never goes back from one call to the next. -/
def TermoCall.ClockNondecreasing (calls : List TermoCall) : Prop :=
  (calls.filterMap TermoCall.now?).Pairwise fun first second =>
    first.unixTimestampNanos ≤ second.unixTimestampNanos

namespace TermoInstrument

open Checked

/-- The sequential signing of a frozen termo. -/
structure SignedInOrder (termo : TermoInstrument) : Prop where
  earlier : ∀ slot ∈ termo.signatories, slot.signed = true → ∀ before ∈ termo.signatories,
    before.required = true → before.order < slot.order → before.signed = true
  complete : (termo.collectedSignatureRecords.map (·.slotId)).Perm
    ((termo.signatories.filter (·.signed)).map (·.id))
  chronological : termo.collectedSignatureRecords.Pairwise fun first second =>
    first.signedAt.unixTimestampNanos ≤ second.signedAt.unixTimestampNanos
  live : termo.state = .signing → termo.ensureCompletable ≠ .ok () →
    ∃ slot ∈ termo.signatories, ∀ signatureId now,
      (termo.markSlotSigned slot.id signatureId now).1 = .ok ()

/-- A slot is signed while no slot of a later order has signed. -/
def SignsInTurn (termo : TermoInstrument) : TermoCall → Prop
  | .markSlotSigned slotId _ _ => termo.state = .signing → ∀ slot ∈ termo.signatories,
      slot.id = slotId → slot.signed = false → ∀ later ∈ termo.signatories,
        slot.order < later.order → later.signed = false
  | _ => True

instance (termo : TermoInstrument) : (call : TermoCall) → Decidable (termo.SignsInTurn call)
  | .markSlotSigned slotId _ _ => inferInstanceAs (Decidable (termo.state = .signing →
      ∀ slot ∈ termo.signatories, slot.id = slotId → slot.signed = false →
        ∀ later ∈ termo.signatories, slot.order < later.order → later.signed = false))
  | .setTitle _ | .setBody _ | .addSignatory _ _ | .setCompletionPolicy _ | .advanceToSigning _ _
  | .withdrawToDraft | .seal_ _ => .isTrue trivial

theorem threshold_le (policy : TermoCompletionPolicy) (count : UInt16) :
    (policy.threshold count).toNat ≤ count.toNat := by
  have smaller : ∀ n : UInt16, (min n count).toNat ≤ count.toNat := by
    intro n
    change (if n ≤ count then n else count).toNat ≤ count.toNat
    split
    · exact UInt16.le_iff_toNat_le.mp ‹_›
    · exact Nat.le_refl _
  cases policy with
  | allRequired => exact Nat.le_refl _
  | atLeast n => exact smaller n
  | singleQualifying => exact smaller 1

variable {termo : TermoInstrument}

theorem exists_unsigned (occupied : termo.requiredSlotCount ≠ 0)
    (incomplete : termo.ensureCompletable ≠ .ok ()) :
    ∃ slot ∈ termo.requiredSlots, slot.signed = false := by
  by_contra settled
  have allSigned : termo.signedRequiredSlots = termo.requiredSlots := by
    rw [signedRequiredSlots, List.filter_eq_self]
    intro slot member
    by_contra unsigned
    exact settled ⟨slot, member, Bool.not_eq_true _ ▸ unsigned⟩
  apply incomplete
  rw [ensureCompletable, if_neg occupied, allSigned]
  apply if_neg
  rw [UInt16.lt_iff_toNat_lt, Nat.not_lt]
  exact threshold_le _ _

theorem markSlotSigned_eq (signing : termo.state = .signing)
    (ids : (termo.signatories.map (·.id)).Nodup) {slot : TermoSignatorySlot} {index : Nat}
    (present : termo.signatories[index]? = some slot) (unsigned : slot.signed = false)
    (turn : termo.waitingSlots slot.order = []) (signatureId : Option Uuid) (now : OffsetDateTime) :
    termo.markSlotSigned slot.id signatureId now =
      (.ok (), termo.withSignature index slot signatureId now) := by
  have located : termo.signatories.zipIdx.find? (fun indexed => indexed.1.id = slot.id) =
      some (slot, index) := by
    cases first : termo.signatories.zipIdx.find? (fun indexed => indexed.1.id = slot.id) with
    | none =>
        have listed := List.mk_mem_zipIdx_iff_getElem?.mpr present
        exact (List.find?_eq_none.mp first (slot, index) listed (decide_eq_true rfl)).elim
    | some entry =>
        obtain ⟨other, position⟩ := entry
        have sameId : other.id = slot.id := by simpa using List.find?_some first
        have elsewhere : termo.signatories[position]? = some other :=
          List.mk_mem_zipIdx_iff_getElem?.mp (List.mem_of_find?_eq_some first)
        obtain rfl := List.inj_on_of_nodup_map ids (List.mem_of_getElem? elsewhere)
          (List.mem_of_getElem? present) sameId
        have inside := (List.getElem?_eq_some_iff.mp elsewhere).1
        rw [(List.getElem?_inj inside (List.Nodup.of_map _ ids)).mp
          (elsewhere.trans present.symm)]
  rw [markSlotSigned, if_neg (not_not.mpr signing), located]
  simp only [unsigned, Bool.false_eq_true, if_false, turn, List.argmin_nil]
  rfl

/-- **Signing does not get stuck.** Some slot can sign while the termo waits for
signatures: the first unsigned required one. -/
theorem exists_markSlotSigned_ok (signing : termo.state = .signing) (frozen : termo.Frozen)
    (incomplete : termo.ensureCompletable ≠ .ok ()) :
    ∃ slot ∈ termo.signatories, ∀ signatureId now,
      (termo.markSlotSigned slot.id signatureId now).1 = .ok () := by
  obtain ⟨ids, -, occupied, -⟩ := frozen
  obtain ⟨waiting, listed, open_⟩ := exists_unsigned occupied incomplete
  have some_ : (termo.requiredSlots.filter fun slot => !slot.signed) ≠ [] :=
    List.ne_nil_of_mem (List.mem_filter.mpr ⟨listed, by rw [open_]; rfl⟩)
  obtain ⟨first, least⟩ := Option.ne_none_iff_exists'.mp
    (mt (List.argmin_eq_none (f := fun slot : TermoSignatorySlot => slot.order.toNat)).mp some_)
  obtain ⟨isRequired, unsigned⟩ := List.mem_filter.mp (List.argmin_mem least)
  have member : first ∈ termo.signatories := (List.mem_filter.mp isRequired).1
  obtain ⟨index, inside, same⟩ := List.getElem_of_mem member
  have present := List.getElem?_eq_some_iff.mpr ⟨inside, same⟩
  have turn : termo.waitingSlots first.order = [] := by
    rw [waitingSlots_eq_nil_iff]
    intro earlier inside required before
    by_contra open_
    have candidate : earlier ∈ termo.requiredSlots.filter fun slot => !slot.signed :=
      List.mem_filter.mpr ⟨List.mem_filter.mpr ⟨inside, required⟩, by simpa using open_⟩
    have order := List.le_of_mem_argmin candidate least
    have smaller := UInt16.lt_iff_toNat_lt.mp before
    omega
  refine ⟨first, member, fun signatureId now => ?_⟩
  rw [markSlotSigned_eq signing ids present (by simpa using unsigned) turn]

def Chronological (termo : TermoInstrument) : Prop :=
  ∀ first ∈ termo.signatories, ∀ second ∈ termo.signatories, first.signed = true →
    second.signed = true → first.order < second.order → ∀ time ∈ first.signedAt,
      ∀ time' ∈ second.signedAt, time.unixTimestampNanos ≤ time'.unixTimestampNanos

/-- The signatures were collected before every reading of the clock still to come. -/
def Behind (termo : TermoInstrument) (ahead : List TermoCall) : Prop :=
  ∀ slot ∈ termo.signatories, slot.signed = true → ∀ time ∈ slot.signedAt,
    ∀ now ∈ ahead.filterMap TermoCall.now?, time.unixTimestampNanos ≤ now.unixTimestampNanos

/-- What holds of a termo and of the calls it has not yet seen. -/
structure Timely (termo : TermoInstrument) (ahead : List TermoCall) : Prop where
  orderly : termo.Orderly
  chronological : termo.Chronological
  behind : termo.Behind ahead
  clock : TermoCall.ClockNondecreasing ahead

theorem ClockNondecreasing.tail {call : TermoCall} {rest : List TermoCall}
    (clock : TermoCall.ClockNondecreasing (call :: rest)) : TermoCall.ClockNondecreasing rest :=
  clock.sublist ((List.sublist_cons_self call rest).filterMap _)

theorem Behind.tail {call : TermoCall} {rest : List TermoCall}
    (behind : termo.Behind (call :: rest)) : termo.Behind rest := by
  intro slot member signed time stamp now later
  exact behind slot member signed time stamp now
    (((List.sublist_cons_self call rest).filterMap _).subset later)

theorem Timely.of_signed_subset {termo result : TermoInstrument} {call : TermoCall}
    {rest : List TermoCall} (timely : termo.Timely (call :: rest)) (orderly : result.Orderly)
    (kept : ∀ slot ∈ result.signatories, slot.signed = true → slot ∈ termo.signatories) :
    result.Timely rest where
  orderly := orderly
  chronological := fun first member second member' signed signed' =>
    timely.chronological first (kept first member signed) second (kept second member' signed')
      signed signed'
  behind := fun slot member signed => timely.behind.tail slot (kept slot member signed) signed
  clock := ClockNondecreasing.tail timely.clock

theorem Timely.withSignature {slot : TermoSignatorySlot} {index : Nat} {signatureId : Option Uuid}
    {now : OffsetDateTime} {rest : List TermoCall}
    (timely : termo.Timely (.markSlotSigned slot.id signatureId now :: rest))
    (orderly : (termo.withSignature index slot signatureId now).Orderly)
    (last : ∀ later ∈ termo.signatories, slot.order < later.order → later.signed = false) :
    (termo.withSignature index slot signatureId now).Timely rest where
  orderly := orderly
  chronological := by
    intro first member second member' signed signed' order time stamp time' stamp'
    rcases List.mem_or_eq_of_mem_set member with kept | rfl
    · rcases List.mem_or_eq_of_mem_set member' with kept' | rfl
      · exact timely.chronological first kept second kept' signed signed' order time stamp time'
          stamp'
      · obtain rfl : now = time' := Option.some.inj stamp'
        exact timely.behind first kept signed time stamp now List.mem_cons_self
    · rcases List.mem_or_eq_of_mem_set member' with kept' | rfl
      · exact (Bool.false_ne_true ((last second kept' order).symm.trans signed')).elim
      · exact (UInt16.lt_irrefl _ order).elim
  behind := by
    intro other member signed time stamp reading later
    rcases List.mem_or_eq_of_mem_set member with kept | rfl
    · exact timely.behind.tail other kept signed time stamp reading later
    · obtain rfl : now = time := Option.some.inj stamp
      exact (List.pairwise_cons.mp timely.clock).1 reading later
  clock := ClockNondecreasing.tail timely.clock

/-- **One call.** Signing in turn keeps the signatures in the order of the slots. -/
theorem Timely.after {call : TermoCall} {rest : List TermoCall}
    (timely : termo.Timely (call :: rest)) (turn : termo.SignsInTurn call) :
    (termo.after call).Timely rest := by
  have orderly := timely.orderly.after call
  have effect := termo.after_effect call
  generalize termo.after call = result at effect orderly
  cases effect with
  | refused => exact timely.of_signed_subset orderly fun _ member _ => member
  | edited => exact timely.of_signed_subset orderly fun _ member _ => member
  | added drafting =>
      rename_i slot unsigned
      apply timely.of_signed_subset orderly
      intro other member signed
      rcases List.mem_append.mp member with kept | new
      · exact kept
      · rw [List.mem_singleton.mp new, unsigned] at signed
        cases signed
  | frozen => exact timely.of_signed_subset orderly fun _ member _ => member
  | withdrawn => exact timely.of_signed_subset orderly fun _ member _ => member
  | marked signing found unsigned next =>
      exact timely.withSignature orderly
        (turn signing _ (List.mem_of_getElem? found) rfl unsigned)
  | completed => exact timely.of_signed_subset orderly fun _ member _ => member

instance : Std.Total fun first second : TermoSignatorySlot => first.order ≤ second.order :=
  ⟨fun first second => UInt16.le_total first.order second.order⟩

instance : IsTrans TermoSignatorySlot fun first second => first.order ≤ second.order :=
  ⟨fun _ _ _ => UInt16.le_trans⟩

theorem signed_of_toCollectedRecord {slot : TermoSignatorySlot} {record : TermoCollectedSignature}
    (recorded : slot.toCollectedRecord = some record) :
    slot.signed = true ∧ slot.signedAt = some record.signedAt := by
  obtain ⟨time, stamp, recorded⟩ := Option.bind_eq_some_iff.mp recorded
  split at recorded
  · obtain rfl := Option.some.inj recorded
    exact ⟨‹_›, stamp⟩
  · cases recorded

theorem Orderly.collected_perm (orderly : termo.Orderly) :
    (termo.collectedSignatureRecords.map (·.slotId)).Perm
      ((termo.signatories.filter (·.signed)).map (·.id)) := by
  have listed : ∀ slots : List TermoSignatorySlot,
      (∀ slot ∈ slots, slot.signed = true → slot.signedAt.isSome = true) →
        (slots.filterMap TermoSignatorySlot.toCollectedRecord).map (·.slotId) =
          (slots.filter (·.signed)).map (·.id) := by
    intro slots
    induction slots with
    | nil => exact fun _ => rfl
    | cons slot rest ih =>
        intro stamped
        obtain ⟨stamp, others⟩ := List.forall_mem_cons.mp stamped
        cases signed : slot.signed with
        | false =>
            have absent : slot.toCollectedRecord = none := by
              cases time : slot.signedAt <;>
                simp [TermoSignatorySlot.toCollectedRecord, time, signed]
            simp [absent, signed, ih others]
        | true =>
            obtain ⟨time, stampedAt⟩ := Option.isSome_iff_exists.mp (stamp signed)
            simp [TermoSignatorySlot.toCollectedRecord, stampedAt, signed, ih others]
  have sorted := List.perm_insertionSort
    (fun first second : TermoSignatorySlot => first.order ≤ second.order) termo.signatories
  rw [collectedSignatureRecords, listed _ fun slot member =>
    orderly.stamped slot (sorted.mem_iff.mp member)]
  exact (sorted.filter _).map _

theorem collected_pairwise (orders : (termo.signatories.map (·.order)).Nodup)
    (chronological : termo.Chronological) :
    termo.collectedSignatureRecords.Pairwise fun first second =>
      first.signedAt.unixTimestampNanos ≤ second.signedAt.unixTimestampNanos := by
  have sorted := List.perm_insertionSort
    (fun first second : TermoSignatorySlot => first.order ≤ second.order) termo.signatories
  have ascending := List.pairwise_insertionSort
    (fun first second : TermoSignatorySlot => first.order ≤ second.order) termo.signatories
  have distinct := List.pairwise_map.mp ((sorted.map (·.order)).nodup_iff.mpr orders)
  rw [collectedSignatureRecords, List.pairwise_filterMap]
  apply (ascending.and distinct).imp_of_mem
  intro first second member member' ⟨atMost, apart⟩ record recorded record' recorded'
  obtain ⟨signed, stamp⟩ := signed_of_toCollectedRecord recorded
  obtain ⟨signed', stamp'⟩ := signed_of_toCollectedRecord recorded'
  have order : first.order < second.order :=
    UInt16.lt_of_le_of_ne atMost apart
  exact chronological first (sorted.mem_iff.mp member) second (sorted.mem_iff.mp member') signed
    signed' order _ stamp _ stamp'

/-- **Sequential signing.** When every slot signs in turn and the clock does not go
back, a frozen termo lists its signatures in the order they were collected, and signing
never gets stuck. -/
theorem signedInOrder_of_admissible (id : Uuid) (bookId : BookId) (kind : TermoKind)
    (title : String) (createdAt : OffsetDateTime) (calls : List TermoCall)
    (clock : TermoCall.ClockNondecreasing calls)
    (turns : Run.Admissible after SignsInTurn (draft id bookId kind title createdAt) calls) :
    ∀ termo ∈ Run.states after (draft id bookId kind title createdAt) calls,
      termo.state ≠ .draft → termo.SignedInOrder := by
  intro termo member drafted
  have initial : (draft id bookId kind title createdAt).Timely calls :=
    ⟨orderly_draft id bookId kind title createdAt, fun _ member => (by cases member),
      fun _ member => (by cases member), clock⟩
  obtain ⟨ahead, timely⟩ := Run.forall_mem_states_ahead
    (fun _ _ _ timely turn => Timely.after timely turn) initial turns termo member
  have frozen := timely.orderly.frozen drafted
  exact {
    earlier := timely.orderly.earlier
    complete := timely.orderly.collected_perm
    chronological := collected_pairwise frozen.2.1 timely.chronological
    live := fun signing => exists_markSlotSigned_ok signing frozen }

def openingDraft : TermoInstrument :=
  draft ⟨9#128⟩ ⟨0x22222222222222222222222222222222#128⟩ .abertura "Termo de abertura"
    ⟨2026, 1, 2, 9, 0, 0, 0, 0⟩

def openingBody : List TermoClause := [⟨⟨8#128⟩, none, "Abre-se o livro.", .userAdded⟩]

def managerSlot (order : UInt16) : TermoSignatorySlot :=
  .required_ ⟨1#128⟩ "Amélia Marques" .manager order

def secretarySlot (order : UInt16) : TermoSignatorySlot :=
  { TermoSignatorySlot.required_ ⟨2#128⟩ "Rui Secretário" .secretary order with required := false }

/-- The manager signs at ten and the secretary at eleven, from slots of given
orders. -/
def managerThenSecretary (manager secretary : UInt16) : List TermoCall :=
  [.setBody openingBody, .addSignatory (managerSlot manager) rfl,
    .addSignatory (secretarySlot secretary) rfl,
    .advanceToSigning "termo-abertura/v1" ⟨2026, 1, 2, 9, 30, 0, 0, 0⟩,
    .markSlotSigned ⟨1#128⟩ none ⟨2026, 1, 2, 10, 0, 0, 0, 0⟩,
    .markSlotSigned ⟨2#128⟩ none ⟨2026, 1, 2, 11, 0, 0, 0, 0⟩]

theorem clockNondecreasing_managerThenSecretary (manager secretary : UInt16) :
    TermoCall.ClockNondecreasing (managerThenSecretary manager secretary) := by
  change List.Pairwise _ [_, _, _]
  decide

theorem signedInOrder_managerThenSecretary :
    (Run.Admissible after SignsInTurn openingDraft (managerThenSecretary 0 1)) ∧
      ∀ termo ∈ Run.states after openingDraft (managerThenSecretary 0 1),
        termo.state ≠ .draft → termo.SignedInOrder := by
  have turns : Run.Admissible after SignsInTurn openingDraft (managerThenSecretary 0 1) := by
    decide +kernel
  exact ⟨turns, signedInOrder_of_admissible _ _ _ _ _ _
    (clockNondecreasing_managerThenSecretary 0 1) turns⟩

/-- A secretary in the first slot who signs after the manager is listed first. -/
theorem not_signedInOrder_secretary_late :
    TermoCall.ClockNondecreasing (managerThenSecretary 1 0) ∧
      ¬∀ termo ∈ Run.states after openingDraft (managerThenSecretary 1 0),
        termo.state ≠ .draft → termo.SignedInOrder := by
  refine ⟨clockNondecreasing_managerThenSecretary 1 0, fun inOrder => ?_⟩
  have last := inOrder _ (Run.foldl_mem_states _ _) (by decide +kernel)
  have listed := last.chronological
  revert listed
  decide +kernel

end TermoInstrument

end Chancela
