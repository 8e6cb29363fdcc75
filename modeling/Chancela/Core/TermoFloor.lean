import Chancela.Core.TermoOrder
import Mathlib.Algebra.Group.Nat.Defs
import Mathlib.Data.Fintype.Card

/-! # The management floor of a termo

A policy passes validation when it asks for more signatures than the required slots
outside the management can supply. The counts are 16-bit and saturate, and slot orders
allow one required slot more than they can count. A termo with that many slots can
settle for the others when they all sign before the management; every other sealed
termo carries the signature of a manager or administrator
(`Chancela.TermoInstrument.managementSigned_of_admissible`).
-/

namespace Chancela.TermoInstrument

open Checked

/-- A required slot of a management capacity has signed. -/
def ManagementSigned (termo : TermoInstrument) : Prop :=
  ∃ slot ∈ termo.signatories, slot.required = true ∧ isManagementCapacity slot.capacity = true ∧
    slot.signed = true

def otherSlots (termo : TermoInstrument) : List TermoSignatorySlot :=
  termo.requiredSlots.filter fun slot => !isManagementCapacity slot.capacity

/-- The required slots are one more than their count, the policy settles for as many
as are outside the management, and the management signs last. -/
structure Overfull (termo : TermoInstrument) : Prop where
  saturated : termo.requiredSlots.length = 2 ^ 16
  settles : (termo.completionPolicy.threshold termo.requiredSlotCount).toNat =
    termo.otherSlots.length
  last : ∀ manager ∈ termo.managementSlots, ∀ other ∈ termo.otherSlots,
    other.order < manager.order

def FloorCounts (termo : TermoInstrument) : TermoCall → Prop
  | .advanceToSigning _ _ => termo.validate = .ok () → ¬termo.Overfull
  | _ => True

theorem length_le_of_nodup_orders {slots : List TermoSignatorySlot}
    (orders : (slots.map (·.order)).Nodup) : slots.length ≤ 2 ^ 16 := by
  have distinct : ((slots.map (·.order)).map UInt16.toFin).Nodup :=
    orders.map fun _ _ same => UInt16.toFin_inj.mp same
  have bounded := distinct.length_le_card
  rwa [List.length_map, List.length_map, Fintype.card_fin] at bounded

variable {termo : TermoInstrument}

theorem length_requiredSlots_le (frozen : termo.Frozen) : termo.requiredSlots.length ≤ 2 ^ 16 := by
  have all := length_le_of_nodup_orders frozen.2.1
  have some_ : termo.requiredSlots.length ≤ termo.signatories.length := List.length_filter_le _ _
  omega

theorem length_managementSlots_add (termo : TermoInstrument) :
    termo.managementSlots.length + termo.otherSlots.length = termo.requiredSlots.length := by
  rw [managementSlots, otherSlots, ← List.countP_eq_length_filter, ← List.countP_eq_length_filter]
  have parts := List.length_eq_countP_add_countP
    (fun slot : TermoSignatorySlot => isManagementCapacity slot.capacity) (l := termo.requiredSlots)
  simp only [Bool.not_eq_true, Bool.decide_eq_false] at parts
  exact parts.symm

theorem floor_spec (floor : termo.satisfiesManagementFloor = true) :
    0 < termo.managementSlots.length ∧
      min termo.requiredSlots.length (2 ^ 16 - 1) - min termo.managementSlots.length (2 ^ 16 - 1) <
        (termo.completionPolicy.threshold termo.requiredSlotCount).toNat := by
  unfold satisfiesManagementFloor at floor
  dsimp only at floor
  split at floor
  · cases floor
  rename_i positive
  have total := termo.length_managementSlots_add
  have management := toNat_saturatingCount termo.managementSlots.length
  have required : termo.requiredSlotCount.toNat = min termo.requiredSlots.length (2 ^ 16 - 1) :=
    toNat_saturatingCount _
  rw [← UInt16.toNat_inj, management] at positive
  have exceeds := UInt16.lt_iff_toNat_lt.mp (of_decide_eq_true floor)
  have smaller : saturatingCount termo.managementSlots.length ≤ termo.requiredSlotCount := by
    rw [UInt16.le_iff_toNat_le, management, required]
    omega
  rw [UInt16.toNat_sub_of_le _ _ smaller, management, required] at exceeds
  have zero : (0 : UInt16).toNat = 0 := rfl
  exact ⟨by omega, exceeds⟩

theorem completable_spec (completable : termo.ensureCompletable = .ok ()) :
    (termo.completionPolicy.threshold termo.requiredSlotCount).toNat ≤
      min termo.signedRequiredSlots.length (2 ^ 16 - 1) := by
  unfold ensureCompletable at completable
  split at completable
  · cases completable
  split at completable
  · cases completable
  rename_i enough
  rwa [UInt16.lt_iff_toNat_lt, Nat.not_lt, toNat_saturatingCount] at enough

theorem signedRequiredSlots_sublist (unmanaged : ¬termo.ManagementSigned) :
    termo.signedRequiredSlots.Sublist termo.otherSlots := by
  have others : termo.signedRequiredSlots =
      (termo.otherSlots.filter fun slot => slot.signed) := by
    rw [signedRequiredSlots, otherSlots, List.filter_filter]
    apply List.filter_congr
    intro slot member
    obtain ⟨listed, required⟩ := List.mem_filter.mp member
    cases signed : slot.signed with
    | false => rfl
    | true =>
        cases management : isManagementCapacity slot.capacity with
        | false => rfl
        | true => exact (unmanaged ⟨slot, listed, required, management, signed⟩).elim
  rw [others]
  exact List.filter_sublist

/-- **The pigeonhole behind the floor.** A completable termo without a management
signature is overfull. -/
theorem overfull_of_unmanaged (frozen : termo.Frozen)
    (earlier : ∀ slot ∈ termo.signatories, slot.signed = true → ∀ before ∈ termo.signatories,
      before.required = true → before.order < slot.order → before.signed = true)
    (completable : termo.ensureCompletable = .ok ()) (unmanaged : ¬termo.ManagementSigned) :
    termo.Overfull := by
  obtain ⟨managed, floor⟩ := floor_spec frozen.2.2.2
  have enough := completable_spec completable
  have total := termo.length_managementSlots_add
  have bound := length_requiredSlots_le frozen
  have among := signedRequiredSlots_sublist unmanaged
  have fewer := among.length_le
  have all : termo.signedRequiredSlots = termo.otherSlots := by
    apply among.eq_of_length
    omega
  refine ⟨by omega, by omega, fun manager manages other works => ?_⟩
  obtain ⟨isRequired, management⟩ := List.mem_filter.mp manages
  obtain ⟨listed, required⟩ := List.mem_filter.mp isRequired
  obtain ⟨isRequired', otherwise⟩ := List.mem_filter.mp works
  have listed' := (List.mem_filter.mp isRequired').1
  have signed : other.signed = true := (List.mem_filter.mp (all ▸ works)).2
  rcases Nat.lt_trichotomy other.order.toNat manager.order.toNat with before | same | after
  · exact UInt16.lt_iff_toNat_lt.mpr before
  · have equal := List.inj_on_of_nodup_map frozen.2.1 listed' listed (UInt16.toNat_inj.mp same)
    rw [equal, management] at otherwise
    cases otherwise
  · have managed := earlier other listed' signed manager listed required
      (UInt16.lt_iff_toNat_lt.mpr after)
    exact (unmanaged ⟨manager, listed, required, management, managed⟩).elim

theorem length_otherSlots (termo : TermoInstrument) :
    termo.otherSlots.length = termo.signatories.countP
      fun slot => !isManagementCapacity slot.capacity && slot.required := by
  rw [otherSlots, requiredSlots, List.filter_filter, List.countP_eq_length_filter]

theorem exists_same_place {slot : TermoSignatorySlot} {index : Nat}
    (found : termo.signatories[index]? = some slot) (signatureId : Option Uuid)
    (now : OffsetDateTime) {other : TermoSignatorySlot} (member : other ∈ termo.signatories) :
    ∃ twin ∈ (termo.withSignature index slot signatureId now).signatories,
      twin.required = other.required ∧ twin.capacity = other.capacity ∧
        twin.order = other.order := by
  let place (slot : TermoSignatorySlot) := (slot.required, slot.capacity, slot.order)
  have places : (termo.signatories.set index (slot.withSignature signatureId now)).map place =
      termo.signatories.map place := Replace.map_set_eq place found rfl
  have listed : place other ∈ termo.signatories.map place := List.mem_map_of_mem member
  rw [← places] at listed
  obtain ⟨twin, kept, same⟩ := List.mem_map.mp listed
  obtain ⟨required, capacity, order⟩ :
      twin.required = other.required ∧ twin.capacity = other.capacity ∧
        twin.order = other.order := by
    simpa [place] using same
  exact ⟨twin, kept, required, capacity, order⟩

theorem overfull_of_withSignature {slot : TermoSignatorySlot} {index : Nat}
    (found : termo.signatories[index]? = some slot) {signatureId : Option Uuid}
    {now : OffsetDateTime} (overfull : (termo.withSignature index slot signatureId now).Overfull) :
    termo.Overfull where
  saturated := by
    rw [← overfull.saturated, length_requiredSlots, length_requiredSlots,
      countP_withSignature found signatureId now _ rfl]
  settles := by
    have same := overfull.settles
    rw [requiredSlotCount_withSignature found, length_otherSlots,
      countP_withSignature found signatureId now _ rfl, ← length_otherSlots] at same
    exact same
  last := by
    intro manager manages other works
    obtain ⟨isRequired, management⟩ := List.mem_filter.mp manages
    obtain ⟨listed, required⟩ := List.mem_filter.mp isRequired
    obtain ⟨isRequired', otherwise⟩ := List.mem_filter.mp works
    obtain ⟨listed', required'⟩ := List.mem_filter.mp isRequired'
    obtain ⟨twin, member, sameRequired, sameCapacity, sameOrder⟩ :=
      exists_same_place found signatureId now listed
    obtain ⟨twin', member', sameRequired', sameCapacity', sameOrder'⟩ :=
      exists_same_place found signatureId now listed'
    rw [← sameOrder, ← sameOrder']
    apply overfull.last
    · exact List.mem_filter.mpr ⟨List.mem_filter.mpr ⟨member, sameRequired ▸ required⟩,
        sameCapacity ▸ management⟩
    · exact List.mem_filter.mpr ⟨List.mem_filter.mpr ⟨member', sameRequired' ▸ required'⟩,
        sameCapacity' ▸ otherwise⟩

/-- What a run keeps: an orderly termo that is frozen is not overfull. -/
structure Floored (termo : TermoInstrument) : Prop where
  orderly : termo.Orderly
  counted : termo.state ≠ .draft → ¬termo.Overfull

theorem Floored.after {call : TermoCall} (floored : termo.Floored) (counts : termo.FloorCounts call) :
    (termo.after call).Floored := by
  have orderly := floored.orderly.after call
  have effect := termo.after_effect call
  generalize termo.after call = result at effect orderly
  refine ⟨orderly, fun drafted overfull => ?_⟩
  cases effect with
  | refused => exact floored.counted drafted overfull
  | edited drafting => exact drafted drafting
  | added drafting => exact drafted drafting
  | frozen drafting valid =>
      exact counts valid ⟨overfull.saturated, overfull.settles, overfull.last⟩
  | withdrawn => exact drafted rfl
  | marked signing found unsigned next =>
      exact floored.counted drafted (overfull_of_withSignature found overfull)
  | completed signing completable =>
      have frozen : termo.state ≠ .draft := fun drafting => by cases signing.symm.trans drafting
      exact floored.counted frozen ⟨overfull.saturated, overfull.settles, overfull.last⟩

/-- **The management floor.** In a run that freezes no overfull termo, every sealed
termo carries the signature of a required manager or administrator. -/
theorem managementSigned_of_admissible (id : Uuid) (bookId : BookId) (kind : TermoKind)
    (title : String) (createdAt : OffsetDateTime) (calls : List TermoCall)
    (counts : Run.Admissible after FloorCounts (draft id bookId kind title createdAt) calls) :
    ∀ termo ∈ Run.states after (draft id bookId kind title createdAt) calls,
      termo.state = .sealed → termo.ManagementSigned := by
  intro termo member isSealed
  have initial : (draft id bookId kind title createdAt).Floored :=
    ⟨orderly_draft id bookId kind title createdAt, fun drafted => (drafted rfl).elim⟩
  have floored := Run.forall_mem_states (fun _ _ floored counts => Floored.after floored counts)
    initial counts termo member
  have drafted : termo.state ≠ .draft := fun drafting => by cases isSealed.symm.trans drafting
  by_contra unmanaged
  apply floored.counted drafted
  exact overfull_of_unmanaged (floored.orderly.frozen drafted) floored.orderly.earlier
    (floored.orderly.completed isSealed) unmanaged

def managerAlone : List TermoCall :=
  [.setBody openingBody, .addSignatory (managerSlot 0) rfl,
    .advanceToSigning "termo-abertura/v1" ⟨2026, 1, 2, 9, 30, 0, 0, 0⟩,
    .markSlotSigned ⟨1#128⟩ none ⟨2026, 1, 2, 10, 0, 0, 0, 0⟩,
    .seal_ ⟨2026, 1, 2, 10, 5, 0, 0, 0⟩]

theorem managementSigned_managerAlone :
    (managerAlone.foldl after openingDraft).state = .sealed ∧
      (managerAlone.foldl after openingDraft).ManagementSigned := by
  have isSealed : (managerAlone.foldl after openingDraft).state = .sealed := by decide +kernel
  have counts : Run.Admissible after FloorCounts openingDraft managerAlone := by
    refine ⟨trivial, trivial, fun _ overfull => ?_, trivial, trivial, trivial⟩
    have crowded := overfull.saturated
    revert crowded
    decide +kernel
  exact ⟨isSealed, managementSigned_of_admissible _ _ _ _ _ _ counts _
    (Run.foldl_mem_states _ _) isSealed⟩

section Crowd

/-- The slots of a crowd: members in the first `n` orders, then a manager. -/
def crowdSlot (n i : Nat) : TermoSignatorySlot :=
  .required_ ⟨BitVec.ofNat 128 i⟩ "Amélia Marques" (if i = n then .manager else .member)
    (UInt16.ofNat i)

theorem signed_crowdSlot (n i : Nat) : (crowdSlot n i).signed = false := rfl

def crowdTime : OffsetDateTime := ⟨2026, 1, 2, 10, 0, 0, 0, 0⟩

/-- The crowd when the first `k` slots have signed. -/
def crowd (n k : Nat) : List TermoSignatorySlot :=
  (List.range (n + 1)).map fun i =>
    if i < k then (crowdSlot n i).withSignature none crowdTime else crowdSlot n i

def crowdTermo (n k : Nat) : TermoInstrument :=
  { openingDraft with body := openingBody, signatories := crowd n k }

def crowdSigning (n k : Nat) : TermoInstrument :=
  { crowdTermo n k with
    templateId := some "termo-abertura/v1", signingStartedAt := some crowdTime, state := .signing }

/-- Every slot is added, the termo is frozen, the members sign, the termo is sealed. -/
def crowdCalls (n : Nat) : List TermoCall :=
  .setBody openingBody :: ((List.range (n + 1)).map fun i => 
      .addSignatory (crowdSlot n i) (signed_crowdSlot n i)) ++
    .advanceToSigning "termo-abertura/v1" crowdTime ::
      ((List.range n).map fun i => .markSlotSigned ⟨BitVec.ofNat 128 i⟩ none crowdTime) ++
        [.seal_ crowdTime]

variable {n : Nat}

theorem crowd_id_inj (fits : n < 2 ^ 16) {i j : Nat} (inside : i ≤ n) (inside' : j ≤ n)
    (same : (⟨BitVec.ofNat 128 i⟩ : Uuid) = ⟨BitVec.ofNat 128 j⟩) : i = j := by
  have bits := congrArg BitVec.toNat (Uuid.mk.inj same)
  rw [BitVec.toNat_ofNat, BitVec.toNat_ofNat, Nat.mod_eq_of_lt (by omega),
    Nat.mod_eq_of_lt (by omega)] at bits
  exact bits

theorem crowd_order (fits : n < 2 ^ 16) {i : Nat} (inside : i ≤ n) :
    (crowdSlot n i).order.toNat = i := by
  change (UInt16.ofNat i).toNat = i
  rw [UInt16.toNat_ofNat', Nat.mod_eq_of_lt (by omega)]

theorem map_crowd {β : Type*} (view : TermoSignatorySlot → β)
    (same : ∀ slot, view (slot.withSignature none crowdTime) = view slot) (k : Nat) :
    (crowd n k).map view = (List.range (n + 1)).map fun i => view (crowdSlot n i) := by
  rw [crowd, List.map_map]
  apply List.map_congr_left
  intro i _
  by_cases before : i < k <;> simp [before, same]

theorem crowd_ids (fits : n < 2 ^ 16) (k : Nat) : ((crowd n k).map (·.id)).Nodup := by
  rw [map_crowd _ fun _ => rfl]
  apply List.Nodup.map_on _ List.nodup_range
  intro i inside j inside' same
  exact crowd_id_inj fits (Nat.lt_succ_iff.mp (List.mem_range.mp inside))
    (Nat.lt_succ_iff.mp (List.mem_range.mp inside')) same

theorem crowd_orders (fits : n < 2 ^ 16) (k : Nat) : ((crowd n k).map (·.order)).Nodup := by
  rw [map_crowd _ fun _ => rfl]
  apply List.Nodup.map_on _ List.nodup_range
  intro i inside j inside' same
  have values := congrArg UInt16.toNat same
  rwa [crowd_order fits (Nat.lt_succ_iff.mp (List.mem_range.mp inside)),
    crowd_order fits (Nat.lt_succ_iff.mp (List.mem_range.mp inside'))] at values

theorem foldl_add_crowd (fits : n < 2 ^ 16) {k : Nat} (inside : k ≤ n + 1) :
    ((List.range k).map fun i => 
        TermoCall.addSignatory (crowdSlot n i) (signed_crowdSlot n i)).foldl after
        { openingDraft with body := openingBody } =
      { openingDraft with
        body := openingBody
        signatories := (List.range k).map (crowdSlot n) } := by
  induction k with
  | zero => rfl
  | succ k ih =>
      rw [List.range_succ, List.map_append, List.foldl_append, ih (by omega)]
      have absent : ((List.range k).map (crowdSlot n)).any (fun existing =>
          existing.id = (crowdSlot n k).id) = false := by
        rw [List.any_eq_false]
        intro existing member same
        obtain ⟨i, listed, rfl⟩ := List.mem_map.mp member
        have before := List.mem_range.mp listed
        have equal := crowd_id_inj fits (by omega) (by omega) (of_decide_eq_true same)
        omega
      simp only [List.map_cons, List.map_nil, List.foldl_cons, List.foldl_nil, after, call,
        addSignatory, absent]
      rw [List.map_append]
      rfl

theorem crowd_zero (n : Nat) : crowd n 0 = (List.range (n + 1)).map (crowdSlot n) := by
  simp [crowd]

theorem requiredSlots_crowd (k : Nat) : (crowd n k).filter (·.required) = crowd n k := by
  rw [List.filter_eq_self]
  intro slot member
  obtain ⟨i, -, rfl⟩ := List.mem_map.mp member
  split <;> rfl

theorem validate_crowdSlot (i : Nat) : (crowdSlot n i).validate = .ok () := by
  have named : Text.isBlank "Amélia Marques" = false := by decide
  have short : ¬maxTermoTextChars < "Amélia Marques".length := by decide
  by_cases last : i = n <;>
    simp [TermoSignatorySlot.validate, crowdSlot, TermoSignatorySlot.required_, last, named, short,
      isPermittedTermoCapacity]

theorem countP_crowd (counted : TermoSignatorySlot → Bool)
    (same : ∀ slot, counted (slot.withSignature none crowdTime) = counted slot) (k : Nat) :
    (crowd n k).countP counted = (List.range (n + 1)).countP fun i => counted (crowdSlot n i) := by
  have views := congrArg (List.countP fun counts => counts) (map_crowd (n := n) counted same k)
  rwa [List.countP_map, List.countP_map] at views

theorem length_requiredSlots_crowd (k : Nat) : (crowdTermo n k).requiredSlots.length = n + 1 := by
  change ((crowd n k).filter (·.required)).length = n + 1
  rw [requiredSlots_crowd, crowd, List.length_map, List.length_range]

theorem length_managementSlots_crowd (k : Nat) :
    (crowdTermo n k).managementSlots.length = 1 := by
  have members : (List.range n).countP (fun i => isManagementCapacity (crowdSlot n i).capacity &&
      (crowdSlot n i).required) = 0 := by
    rw [List.countP_eq_zero]
    intro i inside
    have before : i ≠ n := Nat.ne_of_lt (List.mem_range.mp inside)
    simp [crowdSlot, TermoSignatorySlot.required_, before, isManagementCapacity]
  rw [length_managementSlots]
  refine (countP_crowd _ (fun _ => rfl) k).trans ?_
  rw [List.range_succ, List.countP_append, members]
  simp [crowdSlot, TermoSignatorySlot.required_, isManagementCapacity]

theorem satisfiesManagementFloor_crowd (k : Nat) :
    (crowdTermo n k).satisfiesManagementFloor = true := by
  have one : saturatingCount 1 = 1 := rfl
  have positive : 1 ≤ (crowdTermo n k).requiredSlotCount.toNat := by
    rw [requiredSlotCount, length_requiredSlots_crowd, toNat_saturatingCount]
    omega
  have less : (crowdTermo n k).requiredSlotCount - 1 < (crowdTermo n k).requiredSlotCount := by
    rw [UInt16.lt_iff_toNat_lt, UInt16.toNat_sub_of_le _ 1 (UInt16.le_iff_toNat_le.mpr positive)]
    exact Nat.sub_lt positive Nat.one_pos
  rw [satisfiesManagementFloor, length_managementSlots_crowd, one]
  exact decide_eq_true less

theorem validate_crowd (fits : n < 2 ^ 16) : (crowdTermo n 0).validate = .ok () := by
  have title : Text.isBlank openingDraft.title = false ∧
      openingDraft.title.length ≤ maxTermoTextChars := by decide
  have body : openingBody ≠ [] ∧ openingBody.length ≤ maxTermoClauses ∧
      checkClauses [] openingBody = .ok () := by decide
  have fields : openingDraft.fields.validate openingDraft.kind = .ok () := by decide
  have occupied : (crowdTermo n 0).requiredSlotCount ≠ 0 := by
    rw [Ne, requiredSlotCount_eq_zero_iff, ← List.length_eq_zero_iff, length_requiredSlots_crowd]
    exact Nat.succ_ne_zero n
  have slots : checkSlots [] [] (crowd n 0) = .ok () := by
    refine checkSlots_eq_ok_iff.mpr ⟨fun slot member => ?_, crowd_ids fits 0, crowd_orders fits 0⟩
    rw [crowd_zero] at member
    obtain ⟨i, -, rfl⟩ := List.mem_map.mp member
    exact ⟨List.not_mem_nil, List.not_mem_nil, validate_crowdSlot i⟩
  have policy : (crowdTermo n 0).validatePolicy = .ok () := by
    have all : (crowdTermo n 0).completionPolicy = .allRequired := rfl
    simp [validatePolicy, satisfiesManagementFloor_crowd, all]
  have crowded : crowd n 0 ≠ [] := by
    rw [crowd_zero, List.range_succ]
    simp
  exact validate_eq_ok_iff.mpr
    ⟨title.1, title.2, body.1, body.2.1, body.2.2, fields, crowded, slots,
    occupied, policy⟩

theorem crowd_set (k : Nat) :
    (crowd n k).set k ((crowdSlot n k).withSignature none crowdTime) = crowd n (k + 1) := by
  apply List.ext_getElem
  · simp [crowd]
  · intro i before before'
    rw [List.getElem_set]
    simp only [crowd, List.getElem_map, List.getElem_range]
    by_cases here : k = i
    · subst here
      simp
    · have same : i < k + 1 ↔ i < k := by omega
      simp [here, same]

theorem foldl_mark_crowd (fits : n < 2 ^ 16) {k : Nat} (inside : k ≤ n) :
    ((List.range k).map fun i =>
        TermoCall.markSlotSigned ⟨BitVec.ofNat 128 i⟩ none crowdTime).foldl after
      (crowdSigning n 0) = crowdSigning n k := by
  induction k with
  | zero => rfl
  | succ k ih =>
      rw [List.range_succ, List.map_append, List.foldl_append, ih (by omega)]
      have present : (crowdSigning n k).signatories[k]? = some (crowdSlot n k) := by
        change (crowd n k)[k]? = _
        simp [crowd, Nat.lt_succ_of_lt (Nat.lt_of_succ_le inside)]
      have turn : (crowdSigning n k).waitingSlots (crowdSlot n k).order = [] := by
        rw [waitingSlots_eq_nil_iff]
        intro earlier member required before
        obtain ⟨i, listed, rfl⟩ := List.mem_map.mp member
        have bound := List.mem_range.mp listed
        by_cases signed : i < k
        · simp [signed, TermoSignatorySlot.withSignature]
        · simp only [signed, if_false] at before
          rw [UInt16.lt_iff_toNat_lt, crowd_order fits (by omega), crowd_order fits (by omega)]
            at before
          exact (signed before).elim
      have signing : (crowdSigning n k).state = .signing := rfl
      have marked := markSlotSigned_eq signing (crowd_ids fits k) present rfl turn none crowdTime
      have signs : (crowdSigning n k).withSignature k (crowdSlot n k) none crowdTime =
          crowdSigning n (k + 1) := by
        rw [withSignature, crowdSigning, crowdSigning, crowdTermo, crowdTermo, crowd_set]
      exact (congrArg Prod.snd marked).trans signs

theorem length_signed_crowd : (crowdSigning n n).signedRequiredSlots.length = n := by
  have signed : ((List.range n).map fun i => if i < n then (crowdSlot n i).withSignature none
      crowdTime else crowdSlot n i).filter (·.signed) = (List.range n).map fun i =>
        if i < n then (crowdSlot n i).withSignature none crowdTime else crowdSlot n i := by
    rw [List.filter_eq_self]
    intro slot member
    obtain ⟨i, listed, rfl⟩ := List.mem_map.mp member
    rw [if_pos (List.mem_range.mp listed)]
    rfl
  change (((crowd n n).filter (·.required)).filter (·.signed)).length = n
  rw [requiredSlots_crowd, crowd, List.range_succ, List.map_append, List.filter_append, signed]
  simp [crowdSlot, TermoSignatorySlot.required_]

theorem ensureCompletable_crowd (saturated : 2 ^ 16 ≤ n + 1) :
    (crowdSigning n n).ensureCompletable = .ok () := by
  have required : (crowdSigning n n).requiredSlots.length = n + 1 := length_requiredSlots_crowd n
  have occupied : (crowdSigning n n).requiredSlotCount ≠ 0 := by
    rw [Ne, requiredSlotCount_eq_zero_iff, ← List.length_eq_zero_iff, required]
    exact Nat.succ_ne_zero n
  have enough : ¬saturatingCount n < saturatingCount (n + 1) := by
    rw [UInt16.lt_iff_toNat_lt, toNat_saturatingCount, toNat_saturatingCount]
    omega
  rw [ensureCompletable, if_neg occupied, length_signed_crowd, requiredSlotCount, required]
  exact if_neg enough

theorem not_managementSigned_crowd (slots : termo.signatories = crowd n n) :
    ¬termo.ManagementSigned := by
  rintro ⟨slot, member, -, management, signed⟩
  rw [slots] at member
  obtain ⟨i, -, rfl⟩ := List.mem_map.mp member
  by_cases before : i < n
  · simp [before, crowdSlot, TermoSignatorySlot.required_, TermoSignatorySlot.withSignature,
      Nat.ne_of_lt before, isManagementCapacity] at management
  · simp [before, crowdSlot, TermoSignatorySlot.required_] at signed

theorem foldl_crowdCalls (fits : n < 2 ^ 16) (saturated : 2 ^ 16 ≤ n + 1) :
    (crowdCalls n).foldl after openingDraft =
      { crowdSigning n n with sealedAt := some crowdTime, state := .sealed } := by
  have added : (TermoCall.setBody openingBody :: (List.range (n + 1)).map fun i =>
      TermoCall.addSignatory (crowdSlot n i) (signed_crowdSlot n i)).foldl after openingDraft =
        crowdTermo n 0 := by
    rw [crowdTermo, crowd_zero]
    exact foldl_add_crowd fits (Nat.le_refl (n + 1))
  have frozen : (crowdTermo n 0).after (.advanceToSigning "termo-abertura/v1" crowdTime) =
      crowdSigning n 0 := by
    have valid := validate_crowd fits
    have state : (crowdTermo n 0).state = .draft := rfl
    rw [after, call, advanceToSigning, if_neg (not_not.mpr state), valid]
    rfl
  have completed : (crowdSigning n n).after (.seal_ crowdTime) =
      { crowdSigning n n with sealedAt := some crowdTime, state := .sealed } := by
    have state : (crowdSigning n n).state = .signing := rfl
    rw [after, call, seal_, if_neg (not_not.mpr state), ensureCompletable_crowd saturated]
  rw [crowdCalls, List.foldl_append, List.foldl_append, added, List.foldl_cons, List.foldl_nil,
    List.foldl_cons, frozen, foldl_mark_crowd fits (Nat.le_refl n)]
  exact completed

end Crowd

/-- With 65536 required slots the members alone complete the termo: the manager in the
last slot has not signed. -/
theorem sealed_without_management :
    ¬∀ termo ∈ Run.states after openingDraft (crowdCalls 65535),
      termo.state = .sealed → termo.ManagementSigned := by
  intro managed
  have final := foldl_crowdCalls (n := 65535) (by decide) (by decide)
  have last := managed _ (Run.foldl_mem_states openingDraft (crowdCalls 65535))
  rw [final] at last
  exact not_managementSigned_crowd rfl (last rfl)
end Chancela.TermoInstrument
