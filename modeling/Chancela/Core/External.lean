import Chancela.Core.Book
import Chancela.Foundation.Outcome
import Chancela.Foundation.Replace
import Chancela.Foundation.Run

/-! # External signature envelopes

An envelope collects signatures outside the signing pipeline, one slot for each
signer. A slot moves from pending over initiated to one of four terminal statuses and
gathers evidence on the way; the envelope completes when every required slot is
signed. `Chancela.ExternalSignatureEnvelope.runs_sound` states what every run keeps.
-/

namespace Chancela

open Outcome

inductive ExternalSigningOrderPolicy where
  | parallel
  | sequential
deriving DecidableEq

inductive ExternalSignerIdentityRequirement where
  | contactControl
  | providerIdentityAssertion
  | governmentIdCheck
  | representativeCapacity
deriving DecidableEq

inductive ExternalSignerSlotStatus where
  | pending
  | initiated
  | signed
  | declined
  | revoked
  | expired
deriving DecidableEq

namespace ExternalSignerSlotStatus

def isTerminal : ExternalSignerSlotStatus → Bool
  | .signed | .declined | .revoked | .expired => true
  | .pending | .initiated => false

def resolvesSequentialOrder (status : ExternalSignerSlotStatus) : Bool := status.isTerminal

def canTransitionTo : ExternalSignerSlotStatus → ExternalSignerSlotStatus → Bool
  | .pending, .initiated | .pending, .signed | .pending, .declined | .pending, .revoked
  | .pending, .expired | .initiated, .signed | .initiated, .declined | .initiated, .revoked
  | .initiated, .expired => true
  | _, _ => false

end ExternalSignerSlotStatus

/-- A locator of a proof held elsewhere, for one slot. -/
structure ExternalSignatureEvidence where
  label : String
  reference : String
  identityRequirement : Option ExternalSignerIdentityRequirement
  digest : Option Digest
deriving DecidableEq

/-- A signer of an envelope. -/
structure ExternalSignerSlot where
  id : Uuid
  signerLabel : String
  contactHint : Option String
  identityRequirements : List ExternalSignerIdentityRequirement
  required : Bool
  status : ExternalSignerSlotStatus
  evidence : List ExternalSignatureEvidence
deriving DecidableEq

inductive ExternalSigningError where
  | duplicateSlotId (slotId : Uuid)
  | slotNotFound (slotId : Uuid)
  | sequentialOrderBlocked (blocked waitingOn : Uuid)
  | invalidSlotTransition (slotId : Uuid) (origin target : ExternalSignerSlotStatus)
  | requiredSlotsNotSigned (slotIds : List Uuid)
  | duplicateIdentityRequirement (slotId : Uuid) (requirement : ExternalSignerIdentityRequirement)
  | missingIdentityEvidence (slotId : Uuid)
      (requirements : List ExternalSignerIdentityRequirement)
  | emptySignatureEvidence (slotId : Uuid)
  | noRequiredSlots
  | envelopeAlreadyCompleted (envelopeId : Uuid)
  | secretLikeMarker (slotId : Uuid) (field : String)
  | emptyEvidenceReference (slotId : Uuid)
  | emptySignerLabel (slotId : Uuid)
deriving DecidableEq

def secretLikeMarkers : List String :=
  ["token=", "token:", "access_token=", "refresh_token=", "password=", "password:", "passwd=",
    "pwd=", "secret=", "client_secret=", "api_key=", "apikey=", "authorization:", "bearer "]

/-- `contains_secret_like_marker`, on ASCII-lowercased text with `-` read as `_`. -/
def containsSecretLikeMarker (value : String) : Bool :=
  let normalized := String.ofList (value.toList.map fun c =>
    if c.toLower = '-' then '_' else c.toLower)
  secretLikeMarkers.any (Text.contains normalized)

def ExternalSignatureEvidence.validateForSlot (slotId : Uuid)
    (evidence : ExternalSignatureEvidence) : Except ExternalSigningError Unit := do
  rejectIf (Text.isBlank evidence.reference) (.emptyEvidenceReference slotId)
  rejectIf (containsSecretLikeMarker evidence.reference)
    (.secretLikeMarker slotId "evidence.reference")

namespace ExternalSignerSlot

def ensureIdentityRequirementsSatisfied (slot : ExternalSignerSlot)
    (pendingEvidence : List ExternalSignatureEvidence) : Except ExternalSigningError Unit :=
  let missingRequirements := slot.identityRequirements.filter fun requirement =>
    !(slot.evidence ++ pendingEvidence).any fun evidence =>
      evidence.identityRequirement = some requirement
  if missingRequirements = [] then .ok ()
  else .error (.missingIdentityEvidence slot.id missingRequirements)

def checkRequirements (slotId : Uuid) (seen : List ExternalSignerIdentityRequirement) :
    List ExternalSignerIdentityRequirement → Except ExternalSigningError Unit
  | [] => .ok ()
  | requirement :: rest => do
      rejectIf (requirement ∈ seen) (.duplicateIdentityRequirement slotId requirement)
      checkRequirements slotId (requirement :: seen) rest

def validate (slot : ExternalSignerSlot) : Except ExternalSigningError Unit := do
  rejectIf (Text.isBlank slot.signerLabel) (.emptySignerLabel slot.id)
  checkRequirements slot.id [] slot.identityRequirements
  rejectIf (slot.contactHint.any containsSecretLikeMarker)
    (.secretLikeMarker slot.id "slot.contact_hint")
  checkAll (ExternalSignatureEvidence.validateForSlot slot.id) slot.evidence
  if slot.status = .signed then slot.ensureIdentityRequirementsSatisfied [] else .ok ()

def transition (slot : ExternalSignerSlot) (target : ExternalSignerSlotStatus)
    (evidence : List ExternalSignatureEvidence) : ExternalSignerSlot :=
  { slot with status := target, evidence := slot.evidence ++ evidence }

end ExternalSignerSlot

/-- The envelope of an act's external signatures; slots are in signing order. -/
structure ExternalSignatureEnvelope where
  id : Uuid
  actId : ActId
  orderPolicy : ExternalSigningOrderPolicy
  slots : List ExternalSignerSlot
  completed : Bool
deriving DecidableEq

namespace ExternalSignatureEnvelope

def ensureNotCompleted (envelope : ExternalSignatureEnvelope) : Except ExternalSigningError Unit :=
  rejectIf envelope.completed (.envelopeAlreadyCompleted envelope.id)

def ensureCompletable (envelope : ExternalSignatureEnvelope) :
    Except ExternalSigningError Unit := do
  let blockingRequiredSlotIds := (envelope.slots.filter fun slot =>
    slot.required && decide (slot.status ≠ .signed)).map (·.id)
  rejectIf (blockingRequiredSlotIds ≠ []) (.requiredSlotsNotSigned blockingRequiredSlotIds)
  rejectIf (envelope.slots.any (·.required) = false) .noRequiredSlots

/-- The slots have distinct identities and are each valid. -/
def checkSlots (seen : List Uuid) : List ExternalSignerSlot → Except ExternalSigningError Unit
  | [] => .ok ()
  | slot :: rest => do
      rejectIf (slot.id ∈ seen) (.duplicateSlotId slot.id)
      slot.validate
      checkSlots (slot.id :: seen) rest

def validate (envelope : ExternalSignatureEnvelope) : Except ExternalSigningError Unit := do
  checkSlots [] envelope.slots
  if envelope.completed then envelope.ensureCompletable else .ok ()

/-- `ExternalSignatureEnvelope::new`, with the identity it draws. -/
def new (id : Uuid) (actId : ActId) (orderPolicy : ExternalSigningOrderPolicy)
    (slots : List ExternalSignerSlot) : Except ExternalSigningError ExternalSignatureEnvelope := do
  let envelope : ExternalSignatureEnvelope := ⟨id, actId, orderPolicy, slots, false⟩
  envelope.validate
  return envelope

/-- `ExternalSignatureEnvelope::ensure_order_allows`, for the slot behind the ones
given. -/
def ensureOrderAllows (envelope : ExternalSignatureEnvelope) (blocked : Uuid)
    (earlier : List ExternalSignerSlot) : Except ExternalSigningError Unit :=
  if envelope.orderPolicy ≠ .sequential then .ok ()
  else checkAll (fun slot : ExternalSignerSlot =>
    rejectIf (slot.required && !slot.status.resolvesSequentialOrder)
      (.sequentialOrderBlocked blocked slot.id)) earlier

def transitionSlot (envelope : ExternalSignatureEnvelope) (slotId : Uuid)
    (target : ExternalSignerSlotStatus) (evidence : List ExternalSignatureEvidence) :
    Except ExternalSigningError Unit × ExternalSignatureEnvelope :=
  match (do envelope.ensureNotCompleted
            envelope.validate
            checkAll (ExternalSignatureEvidence.validateForSlot slotId) evidence) with
  | .error fault => (.error fault, envelope)
  | .ok () =>
      match envelope.slots.zipIdx.find? fun indexed => indexed.1.id = slotId with
      | none => (.error (.slotNotFound slotId), envelope)
      | some (slot, slotIndex) =>
          match envelope.ensureOrderAllows slot.id (envelope.slots.take slotIndex) with
          | .error fault => (.error fault, envelope)
          | .ok () =>
              if slot.status.canTransitionTo target = false then
                (.error (.invalidSlotTransition slotId slot.status target), envelope)
              else
                match (if target = .signed then slot.ensureIdentityRequirementsSatisfied evidence
                  else .ok ()) with
                | .error fault => (.error fault, envelope)
                | .ok () =>
                    (.ok (), { envelope with
                      slots := envelope.slots.set slotIndex (slot.transition target evidence) })

def complete (envelope : ExternalSignatureEnvelope) :
    Except ExternalSigningError Unit × ExternalSignatureEnvelope :=
  match (do envelope.ensureNotCompleted
            envelope.validate
            envelope.ensureCompletable) with
  | .error fault => (.error fault, envelope)
  | .ok () => (.ok (), { envelope with completed := true })

end ExternalSignatureEnvelope

/-- A call of a method that changes an envelope. -/
inductive EnvelopeCall where
  | initiateSlot (slotId : Uuid)
  | signSlot (slotId : Uuid) (evidence : ExternalSignatureEvidence)
  | signSlotWithEvidence (slotId : Uuid) (evidence : List ExternalSignatureEvidence)
  | declineSlot (slotId : Uuid) (evidence : Option ExternalSignatureEvidence)
  | revokeSlot (slotId : Uuid) (evidence : Option ExternalSignatureEvidence)
  | expireSlot (slotId : Uuid) (evidence : Option ExternalSignatureEvidence)
  | complete
deriving DecidableEq

namespace ExternalSignatureEnvelope

def call (envelope : ExternalSignatureEnvelope) :
    EnvelopeCall → Except ExternalSigningError Unit × ExternalSignatureEnvelope
  | .initiateSlot slotId => envelope.transitionSlot slotId .initiated []
  | .signSlot slotId evidence => envelope.transitionSlot slotId .signed [evidence]
  | .signSlotWithEvidence slotId evidence =>
      if evidence = [] then (.error (.emptySignatureEvidence slotId), envelope)
      else envelope.transitionSlot slotId .signed evidence
  | .declineSlot slotId evidence => envelope.transitionSlot slotId .declined evidence.toList
  | .revokeSlot slotId evidence => envelope.transitionSlot slotId .revoked evidence.toList
  | .expireSlot slotId evidence => envelope.transitionSlot slotId .expired evidence.toList
  | .complete => envelope.complete

def after (envelope : ExternalSignatureEnvelope) (call : EnvelopeCall) :
    ExternalSignatureEnvelope := (envelope.call call).2

/-- Every identity requirement of the slot is matched by evidence. -/
def Identified (requirements : List ExternalSignerIdentityRequirement)
    (evidence : List ExternalSignatureEvidence) : Prop :=
  ∀ requirement ∈ requirements, ∃ item ∈ evidence, item.identityRequirement = some requirement

/-- What a call can do to an envelope. -/
inductive Effect (envelope : ExternalSignatureEnvelope) :
    Except ExternalSigningError Unit × ExternalSignatureEnvelope → Prop where
  | refused (fault : ExternalSigningError) : Effect envelope (.error fault, envelope)
  | moved {slot : ExternalSignerSlot} {index : Nat} {target : ExternalSignerSlotStatus}
      {evidence : List ExternalSignatureEvidence} (unfinished : envelope.completed = false)
      (found : envelope.slots[index]? = some slot)
      (turn : envelope.orderPolicy = .sequential → ∀ earlier ∈ envelope.slots.take index,
        earlier.required = true → earlier.status.isTerminal = true)
      (allowed : slot.status.canTransitionTo target = true)
      (proved : target = .signed → evidence ≠ [] ∧
        Identified slot.identityRequirements (slot.evidence ++ evidence)) :
      Effect envelope (.ok (), { envelope with
        slots := envelope.slots.set index (slot.transition target evidence) })
  | completed (occupied : ∃ slot ∈ envelope.slots, slot.required = true)
      (signed : ∀ slot ∈ envelope.slots, slot.required = true → slot.status = .signed) :
      Effect envelope (.ok (), { envelope with completed := true })

theorem ensureIdentityRequirementsSatisfied_eq_ok_iff {slot : ExternalSignerSlot}
    {evidence : List ExternalSignatureEvidence} :
    slot.ensureIdentityRequirementsSatisfied evidence = .ok () ↔
      Identified slot.identityRequirements (slot.evidence ++ evidence) := by
  rw [ExternalSignerSlot.ensureIdentityRequirementsSatisfied]
  simp only [ite_eq_left_iff, reduceCtorEq, imp_false, not_not, List.filter_eq_nil_iff,
    Bool.not_eq_true', Bool.not_eq_false, List.any_eq_true, decide_eq_true_eq, Identified]

variable {envelope : ExternalSignatureEnvelope}

theorem ensureOrderAllows_eq_ok_iff {blocked : Uuid} {earlier : List ExternalSignerSlot} :
    envelope.ensureOrderAllows blocked earlier = .ok () ↔
      (envelope.orderPolicy = .sequential → ∀ slot ∈ earlier, slot.required = true →
        slot.status.isTerminal = true) := by
  unfold ensureOrderAllows
  by_cases sequential : envelope.orderPolicy = .sequential
  · simp only [sequential, ne_eq, not_true_eq_false, if_false, true_implies, checkAll_eq_ok_iff,
      rejectIf_eq_ok_iff, Bool.and_eq_true, Bool.not_eq_true', not_and, Bool.not_eq_false,
      ExternalSignerSlotStatus.resolvesSequentialOrder]
  · simp [sequential]

theorem ensureCompletable_eq_ok_iff :
    envelope.ensureCompletable = .ok () ↔
      (∀ slot ∈ envelope.slots, slot.required = true → slot.status = .signed) ∧
        ∃ slot ∈ envelope.slots, slot.required = true := by
  simp only [ensureCompletable, check_bind_eq_ok_iff, rejectIf_eq_ok_iff, ne_eq, not_not,
    List.map_eq_nil_iff, List.filter_eq_nil_iff, Bool.and_eq_true, decide_eq_true_eq, not_and,
    Bool.not_eq_false, List.any_eq_true]

theorem transitionSlot_effect (envelope : ExternalSignatureEnvelope) (slotId : Uuid)
    {target : ExternalSignerSlotStatus} {evidence : List ExternalSignatureEvidence}
    (supported : target = .signed → evidence ≠ []) :
    envelope.Effect (envelope.transitionSlot slotId target evidence) := by
  unfold transitionSlot
  split
  · exact .refused _
  rename_i passed
  rw [check_bind_eq_ok_iff, ensureNotCompleted, rejectIf_eq_ok_iff] at passed
  split
  · exact .refused _
  rename_i slot index located
  split
  · exact .refused _
  rename_i turn
  split
  · exact .refused _
  rename_i allowed
  split
  · exact .refused _
  rename_i identified
  refine .moved (Bool.not_eq_true _ ▸ passed.1)
    (List.mk_mem_zipIdx_iff_getElem?.mp (List.mem_of_find?_eq_some located))
    (ensureOrderAllows_eq_ok_iff.mp turn) (Bool.not_eq_false _ ▸ allowed) ?_
  intro signs
  rw [if_pos signs] at identified
  exact ⟨supported signs, ensureIdentityRequirementsSatisfied_eq_ok_iff.mp identified⟩

/-- **What a call does.** -/
theorem call_effect (envelope : ExternalSignatureEnvelope) (call : EnvelopeCall) :
    envelope.Effect (envelope.call call) := by
  cases call with
  | initiateSlot slotId => exact envelope.transitionSlot_effect slotId fun other => by cases other
  | signSlot slotId evidence =>
      exact envelope.transitionSlot_effect slotId fun _ => List.cons_ne_nil evidence []
  | signSlotWithEvidence slotId evidence =>
      rw [call]
      split
      · exact .refused _
      · exact envelope.transitionSlot_effect slotId fun _ => ‹_›
  | declineSlot slotId evidence =>
      exact envelope.transitionSlot_effect slotId fun other => by cases other
  | revokeSlot slotId evidence =>
      exact envelope.transitionSlot_effect slotId fun other => by cases other
  | expireSlot slotId evidence =>
      exact envelope.transitionSlot_effect slotId fun other => by cases other
  | complete =>
      rw [call, complete]
      split
      · exact .refused _
      rename_i passed
      rw [check_bind_eq_ok_iff, check_bind_eq_ok_iff, ensureCompletable_eq_ok_iff] at passed
      exact .completed passed.2.2.2 passed.2.2.1

/-- What holds of an envelope at every point of a run. -/
structure Sound (envelope : ExternalSignatureEnvelope) : Prop where
  signed : ∀ slot ∈ envelope.slots, slot.status = .signed → slot.evidence ≠ [] ∧
    Identified slot.identityRequirements slot.evidence
  sequential : envelope.orderPolicy = .sequential → envelope.slots.Pairwise fun earlier later =>
    later.status ≠ .pending → earlier.required = true → earlier.status.isTerminal = true
  complete : envelope.completed = true → (∃ slot ∈ envelope.slots, slot.required = true) ∧
    ∀ slot ∈ envelope.slots, slot.required = true → slot.status = .signed

/-- A slot later in a run: a terminal status stays, evidence is only added. -/
structure SlotExtends (earlier later : ExternalSignerSlot) : Prop where
  id : later.id = earlier.id
  terminal : earlier.status.isTerminal = true → later.status = earlier.status
  evidence : earlier.evidence <+: later.evidence

def Extends (earlier later : ExternalSignatureEnvelope) : Prop :=
  List.Forall₂ SlotExtends earlier.slots later.slots

theorem SlotExtends.refl (slot : ExternalSignerSlot) : SlotExtends slot slot :=
  ⟨rfl, fun _ => rfl, List.prefix_refl _⟩

theorem SlotExtends.trans {first second third : ExternalSignerSlot}
    (before : SlotExtends first second) (after : SlotExtends second third) :
    SlotExtends first third where
  id := after.id.trans before.id
  terminal := by
    intro terminal
    have same := before.terminal terminal
    rw [← same] at terminal ⊢
    exact after.terminal terminal
  evidence := before.evidence.trans after.evidence

theorem Extends.refl (envelope : ExternalSignatureEnvelope) : envelope.Extends envelope :=
  List.forall₂_same.mpr fun slot _ => SlotExtends.refl slot

theorem Extends.trans {first second third : ExternalSignatureEnvelope}
    (before : first.Extends second) (after : second.Extends third) : first.Extends third := by
  unfold Extends at before after ⊢
  generalize first.slots = start at before ⊢
  generalize second.slots = slots at before after
  generalize third.slots = last at after ⊢
  induction before generalizing last with
  | nil =>
      cases after
      exact .nil
  | cons head tail ih =>
      cases after with
      | cons head' tail' => exact .cons (head.trans head') (ih _ tail')

theorem isTerminal_of_canTransitionTo {status target : ExternalSignerSlotStatus}
    (allowed : status.canTransitionTo target = true) : status.isTerminal = false := by
  cases status <;> cases target <;> first | rfl | cases allowed

theorem slotExtends_transition {slot : ExternalSignerSlot} {target : ExternalSignerSlotStatus}
    (allowed : slot.status.canTransitionTo target = true)
    (evidence : List ExternalSignatureEvidence) :
    SlotExtends slot (slot.transition target evidence) where
  id := rfl
  terminal := by
    intro terminal
    exact (Bool.false_ne_true ((isTerminal_of_canTransitionTo allowed).symm.trans terminal)).elim
  evidence := List.prefix_append _ _

theorem extends_after (envelope : ExternalSignatureEnvelope) (call : EnvelopeCall) :
    envelope.Extends (envelope.after call) := by
  have effect := envelope.call_effect call
  unfold after
  generalize envelope.call call = result at effect
  cases effect with
  | refused fault => exact Extends.refl envelope
  | completed occupied signed => exact Extends.refl envelope
  | moved unfinished found turn allowed proved =>
      rename_i slot index target evidence
      obtain ⟨front, back, whole, replaced⟩ := Replace.exists_split found
      have same : ∀ slots : List ExternalSignerSlot, List.Forall₂ SlotExtends slots slots :=
        fun slots => List.forall₂_same.mpr fun slot _ => SlotExtends.refl slot
      unfold Extends
      dsimp only
      rw [replaced, whole]
      exact List.rel_append (same front)
        (.cons (slotExtends_transition allowed evidence) (same back))

/-- **One call keeps an envelope sound.** -/
theorem Sound.after (sound : envelope.Sound) (call : EnvelopeCall) :
    (envelope.after call).Sound := by
  have effect := envelope.call_effect call
  unfold ExternalSignatureEnvelope.after
  generalize envelope.call call = result at effect
  cases effect with
  | refused fault => exact sound
  | completed occupied signed => exact ⟨sound.signed, sound.sequential, fun _ => ⟨occupied, signed⟩⟩
  | moved unfinished found turn allowed proved =>
      rename_i slot index target evidence
      refine ⟨fun other member signed => ?_, fun sequential => ?_, fun done => ?_⟩
      · rcases List.mem_or_eq_of_mem_set member with kept | rfl
        · exact sound.signed other kept signed
        · obtain ⟨supported, identified⟩ := proved signed
          exact ⟨List.append_ne_nil_of_right_ne_nil _ supported, identified⟩
      · obtain ⟨whole, replaced⟩ := Replace.split_at found
        have ordered := sound.sequential sequential
        have earlier := turn sequential
        have waiting := isTerminal_of_canTransitionTo allowed
        dsimp only
        rw [replaced]
        rw [whole] at ordered
        obtain ⟨fronts, rest, across⟩ := List.pairwise_append.mp ordered
        obtain ⟨behind, backs⟩ := List.pairwise_cons.mp rest
        refine List.pairwise_append.mpr ⟨fronts, List.pairwise_cons.mpr ⟨?_, backs⟩, ?_⟩
        -- The moved slot was not terminal, so behind it only pending slots wait.
        · intro later member moved required
          have resolved := behind later member moved required
          exact (Bool.false_ne_true (waiting.symm.trans resolved)).elim
        · intro before member later member'
          rcases List.mem_cons.mp member' with rfl | kept
          · exact fun _ => earlier before member
          · exact across before member later (List.mem_cons_of_mem _ kept)
      · rw [unfinished] at done
        cases done

theorem eq_of_new_eq_ok {id : Uuid} {actId : ActId} {policy : ExternalSigningOrderPolicy}
    {slots : List ExternalSignerSlot} (created : new id actId policy slots = .ok envelope) :
    envelope = ⟨id, actId, policy, slots, false⟩ := by
  obtain ⟨-, returned⟩ := check_bind_eq_ok_iff.mp created
  exact (Except.ok.inj returned).symm

theorem sound_new {id : Uuid} {actId : ActId} {policy : ExternalSigningOrderPolicy}
    {slots : List ExternalSignerSlot} (created : new id actId policy slots = .ok envelope)
    (pending : ∀ slot ∈ slots, slot.status = .pending) : envelope.Sound := by
  obtain rfl := eq_of_new_eq_ok created
  refine ⟨fun slot member signed => ?_, fun _ => ?_, fun done => by cases done⟩
  · rw [pending slot member] at signed
    cases signed
  · apply List.pairwise_of_forall_mem_list
    intro earlier _ later member moved
    exact (moved (pending later member)).elim

theorem after_eq_of_error {call : EnvelopeCall} {fault : ExternalSigningError}
    (failed : (envelope.call call).1 = .error fault) : envelope.after call = envelope := by
  have effect := envelope.call_effect call
  unfold after
  generalize envelope.call call = result at effect failed
  cases effect with
  | refused => rfl
  | moved => cases failed
  | completed => cases failed

def CompletionBacked (envelope : ExternalSignatureEnvelope) : Prop :=
  envelope.completed = true → (∃ slot ∈ envelope.slots, slot.required = true) ∧
    ∀ slot ∈ envelope.slots, slot.required = true → slot.status = .signed ∧ slot.evidence ≠ [] ∧
      Identified slot.identityRequirements slot.evidence

/-- Under sequential order, a slot that has left pending has only resolved required
slots before it. -/
def OrderRespected (envelope : ExternalSignatureEnvelope) : Prop :=
  envelope.orderPolicy = .sequential → envelope.slots.Pairwise fun earlier later =>
    later.status ≠ .pending → earlier.required = true → earlier.status.isTerminal = true

/-- **Runs of an envelope.** From pending slots, every state of every run backs its
completion, respects the order and is left alone by failed calls, and later states
extend earlier ones. -/
theorem runs_sound (id : Uuid) (actId : ActId) (policy : ExternalSigningOrderPolicy)
    (slots : List ExternalSignerSlot) (envelope : ExternalSignatureEnvelope)
    (created : new id actId policy slots = .ok envelope)
    (pending : ∀ slot ∈ slots, slot.status = .pending) (calls : List EnvelopeCall) :
    (∀ state ∈ Run.states after envelope calls, state.CompletionBacked ∧ state.OrderRespected ∧
      ∀ call fault, (state.call call).1 = .error fault → state.after call = state) ∧
        (Run.states after envelope calls).Pairwise Extends := by
  have kept : ∀ (state : ExternalSignatureEnvelope) call, state.Sound → (state.after call).Sound :=
    fun _ call sound => sound.after call
  have sound := Run.forall_mem_states_of_kept kept (sound_new created pending) calls
  refine ⟨fun state member => ⟨?_, (sound state member).sequential, ?_⟩, ?_⟩
  · intro done
    obtain ⟨occupied, signed⟩ := (sound state member).complete done
    refine ⟨occupied, fun slot listed required => ?_⟩
    have isSigned := signed slot listed required
    exact ⟨isSigned, (sound state member).signed slot listed isSigned⟩
  · intro call fault failed
    exact after_eq_of_error failed
  · exact Run.pairwise_states Extends.refl Extends.trans extends_after envelope calls

/-- A member of the board whose signature a provider vouches for. -/
def boardSlot (id : Uuid) (label : String) : ExternalSignerSlot where
  id := id
  signerLabel := label
  contactHint := some "***1234"
  identityRequirements := [.providerIdentityAssertion]
  required := true
  status := .pending
  evidence := []

def boardEnvelope : ExternalSignatureEnvelope where
  id := ⟨7#128⟩
  actId := ⟨0x33333333333333333333333333333333#128⟩
  orderPolicy := .sequential
  slots := [boardSlot ⟨1#128⟩ "Presidente", boardSlot ⟨2#128⟩ "Vogal"]
  completed := false

def boardCalls : List EnvelopeCall :=
  [.initiateSlot ⟨1#128⟩,
    .signSlot ⟨1#128⟩ ⟨"provider event", "evt-1", some .providerIdentityAssertion, none⟩,
    .signSlot ⟨2#128⟩ ⟨"provider event", "evt-2", some .providerIdentityAssertion, none⟩,
    .complete]

theorem runs_sound_board :
    (boardCalls.foldl after boardEnvelope).completed = true ∧
      (boardCalls.foldl after boardEnvelope).CompletionBacked := by
  have created : new boardEnvelope.id boardEnvelope.actId boardEnvelope.orderPolicy
      boardEnvelope.slots = .ok boardEnvelope := by decide +kernel
  have sound := runs_sound _ _ _ _ boardEnvelope created (by decide) boardCalls
  exact ⟨by decide +kernel, (sound.1 _ (Run.foldl_mem_states boardEnvelope boardCalls)).1⟩

end ExternalSignatureEnvelope

end Chancela
