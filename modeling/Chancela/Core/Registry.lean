import Chancela.Core.Binding
import Chancela.Foundation.Replace

/-! # Runs of the registry

The state a deployment keeps: the ledger, its books and its acts. A step opens a
book, calls a method of an act, seals an act or appends an unrelated event, and may
fail. Starting from created books and draft acts, every run keeps the registry
*sound* (`Chancela.Registry.Sound`): a sealed act is held by the ledger event its
row names, and the acts of a book hold the numbers up to its counter, each once.
-/

namespace Chancela

open ActFixityReport

/-- The ledger, the books and the acts. -/
structure Registry where
  ledger : Ledger
  books : List Book
  acts : List Act

/-- One operation. Books and acts are named by their positions. -/
inductive RegistryStep where
  | openAndSealBook (book : Nat) (entity : Entity) (termo : TermoDeAbertura) (actor : String)
      (id : Uuid) (now : OffsetDateTime)
  | callAct (act : Nat) (call : ActCall)
  | sealAct (book act : Nat) (entity : Entity) (rulePack : RulePack) (actor : String)
      (acknowledgeWarnings : Bool) (reference : Option ManualSignatureOriginalReference)
      (id : Uuid) (now : OffsetDateTime)
  | sealActWithEvidence (book act : Nat) (entity : Entity) (rulePack : RulePack) (actor : String)
      (acknowledgeWarnings : Bool) (evidence : SealEvidence) (id : Uuid) (now : OffsetDateTime)
  | append (call : AppendCall)
  | tryAppend (call : AppendCall)

namespace Registry

/-- Created books under distinct identities, draft acts without a trace of a seal,
and an empty ledger. -/
structure Fresh (registry : Registry) : Prop where
  ledger : registry.ledger = Ledger.new
  bookIds : (registry.books.map Book.id).Nodup
  created : ∀ book ∈ registry.books, book.state = .created ∧ book.lastAtaNumber = 0
  drafts : ∀ act ∈ registry.acts, act.state = .draft ∧ act.ataNumber = none ∧
    act.payloadDigest = none ∧ act.sealEventSeq = none ∧ act.sealMetadata = none

variable [Crates]

/-- Put what a seal returns back where its arguments came from. -/
def store (registry : Registry) (book act : Nat)
    (result : Except SealError SealOutcome × Book × Act × Ledger) : Registry where
  ledger := result.2.2.2
  books := registry.books.set book result.2.1
  acts := registry.acts.set act result.2.2.1

/-- The registry after one operation, completed or refused. -/
def step (registry : Registry) : RegistryStep → Registry
  | .openAndSealBook book entity termo actor id now =>
      match registry.books[book]? with
      | none => registry
      | some target =>
          let result := openAndSealBook target entity termo actor registry.ledger id now
          { registry with ledger := result.2.2, books := registry.books.set book result.2.1 }
  | .callAct act call =>
      match registry.acts[act]? with
      | none => registry
      | some target => { registry with acts := registry.acts.set act (target.after call) }
  | .sealAct book act entity rulePack actor acknowledgeWarnings reference id now =>
      match registry.books[book]?, registry.acts[act]? with
      | some target, some minutes =>
          registry.store book act (sealAct target minutes entity rulePack actor
            acknowledgeWarnings reference registry.ledger id now)
      | _, _ => registry
  | .sealActWithEvidence book act entity rulePack actor acknowledgeWarnings evidence id now =>
      match registry.books[book]?, registry.acts[act]? with
      | some target, some minutes =>
          registry.store book act (sealActWithEvidence target minutes entity rulePack actor
            acknowledgeWarnings evidence registry.ledger id now)
      | _, _ => registry
  | .append call => { registry with ledger := (registry.ledger.append call).2 }
  | .tryAppend call => { registry with ledger := (registry.ledger.tryAppend call).2 }

def run (registry : Registry) (steps : List RegistryStep) : Registry := steps.foldl step registry

end Registry

namespace Book

variable {book : Book} {act new : Act} {acts : List Act} {index : Nat}

def numberOf (book : Book) (act : Act) : List Nat :=
  if act.bookId = book.id then act.ataNumber.toList else []

theorem heldNumbers_eq_flatMap (book : Book) (acts : List Act) :
    book.heldNumbers acts = acts.flatMap book.numberOf := by
  induction acts with
  | nil => rfl
  | cons act rest ih =>
      rw [List.flatMap_cons, ← ih, heldNumbers, heldNumbers, numberOf]
      by_cases here : act.bookId = book.id
      · cases number : act.ataNumber <;> simp [here, number]
      · simp [here]

theorem heldNumbers_set_eq (present : acts[index]? = some act)
    (same : book.numberOf new = book.numberOf act) :
    book.heldNumbers (acts.set index new) = book.heldNumbers acts := by
  obtain ⟨front, back, whole, replaced⟩ := Replace.exists_split present
  rw [heldNumbers_eq_flatMap, heldNumbers_eq_flatMap, replaced, whole]
  simp [same]

theorem heldNumbers_set_perm (present : acts[index]? = some act)
    (unnumbered : act.ataNumber = none) :
    (book.heldNumbers (acts.set index new)).Perm (book.numberOf new ++ book.heldNumbers acts) := by
  obtain ⟨front, back, whole, replaced⟩ := Replace.exists_split present
  have nothing : book.numberOf act = [] := by
    simp [numberOf, unnumbered]
  rw [heldNumbers_eq_flatMap, heldNumbers_eq_flatMap, replaced, whole, List.flatMap_append,
    List.flatMap_cons, List.flatMap_append, List.flatMap_cons, nothing, List.nil_append]
  exact List.perm_append_comm_assoc _ _ _

end Book

section Runs

variable [Crates]

/-- An act is settled in a ledger: it has no trace of a seal, or the ledger holds the
seal event it names and its contents hash to the digest recorded there. -/
inductive Act.Settled (ledger : Ledger) (act : Act) : Prop where
  | unsealed (state : act.isSealed = false) (number : act.ataNumber = none)
      (row : act.payloadDigest = none)
  | sealed (state : act.isSealed = true) {metadata : SealMetadata} {number index : Nat}
      {event : Event} (bound : act.sealMetadata = some metadata)
      (sealedNumber : metadata.ataNumber = some number) (number_eq : act.ataNumber = some number)
      (seq : act.sealEventSeq = some index) (present : ledger.events[index]? = some event)
      (kind : event.kind = sealEventKind) (row : act.payloadDigest = some event.payloadDigest)
      (content : sealedActDigest act = some event.payloadDigest)

namespace Act.Settled

variable {ledger : Ledger} {act : Act}

theorem verdict (settled : act.Settled ledger) (numbered : ledger.Numbered) :
    verifyActFixity act (.fromLedger ledger) = .unsealed ∨
      verifyActFixity act (.fromLedger ledger) = .verified := by
  cases settled with
  | unsealed state number row => exact .inl (verifyActFixity_eq_unsealed_iff.mpr ⟨row, state⟩)
  | sealed state bound sealedNumber number_eq seq present kind row content =>
      refine .inr (verifyActFixity_eq_verified_iff.mpr
        ⟨_, _, row, ?_, bound, fun other stored => ?_, content⟩)
      · rw [seq]
        exact numbered.digestAt_eq present kind
      · rw [number_eq, ← sealedNumber, stored]

theorem ataNumber_of_signing (settled : act.Settled ledger) (signing : act.state = .signing) :
    act.ataNumber = none := by
  cases settled with
  | unsealed state number row => exact number
  | sealed state =>
      rw [isSealed_iff, signing] at state
      rcases state with other | other <;> cases other

theorem appendAt (settled : act.Settled ledger) (call : AppendCall) :
    act.Settled (ledger.appendAt call) := by
  cases settled with
  | unsealed state number row => exact .unsealed state number row
  | sealed state bound sealedNumber number_eq seq present kind row content =>
      have inside := (List.getElem?_eq_some_iff.mp present).1
      apply Act.Settled.sealed state bound sealedNumber number_eq seq _ kind row content
      rw [Ledger.appendAt, List.getElem?_append_left inside, present]

theorem after (settled : act.Settled ledger) (call : ActCall) :
    (act.after call).Settled ledger := by
  have effect := act.after_effect call
  obtain ⟨-, -, numberIs, rowIs, seqIs, metadataIs⟩ := effect.frame
  have stateIs := effect.isSealed_eq
  cases settled with
  | unsealed state number row =>
      exact .unsealed (stateIs.trans state) (numberIs.trans number) (rowIs.trans row)
  | sealed state bound sealedNumber number_eq seq present kind row content =>
      refine .sealed (stateIs.trans state) (metadataIs.trans bound) sealedNumber
        (numberIs.trans number_eq) (seqIs.trans seq) present kind (rowIs.trans row) ?_
      obtain ⟨moved, same⟩ := effect.of_isSealed state
      rw [same]
      exact content

theorem sealedAs {payload : List UInt8} {metadata : SealMetadata} {number : Nat}
    {call : AppendCall} (numbered : metadata.ataNumber = some number)
    (kind : call.kind = sealEventKind) (bytes : call.payload = payload)
    (preimage : sealedActPreimage act metadata = some payload) :
    (Chancela.sealedAs act ledger payload metadata number).Settled (ledger.appendAt call) := by
  subst bytes
  exact .sealed rfl rfl numbered rfl rfl (ledger.getElem?_appendAt call) kind rfl
    (sealedActDigest_sealedAs preimage)

end Act.Settled

namespace Registry

/-- The invariant of every run. -/
structure Sound (registry : Registry) : Prop where
  numbered : registry.ledger.Numbered
  bookIds : (registry.books.map Book.id).Nodup
  settled : ∀ act ∈ registry.acts, act.Settled registry.ledger
  numbers : ∀ book ∈ registry.books,
    (book.heldNumbers registry.acts).Perm (List.range' 1 book.lastAtaNumber)

variable {registry : Registry}

theorem Fresh.sound (fresh : registry.Fresh) : registry.Sound where
  numbered := fresh.ledger ▸ Ledger.numbered_new
  bookIds := fresh.bookIds
  settled := by
    intro act member
    obtain ⟨state, number, row, -⟩ := fresh.drafts act member
    exact .unsealed (by simp [Act.isSealed, state]) number row
  numbers := by
    intro book member
    have none : book.heldNumbers registry.acts = [] := by
      rw [Book.heldNumbers, List.filterMap_eq_nil_iff]
      intro act listed
      exact (fresh.drafts act (List.mem_of_mem_filter listed)).2.1
    rw [none, (fresh.created book member).2]
    exact .refl _

theorem Sound.appendAt (sound : registry.Sound) (call : AppendCall) :
    Sound { registry with ledger := registry.ledger.appendAt call } where
  numbered := sound.numbered.appendAt call
  bookIds := sound.bookIds
  settled := fun act member => (sound.settled act member).appendAt call
  numbers := sound.numbers

theorem Sound.callAct (sound : registry.Sound) {index : Nat} {act : Act}
    (present : registry.acts[index]? = some act) (call : ActCall) : Sound { registry with acts := registry.acts.set index (act.after call) } where
  numbered := sound.numbered
  bookIds := sound.bookIds
  settled := by
    intro other member
    rcases List.mem_or_eq_of_mem_set member with kept | rfl
    · exact sound.settled other kept
    · exact (sound.settled act (List.mem_of_getElem? present)).after call
  numbers := by
    intro book member
    obtain ⟨-, sameBook, sameNumber, -⟩ := (act.after_effect call).frame
    have same : book.numberOf (act.after call) = book.numberOf act := by
      rw [Book.numberOf, Book.numberOf, sameBook, sameNumber]
    rw [Book.heldNumbers_set_eq present same]
    exact sound.numbers book member

theorem Sound.setBook (sound : registry.Sound) {index : Nat} {target new : Book}
    (present : registry.books[index]? = some target) (sameId : new.id = target.id)
    (sameCounter : new.lastAtaNumber = target.lastAtaNumber) : Sound { registry with books := registry.books.set index new } where
  numbered := sound.numbered
  bookIds := Replace.nodup_map_set sound.bookIds present sameId
  settled := sound.settled
  numbers := by
    intro book member
    rcases List.mem_or_eq_of_mem_set member with kept | rfl
    · exact sound.numbers book kept
    · have held := sound.numbers target (List.mem_of_getElem? present)
      rw [Book.heldNumbers, sameId, sameCounter]
      exact held

theorem Sound.store (sound : registry.Sound) {bookIndex actIndex : Nat} {book : Book} {act : Act}
    (listed : registry.books[bookIndex]? = some book)
    (present : registry.acts[actIndex]? = some act)
    {result : Except SealError SealOutcome × Book × Act × Ledger}
    (effect : SealEffect book act registry.ledger result) :
    (registry.store bookIndex actIndex result).Sound := by
  cases effect with
  | refused fault =>
      have books : registry.books.set bookIndex book = registry.books := by
        obtain ⟨front, back, whole, replaced⟩ := Replace.exists_split listed
        rw [replaced, ← whole]
      have acts : registry.acts.set actIndex act = registry.acts := by
        obtain ⟨front, back, whole, replaced⟩ := Replace.exists_split present
        rw [replaced, ← whole]
      rw [Registry.store, books, acts]
      exact sound
  | completed inBook signing metadata numbered call kind preimage warnings =>
      have unnumbered :=
        (sound.settled act (List.mem_of_getElem? present)).ataNumber_of_signing signing
      refine ⟨sound.numbered.appendAt call, Replace.nodup_map_set sound.bookIds listed rfl, ?_, ?_⟩
      · intro other member
        rcases List.mem_or_eq_of_mem_set member with kept | rfl
        · exact (sound.settled other kept).appendAt call
        · exact .sealedAs numbered kind rfl preimage
      · intro other member
        apply (Book.heldNumbers_set_perm present unnumbered).trans
        rcases Replace.eq_or_key_ne_of_mem_set Book.id sound.bookIds listed member with rfl |
          ⟨kept, apart⟩
        · -- The book itself: its counter and its numbers grow by the same one.
          have taken : Book.numberOf { book with lastAtaNumber := book.lastAtaNumber + 1 }
              (sealedAs act registry.ledger call.payload metadata (book.lastAtaNumber + 1)) =
                [book.lastAtaNumber + 1] := if_pos inBook
          have held := sound.numbers book (List.mem_of_getElem? listed)
          have grown : ((book.lastAtaNumber + 1) :: book.heldNumbers registry.acts).Perm
              (List.range' 1 (book.lastAtaNumber + 1)) := by
            rw [List.range'_1_concat, Nat.add_comm 1]
            exact (held.cons _).trans (List.perm_append_singleton _ _).symm
          dsimp only
          rw [taken]
          exact grown
        · have nothing : other.numberOf (sealedAs act registry.ledger call.payload metadata
              (book.lastAtaNumber + 1)) = [] :=
            if_neg fun same => apart (Eq.trans (Eq.symm same) inBook)
          dsimp only
          rw [nothing]
          exact sound.numbers other kept

theorem Sound.step (sound : registry.Sound) (operation : RegistryStep) :
    (registry.step operation).Sound := by
  cases operation with
  | openAndSealBook book entity termo actor id now =>
      rw [Registry.step]
      split
      · exact sound
      · rename_i target listed
        obtain ⟨sameId, sameCounter, same | ⟨call, grown⟩⟩ :=
          openAndSealBook_effect target entity termo actor registry.ledger id now
        · simp only [same]
          exact sound.setBook listed sameId sameCounter
        · simp only [grown]
          exact (sound.appendAt call).setBook listed sameId sameCounter
  | callAct act call =>
      rw [Registry.step]
      split
      · exact sound
      · exact sound.callAct ‹_› call
  | sealAct book act entity rulePack actor acknowledgeWarnings reference id now =>
      rw [Registry.step]
      split
      · exact sound.store ‹_› ‹_› (sealAct_effect ..)
      · exact sound
  | sealActWithEvidence book act entity rulePack actor acknowledgeWarnings evidence id now =>
      rw [Registry.step]
      split
      · exact sound.store ‹_› ‹_› (sealActWithEvidence_effect ..)
      · exact sound
  | append call => exact sound.appendAt call
  | tryAppend call =>
      rw [Registry.step, Ledger.tryAppend]
      split
      · exact sound
      · exact sound.appendAt call

theorem Sound.run (sound : registry.Sound) (steps : List RegistryStep) :
    (registry.run steps).Sound := by
  induction steps generalizing registry with
  | nil => exact sound
  | cons operation rest ih => exact ih (sound.step operation)

end Registry

def Book.sealedNumbers (book : Book) (acts : List Act) : List (Option Nat) :=
  (acts.filter fun act => act.bookId = book.id && act.isSealed).map Act.ataNumber

theorem Book.sealedNumbers_eq {ledger : Ledger} {acts : List Act} (book : Book)
    (settled : ∀ act ∈ acts, act.Settled ledger) :
    book.sealedNumbers acts = (book.heldNumbers acts).map some := by
  induction acts with
  | nil => rfl
  | cons act rest ih =>
      have tail := ih fun other member => settled other (List.mem_cons_of_mem _ member)
      rw [sealedNumbers, heldNumbers] at tail ⊢
      by_cases here : act.bookId = book.id
      · cases settled act List.mem_cons_self with
        | unsealed state number row => simpa [here, state, number] using tail
        | sealed state bound sealedNumber number_eq seq present kind row content =>
            simpa [here, state, number_eq] using tail
      · simpa [here] using tail

/-- **Sealing over runs.** Whatever is done to created books and draft acts, in any
order, every sealed act verifies against the ledger, the numbering has no defect,
and the sealed acts of a book hold the numbers from one to its counter, each
once. -/
theorem Registry.fullyVerified_run {registry : Registry} (fresh : registry.Fresh)
    (steps : List RegistryStep) :
    (build (registry.run steps).acts (registry.run steps).books
        (.fromLedger (registry.run steps).ledger)).fullyVerified = true ∧
      (build (registry.run steps).acts (registry.run steps).books
        (.fromLedger (registry.run steps).ledger)).ataSequence = [] ∧
      ∀ book ∈ (registry.run steps).books,
        (book.sealedNumbers (registry.run steps).acts).Perm
          ((List.range' 1 book.lastAtaNumber).map some) := by
  have sound := fresh.sound.run steps
  have verdicts : ∀ act ∈ (registry.run steps).acts,
      (verifyActFixity act (.fromLedger (registry.run steps).ledger)).isBroken = false ∧
        (verifyActFixity act (.fromLedger (registry.run steps).ledger)).isUnverifiable = false := by
    intro act member
    rcases (sound.settled act member).verdict sound.numbered with verdict | verdict
    all_goals
      rw [verdict]
      exact ⟨rfl, rfl⟩
  have distinct : ∀ book ∈ (registry.run steps).books,
      (book.heldNumbers (registry.run steps).acts).Nodup := by
    intro book member
    exact (sound.numbers book member).nodup_iff.mpr List.nodup_range'
  refine ⟨?_, ?_, ?_⟩
  · rw [fullyVerified_build_iff, healthy_build_iff]
    exact ⟨⟨fun act member => (verdicts act member).1, distinct⟩,
      fun act member => (verdicts act member).2⟩
  · rw [ataSequence_build_eq_nil_iff]
    intro book member
    rw [Book.checkAtaSequence_eq_nil_iff]
    refine ⟨distinct book member, fun number held => ?_⟩
    have reached := (sound.numbers book member).mem_iff.mp held
    rw [List.mem_range'_1] at reached
    omega
  · intro book member
    rw [Book.sealedNumbers_eq book sound.settled]
    exact (sound.numbers book member).map some

end Runs

def annualRegistry : Registry := ⟨Ledger.new, [Book.new annualMeeting.bookId], [annualMeeting]⟩

def annualNow : OffsetDateTime := ⟨2026, 3, 30, 12, 0, 0, 0, 0⟩

/-- Open the book, take the draft to signature, seal it, archive it. -/
def annualSteps : List RegistryStep :=
  [.openAndSealBook 0 quotasEntity annualTermo "amelia.marques" ⟨6#128⟩ annualNow,
    .callAct 0 (.advanceTo .review), .callAct 0 (.advanceTo .convened),
    .callAct 0 (.advanceTo .deliberated), .callAct 0 (.advanceTo .textApproved),
    .callAct 0 (.advanceTo .signing),
    .sealActWithEvidence 0 0 quotasEntity lenientPack "amelia.marques" false manualOriginal
      ⟨7#128⟩ annualNow,
    .callAct 0 .archive]

theorem annualRegistry_fresh : annualRegistry.Fresh where
  ledger := rfl
  bookIds := List.nodup_singleton _
  created := by
    intro book member
    rw [List.mem_singleton.mp member]
    exact ⟨rfl, rfl⟩
  drafts := by
    intro act member
    rw [List.mem_singleton.mp member]
    exact ⟨rfl, rfl, rfl, rfl, rfl⟩

open scoped Reference in
theorem fullyVerified_run_annual :
    (annualRegistry.run annualSteps).acts.map (fun act => (act.state, act.ataNumber)) =
        [(.archived, some 1)] ∧
      (build (annualRegistry.run annualSteps).acts (annualRegistry.run annualSteps).books
        (.fromLedger (annualRegistry.run annualSteps).ledger)).fullyVerified = true :=
  ⟨by decide +kernel, (Registry.fullyVerified_run annualRegistry_fresh annualSteps).1⟩

end Chancela
