import Chancela.Core.Seal

/-! # Atomic sealing

A call that binds a book or an act to the ledger either fails and leaves no trace, or
appends one event and records it. Both seals are atomic. `open_and_seal_book` opens
the book before it serializes the termo and does not take the opening back, so it is
atomic exactly when the termo is refused or all of its signing times can be written
(`Chancela.SealingCall.atomic_iff`).
-/

namespace Chancela

/-- What the sealing operations may change. -/
structure Records where
  book : Book
  act : Act
  ledger : Ledger
deriving DecidableEq

/-- A call of one of the sealing operations. -/
inductive SealingCall where
  | openAndSealBook (entity : Entity) (termo : TermoDeAbertura) (actor : String) (id : Uuid)
      (now : OffsetDateTime)
  | sealAct (entity : Entity) (rulePack : RulePack) (actor : String) (acknowledgeWarnings : Bool)
      (reference : Option ManualSignatureOriginalReference) (id : Uuid) (now : OffsetDateTime)
  | sealActWithEvidence (entity : Entity) (rulePack : RulePack) (actor : String)
      (acknowledgeWarnings : Bool) (evidence : SealEvidence) (id : Uuid) (now : OffsetDateTime)

section Serialization

instance : TotalJson Uuid := ⟨fun _ failed => by cases failed⟩
instance : TotalJson Date := ⟨fun _ failed => by cases failed⟩
instance : TotalJson SignatoryCapacity := ⟨fun _ failed => by cases failed⟩
instance : TotalJson NumberingScheme := ⟨fun _ failed => by cases failed⟩
instance : TotalJson TermoSignatory := .of_struct (fun _ => rfl) (by simp)
instance : TotalJson TermoClauseRecord := .of_struct (fun _ => rfl) (by simp)

variable [Crates]

/-- Every signing time the termo records has an RFC 3339 text. -/
def TermoDeAbertura.Formats (termo : TermoDeAbertura) : Prop :=
  ∀ signature ∈ termo.collectedSignatures, (formatRfc3339 signature.signedAt).isSome = true

theorem serialize_collectedSignature_eq_none_iff {signature : TermoCollectedSignature} :
    serialize signature = none ↔ formatRfc3339 signature.signedAt = none := by
  have instantField : (Json.field "signed_at" signature.signedAt).value = some none ↔
      formatRfc3339 signature.signedAt = none := by
    rw [Json.field, Option.some.injEq]
    exact Option.map_eq_none_iff
  apply Json.struct_eq_none_iff.trans
  simp [instantField]

theorem serialize_termo_eq_none_iff {termo : TermoDeAbertura} :
    serialize termo = none ↔ ¬termo.Formats := by
  apply Json.struct_eq_none_iff.trans
  simp [TotalJson.ne_none, serialize_collectedSignature_eq_none_iff, TermoDeAbertura.Formats]

end Serialization

namespace SealingCall

variable [Crates]

/-- The sequence number of the appended event or the error, and the records after the
call. -/
def run (records : Records) : SealingCall → Except SealError Nat × Records
  | .openAndSealBook entity termo actor id now =>
      let (outcome, book, ledger) :=
        Chancela.openAndSealBook records.book entity termo actor records.ledger id now
      (outcome, ⟨book, records.act, ledger⟩)
  | .sealAct entity rulePack actor acknowledgeWarnings reference id now =>
      let (outcome, book, act, ledger) := Chancela.sealAct records.book records.act entity rulePack
        actor acknowledgeWarnings reference records.ledger id now
      (outcome.map SealOutcome.eventSeq, ⟨book, act, ledger⟩)
  | .sealActWithEvidence entity rulePack actor acknowledgeWarnings evidence id now =>
      let (outcome, book, act, ledger) := Chancela.sealActWithEvidence records.book records.act
        entity rulePack actor acknowledgeWarnings evidence records.ledger id now
      (outcome.map SealOutcome.eventSeq, ⟨book, act, ledger⟩)

/-- The book and the act differ only in what `Book::open` sets, or in what
`mark_sealed` sets and the counter of the number it records. -/
def SetsOnly (before after : Records) : SealingCall → Prop
  | .openAndSealBook _ termo _ _ _ =>
      after.book = (before.book.open_ termo).2 ∧ after.act = before.act
  | _ => ∃ ataNumber payloadDigest sealEventSeq metadata,
      before.act.markSealed ataNumber payloadDigest sealEventSeq metadata = (.ok (), after.act) ∧
        after.book = { before.book with lastAtaNumber := ataNumber }

/-- A failed call changes nothing; a completed one appends one event and sets only
what it is for. -/
def Atomic (before : Records) (call : SealingCall) : Prop :=
  match call.run before with
  | (.error _, after) => after = before
  | (.ok _, after) =>
      (∃ event, after.ledger.events = before.ledger.events ++ [event]) ∧
        call.SetsOnly before after

/-- The call opens no book, the book refuses the termo, or the termo can be
written. -/
def NoFailedWrite (before : Records) : SealingCall → Prop
  | .openAndSealBook _ termo _ _ _ => ¬before.book.Accepts termo ∨ termo.Formats
  | _ => True

theorem atomic_of_sealEffect {before : Records} {call : SealingCall}
    {result : Except SealError SealOutcome × Book × Act × Ledger}
    (effect : SealEffect before.book before.act before.ledger result)
    (reports : call.run before =
      (result.1.map SealOutcome.eventSeq, ⟨result.2.1, result.2.2.1, result.2.2.2⟩))
    (sets : ∀ after ataNumber payloadDigest sealEventSeq metadata,
      before.act.markSealed ataNumber payloadDigest sealEventSeq metadata = (.ok (), after.act) →
        after.book = { before.book with lastAtaNumber := ataNumber } →
          call.SetsOnly before after) :
    call.Atomic before := by
  rw [Atomic, reports]
  cases effect with
  | refused fault => rfl
  | completed inBook signing metadata numbered appended kind preimage warnings =>
      refine ⟨⟨_, rfl⟩, sets _ (before.book.lastAtaNumber + 1) (digest appended.payload)
        before.ledger.events.length metadata ?_ rfl⟩
      rw [Act.markSealed, if_neg (not_not.mpr signing)]
      rfl

theorem atomic_openAndSealBook_iff {before : Records} {entity : Entity} {termo : TermoDeAbertura}
    {actor : String} {id : Uuid} {now : OffsetDateTime} :
    (openAndSealBook entity termo actor id now).Atomic before ↔
      ¬before.book.Accepts termo ∨ termo.Formats := by
  rcases before.book.open_cases termo with ⟨accepts, opens, isOpen⟩ | ⟨refuses, fault, opens⟩
  · have result : before.book.open_ termo = (.ok (), (before.book.open_ termo).2) :=
      Prod.ext opens rfl
    by_cases formats : termo.Formats
    · obtain ⟨json, written⟩ :=
        Option.ne_none_iff_exists'.mp (mt serialize_termo_eq_none_iff.mp (not_not.mpr formats))
      refine iff_of_true ?_ (.inr formats)
      rw [Atomic, run, Chancela.openAndSealBook, result, written]
      exact ⟨⟨_, rfl⟩, rfl, rfl⟩
    · refine iff_of_false ?_ (by simp [accepts, formats])
      rw [Atomic, run, Chancela.openAndSealBook, result,
        serialize_termo_eq_none_iff.mpr formats]
      intro same
      have unopened : (before.book.open_ termo).2 = before.book := congrArg Records.book same
      rw [unopened, accepts.1] at isOpen
      cases isOpen
  · refine iff_of_true ?_ (.inl refuses)
    rw [Atomic, run, Chancela.openAndSealBook, opens]

/-- **When sealing is atomic.** A call fails without a trace or completes as one
change, unless it opens a book with a termo that cannot be written. -/
theorem atomic_iff (before : Records) (call : SealingCall) :
    call.Atomic before ↔ call.NoFailedWrite before := by
  cases call with
  | openAndSealBook entity termo actor id now => exact atomic_openAndSealBook_iff
  | sealAct entity rulePack actor acknowledgeWarnings reference id now =>
      refine iff_of_true ?_ trivial
      apply atomic_of_sealEffect (sealAct_effect before.book before.act entity rulePack actor
        acknowledgeWarnings reference before.ledger id now) rfl
      intro after ataNumber payloadDigest sealEventSeq metadata marked counted
      exact ⟨ataNumber, payloadDigest, sealEventSeq, metadata, marked, counted⟩
  | sealActWithEvidence entity rulePack actor acknowledgeWarnings evidence id now =>
      refine iff_of_true ?_ trivial
      apply atomic_of_sealEffect (sealActWithEvidence_effect before.book before.act entity rulePack
        actor acknowledgeWarnings evidence before.ledger id now) rfl
      intro after ataNumber payloadDigest sealEventSeq metadata marked counted
      exact ⟨ataNumber, payloadDigest, sealEventSeq, metadata, marked, counted⟩

end SealingCall

/-- An opening instrument signed in a year that RFC 3339 cannot write. -/
def unwritableTermo : TermoDeAbertura :=
  { annualTermo with
    collectedSignatures :=
      [⟨⟨5#128⟩, "Amélia Marques", .manager, none, ⟨-1, 1, 1, 10, 0, 0, 0, 0⟩, none⟩] }

open scoped Reference in
/-- Opening a book with it fails and leaves the book open. -/
theorem not_atomic_open_unwritable :
    ¬(SealingCall.openAndSealBook quotasEntity unwritableTermo "amelia.marques" ⟨6#128⟩
        ⟨2026, 3, 30, 12, 0, 0, 0, 0⟩).Atomic
      ⟨Book.new annualMeeting.bookId, annualMeeting, Ledger.new⟩ := by
  intro atomic
  rcases SealingCall.atomic_openAndSealBook_iff.mp atomic with refuses | formats
  · apply refuses
    exact ⟨rfl, fun capacity declared => by cases declared⟩
  · exact Bool.false_ne_true (formats _ (List.mem_singleton_self _))

end Chancela
