import Chancela.Core.Act
import Chancela.Foundation.OrderedMap
import Mathlib.Data.List.Sort

/-! # Books and ata numbers

A book is opened with a termo de abertura and then hands out ata numbers one after
the other. `check_ata_sequence` reports numbers that several acts hold and numbers
the counter has not reached; it reports nothing exactly when the acts of the book
hold distinct numbers up to the counter (`Chancela.Book.checkAtaSequence_eq_nil_iff`).
-/

namespace Chancela

inductive BookState where
  | created
  | open_
  | closed
deriving DecidableEq

inductive NumberingScheme where
  | sequential
  | looseLeaf
deriving DecidableEq

def NumberingScheme.name : NumberingScheme → String
  | .sequential => "Sequential"
  | .looseLeaf => "LooseLeaf"

instance : Serialize NumberingScheme := ⟨fun scheme => some (.str scheme.name)⟩

structure TermoSignatory where
  name : String
  capacity : Option SignatoryCapacity
  capacityNote : Option String
  email : Option String
deriving DecidableEq

instance : Serialize TermoSignatory where
  serialize signatory := Json.struct [
    Json.field "name" signatory.name,
    Json.field "capacity" signatory.capacity,
    Json.skipNone "capacity_note" signatory.capacityNote,
    Json.skipNone "email" signatory.email]

structure TermoClauseRecord where
  heading : Option String
  text : String
deriving DecidableEq

instance : Serialize TermoClauseRecord where
  serialize clause := Json.struct [
    Json.skipNone "heading" clause.heading,
    Json.field "text" clause.text]

structure TermoCollectedSignature where
  slotId : Uuid
  name : String
  capacity : SignatoryCapacity
  capacityNote : Option String
  signedAt : OffsetDateTime
  signatureId : Option Uuid
deriving DecidableEq

instance [Crates] : Serialize TermoCollectedSignature where
  serialize signature := Json.struct [
    Json.field "slot_id" signature.slotId,
    Json.field "name" signature.name,
    Json.field "capacity" signature.capacity,
    Json.skipNone "capacity_note" signature.capacityNote,
    Json.field "signed_at" signature.signedAt,
    Json.skipNone "signature_id" signature.signatureId]

/-- The instrument a book is opened with. -/
structure TermoDeAbertura where
  entityName : String
  entityNipc : String
  entitySeat : String
  purpose : String
  numberingScheme : NumberingScheme
  openingDate : Date
  requiredSignatories : List String
  requiredSignatoryRecords : List TermoSignatory
  termoInstrumentId : Option Uuid
  title : Option String
  bookNumber : Option UInt32
  place : Option String
  pageCapacity : Option UInt32
  body : List TermoClauseRecord
  collectedSignatures : List TermoCollectedSignature
deriving DecidableEq

instance [Crates] : Serialize TermoDeAbertura where
  serialize termo := Json.struct [
    Json.field "entity_name" termo.entityName,
    Json.field "entity_nipc" termo.entityNipc,
    Json.field "entity_seat" termo.entitySeat,
    Json.field "purpose" termo.purpose,
    Json.field "numbering_scheme" termo.numberingScheme,
    Json.field "opening_date" termo.openingDate,
    Json.field "required_signatories" termo.requiredSignatories,
    Json.skipEmpty "required_signatory_records" termo.requiredSignatoryRecords,
    Json.skipNone "termo_instrument_id" termo.termoInstrumentId,
    Json.skipNone "title" termo.title,
    Json.skipNone "book_number" termo.bookNumber,
    Json.skipNone "place" termo.place,
    Json.skipNone "page_capacity" termo.pageCapacity,
    Json.skipEmpty "body" termo.body,
    Json.skipEmpty "collected_signatures" termo.collectedSignatures]

/-- Why a book was closed. -/
inductive ClosingReason where
  | bookFull
  | entityDissolved
  | migrationToSuccessor
  | other (note : String)
deriving DecidableEq

/-- The instrument a book is closed with. -/
structure TermoDeEncerramento where
  ataCount : Nat
  reason : ClosingReason
  closingDate : Date
  requiredSignatories : List String
  requiredSignatoryRecords : List TermoSignatory
  termoInstrumentId : Option Uuid
  title : Option String
  bookNumber : Option UInt32
  place : Option String
  body : List TermoClauseRecord
  collectedSignatures : List TermoCollectedSignature
  pagesUsedAtClose : Option UInt32
deriving DecidableEq

inductive BookError where
  | notOpenable (state : BookState)
  | notClosable (state : BookState)
  | notOpen (state : BookState)
  | wrongBook (actBook book : String)
  | pageCapacityOutOfRange (requested min max : UInt32)
  | capacityExceeded (capacity used reserved required : UInt32)
  | pageCountOverflow
  | noSuchReservation (reserved requested : UInt32)
deriving DecidableEq

def minPageCapacity : UInt32 := 1

def maxPageCapacity : UInt32 := 10000

/-- A livro de atas. -/
structure Book where
  id : BookId
  state : BookState
  termoAbertura : Option TermoDeAbertura
  termoEncerramento : Option TermoDeEncerramento
  lastAtaNumber : Nat
  bookNumber : Option UInt32
  pageCapacity : Option UInt32
  pagesUsed : UInt32
  pagesReserved : UInt32
deriving DecidableEq

/-- A defect in the numbering of a book. -/
inductive AtaSequenceIssue where
  | duplicate (ataNumber : Nat) (actIds : List String)
  | beyondCounter (ataNumber lastAtaNumber : Nat)
deriving DecidableEq

def AtaSequenceIssue.isUniquenessViolation : AtaSequenceIssue → Bool
  | .duplicate _ _ => true
  | .beyondCounter _ _ => false

namespace Book

/-- `Book::new`, with the identity it draws. -/
def new (id : BookId) : Book where
  id := id
  state := .created
  termoAbertura := none
  termoEncerramento := none
  lastAtaNumber := 0
  bookNumber := none
  pageCapacity := none
  pagesUsed := 0
  pagesReserved := 0

/-- `Book::open`: the outcome and the book after the call. -/
def open_ (book : Book) (termo : TermoDeAbertura) : Except BookError Unit × Book :=
  let opened (book : Book) : Book :=
    { book with
      bookNumber := termo.bookNumber.or book.bookNumber
      termoAbertura := some termo
      state := .open_ }
  if book.state ≠ .created then (.error (.notOpenable book.state), book)
  else match termo.pageCapacity with
    | some capacity =>
        if minPageCapacity ≤ capacity ∧ capacity ≤ maxPageCapacity then
          (.ok (), opened { book with pageCapacity := some capacity })
        else
          (.error (.pageCapacityOutOfRange capacity minPageCapacity maxPageCapacity), book)
    | none => (.ok (), opened book)

def assignNextAtaNumber (book : Book) : Except BookError Nat × Book :=
  if book.state ≠ .open_ then (.error (.notOpen book.state), book)
  else (.ok (book.lastAtaNumber + 1), { book with lastAtaNumber := book.lastAtaNumber + 1 })

/-- The acts of a book that hold a number: the number and the act's identity. -/
def numberedActs (book : Book) (acts : List Act) : List (Nat × String) :=
  acts.filterMap fun act =>
    if act.bookId ≠ book.id then none else act.ataNumber.map (·, act.id.display)

/-- What is wrong with one number and the acts that hold it. -/
def ataNumberIssues (book : Book) (ataNumber : Nat) (actIds : List String) :
    List AtaSequenceIssue :=
  (if 1 < actIds.length then [.duplicate ataNumber (actIds.insertionSort (· ≤ ·))] else []) ++
    if book.lastAtaNumber < ataNumber then [.beyondCounter ataNumber book.lastAtaNumber] else []

def checkAtaSequence (book : Book) (acts : List Act) : List AtaSequenceIssue :=
  (OrderedMap.group (book.numberedActs acts)).flatMap fun entry =>
    book.ataNumberIssues entry.1 entry.2

def heldNumbers (book : Book) (acts : List Act) : List Nat :=
  (acts.filter fun act => act.bookId = book.id).filterMap Act.ataNumber

theorem open_spec (book : Book) (termo : TermoDeAbertura) :
    (book.open_ termo).2.id = book.id ∧
      (book.open_ termo).2.lastAtaNumber = book.lastAtaNumber := by
  unfold open_
  dsimp only
  split
  · exact ⟨rfl, rfl⟩
  · split
    · split <;> exact ⟨rfl, rfl⟩
    · exact ⟨rfl, rfl⟩

/-- `Book::open` accepts the termo. -/
def Accepts (book : Book) (termo : TermoDeAbertura) : Prop :=
  book.state = .created ∧ ∀ capacity, termo.pageCapacity = some capacity →
    minPageCapacity ≤ capacity ∧ capacity ≤ maxPageCapacity

theorem open_cases (book : Book) (termo : TermoDeAbertura) :
    (book.Accepts termo ∧ (book.open_ termo).1 = .ok () ∧ (book.open_ termo).2.state = .open_) ∨
      (¬book.Accepts termo ∧ ∃ fault, book.open_ termo = (.error fault, book)) := by
  unfold open_ Accepts
  by_cases created : book.state = .created
  · cases declared : termo.pageCapacity with
    | none => simp [created]
    | some capacity =>
        by_cases inRange : minPageCapacity ≤ capacity ∧ capacity ≤ maxPageCapacity
        · simp [created, inRange]
        · simp [created, inRange]
  · simp [created]

theorem map_fst_numberedActs (book : Book) (acts : List Act) :
    (book.numberedActs acts).map Prod.fst = book.heldNumbers acts := by
  rw [numberedActs, heldNumbers, List.map_filterMap, List.filterMap_filter]
  apply List.filterMap_congr
  intro act _
  by_cases here : act.bookId = book.id
  · cases number : act.ataNumber <;> simp [here]
  · simp [here]

theorem length_valuesOf_numberedActs (book : Book) (acts : List Act) (number : Nat) :
    (OrderedMap.valuesOf number (book.numberedActs acts)).length =
      (book.heldNumbers acts).count number := by
  rw [OrderedMap.length_valuesOf, map_fst_numberedActs]

theorem forall_mem_checkAtaSequence_iff {book : Book} {acts : List Act}
    {accepts : AtaSequenceIssue → Prop} :
    (∀ issue ∈ book.checkAtaSequence acts, accepts issue) ↔
      ∀ number ∈ book.heldNumbers acts, ∀ issue ∈ book.ataNumberIssues number
        (OrderedMap.valuesOf number (book.numberedActs acts)), accepts issue := by
  have held : ∀ number, number ∈ book.heldNumbers acts ↔
      OrderedMap.valuesOf number (book.numberedActs acts) ≠ [] := by
    intro number
    rw [← List.count_pos_iff, ← length_valuesOf_numberedActs, List.length_pos_iff]
  simp only [checkAtaSequence, List.mem_flatMap, Prod.exists, OrderedMap.mem_group_iff,
    forall_exists_index, and_imp, held]
  constructor
  · intro accepted number present issue member
    exact accepted issue number _ present rfl member
  · intro accepted issue number ids present same member
    subst same
    exact accepted number present issue member

/-- **The numbering check is exact.** Nothing is reported when and only when the
acts of the book hold distinct numbers that the counter has reached. -/
theorem checkAtaSequence_eq_nil_iff {book : Book} {acts : List Act} :
    book.checkAtaSequence acts = [] ↔
      (book.heldNumbers acts).Nodup ∧
        ∀ number ∈ book.heldNumbers acts, number ≤ book.lastAtaNumber := by
  rw [List.eq_nil_iff_forall_not_mem, forall_mem_checkAtaSequence_iff,
    List.nodup_iff_count_le_one]
  simp only [← List.eq_nil_iff_forall_not_mem, ataNumberIssues, List.append_eq_nil_iff,
    ite_eq_right_iff, List.cons_ne_nil, imp_false, Nat.not_lt, length_valuesOf_numberedActs]
  constructor
  · intro clean
    refine ⟨fun number => ?_, fun number held => (clean number held).2⟩
    by_cases held : number ∈ book.heldNumbers acts
    · exact (clean number held).1
    · rw [List.count_eq_zero_of_not_mem held]
      exact Nat.zero_le 1
  · intro ⟨distinct, reached⟩ number held
    exact ⟨distinct number, reached number held⟩

theorem noUniquenessViolation_iff {book : Book} {acts : List Act} :
    (∀ issue ∈ book.checkAtaSequence acts, issue.isUniquenessViolation = false) ↔
      (book.heldNumbers acts).Nodup := by
  have issues : ∀ number ids,
      (∀ issue ∈ book.ataNumberIssues number ids, issue.isUniquenessViolation = false) ↔
        ids.length ≤ 1 := by
    intro number ids
    rw [← Nat.not_lt]
    by_cases several : 1 < ids.length <;> by_cases beyond : book.lastAtaNumber < number <;>
      simp [ataNumberIssues, several, beyond, AtaSequenceIssue.isUniquenessViolation]
  rw [forall_mem_checkAtaSequence_iff, List.nodup_iff_count_le_one]
  simp only [issues, length_valuesOf_numberedActs]
  constructor
  · intro clean number
    by_cases held : number ∈ book.heldNumbers acts
    · exact clean number held
    · rw [List.count_eq_zero_of_not_mem held]
      exact Nat.zero_le 1
  · intro distinct number _
    exact distinct number

end Book

def annualTermo : TermoDeAbertura where
  entityName := "Encosto Estratégico Lda"
  entityNipc := "503004642"
  entitySeat := "Lisboa"
  purpose := "Livro de atas da assembleia geral"
  numberingScheme := .sequential
  openingDate := ⟨2026, 1⟩
  requiredSignatories := ["Amélia Marques"]
  requiredSignatoryRecords := []
  termoInstrumentId := none
  title := none
  bookNumber := none
  place := none
  pageCapacity := none
  body := []
  collectedSignatures := []

end Chancela
