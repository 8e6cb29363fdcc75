import Chancela.Api.PageMoves
import Chancela.Crates.Reference

/-! # Page accounting across acts

In every run of the act endpoints, whatever is refused and whichever write fails, the pages
reserved on a book are those of its acts out for signature and the pages used are those of its
sealed acts (`Chancela.ActsState.pagesAccounted`). A reservation is therefore there when its
act is sealed.
-/

namespace Chancela

open Outcome

/-! ## Faults of the page counts -/

def BookError.isPageFault : BookError → Bool
  | .capacityExceeded _ _ _ _ | .noSuchReservation _ _ | .pageCountOverflow => true
  | _ => false

def ActApiError.isPageFault : ActApiError → Bool
  | .book fault | .sealing (.book fault) => fault.isPageFault
  | .bookPageCapacityExceeded _ _ _ _ => true
  | _ => false

def ActApiError.Unrelated (fault : ActApiError) : Prop := fault.isPageFault = false

section Faults

variable [Crates] {state : ActsState} {around : Surroundings} {ledger : Ledger} {change : Change}

omit [Crates] in
theorem faultsIn_serviced {α : Type} (answer : Except ServiceError α) :
    FaultsIn ActApiError.Unrelated (serviced answer) := by
  cases answer with
  | error fault => exact .error rfl
  | ok value => exact .ok value

omit [Crates] in
theorem faultsIn_rowOrNotFound {α : Type} (row : Option α) :
    FaultsIn ActApiError.Unrelated (rowOrNotFound row) := by
  cases row with
  | none => exact .error rfl
  | some value => exact .ok value

omit [Crates] in
theorem faultsIn_actInOpenBook (rows : Rows) (id : ActId) :
    FaultsIn ActApiError.Unrelated (rows.actInOpenBook id) := by
  refine .bind (faultsIn_rowOrNotFound _) fun act => ?_
  refine .bind (faultsIn_rowOrNotFound _) fun book => ?_
  exact .bind (.rejectIf rfl) fun _ => .ok _

theorem faultsIn_sealInputs (rows : Rows) (id : ActId) (request : SealRequest) :
    FaultsIn ActApiError.Unrelated (sealInputs rows id request around) := by
  refine .bind (faultsIn_serviced _) fun _ => .bind ?_ fun manual => .bind ?_ fun canonical =>
    .bind (faultsIn_actInOpenBook rows id) fun found => .bind (faultsIn_rowOrNotFound _)
      fun entity => .bind (.rejectIf rfl) fun _ => .bind ?_ fun evidence => .ok _
  · unfold manualReference
    split
    · exact .ok none
    · rename_i reference _
      cases reference with
      | error fault => exact .error rfl
      | ok value => exact .ok (some value)
  · refine .bind (faultsIn_serviced _) fun loaded => ?_
    split
    · exact .error rfl
    · exact .bind (.rejectIf rfl) fun _ => .bind (faultsIn_serviced _) fun _ => .ok _
  · refine .bind (faultsIn_serviced _) fun signed => ?_
    split
    · exact .error rfl
    · exact faultsIn_serviced _
    · exact .ok _
    · exact .error rfl

def SealError.Unrelated (fault : SealError) : Prop :=
  ∀ bookFault, fault = .book bookFault → bookFault.isPageFault = false

omit [Crates] in
theorem faultsIn_validate (evidence : SealEvidence) :
    FaultsIn SealError.Unrelated evidence.validate := by
  have digests : ∀ field value,
      FaultsIn SealError.Unrelated (SealEvidence.checkDigest field value) := by
    intro field value
    unfold SealEvidence.checkDigest
    split
    · exact .ok ()
    · exact .error nofun
  cases evidence with
  | digital snapshot signed report =>
      exact .bind (digests _ _) fun _ => .bind (digests _ _) fun _ => digests _ _
  | manual reference =>
      simp only [SealEvidence.validate]
      split
      · exact .error nofun
      · exact .ok ()

theorem faultsIn_sealActWithEvidence (book : Book) (act : Act) (entity : Entity)
    (rulePack : RulePack) (actor : String) (acknowledge : Bool) (evidence : SealEvidence)
    (ledger : Ledger) (id : Uuid) (now : OffsetDateTime) :
    FaultsIn SealError.Unrelated (sealActWithEvidence book act entity rulePack actor acknowledge
      evidence ledger id now).1 := by
  have notOpen : ∀ fault after, book.assignNextAtaNumber = (.error fault, after) →
      fault.isPageFault = false := by
    intro fault after refused
    rw [Book.assignNextAtaNumber] at refused
    split at refused
    · cases refused
      rfl
    · cases refused
  unfold sealActWithEvidence
  split
  · rename_i fault invalid
    exact .error (faultsIn_validate evidence fault invalid)
  split
  · exact .error fun _ same => by cases same; rfl
  split
  · exact .error fun _ same => by cases same
  dsimp only
  split
  · exact .error fun _ same => by cases same
  split
  · exact .error fun _ same => by cases same
  split
  · rename_i fault after refused
    exact .error fun _ same => by cases same; exact notOpen fault after refused
  split
  · exact .error fun _ same => by cases same
  split
  · exact .error fun _ same => by cases same
  · exact .ok _

omit [Crates] in
theorem reportedSealError_unrelated (around : Surroundings) (act : Act) (entity : Entity)
    {fault : SealError} (unrelated : fault.Unrelated) :
    (reportedSealError around act entity fault).Unrelated := by
  cases fault with
  | book bookFault => exact unrelated bookFault rfl
  | _ => rfl

theorem faultsIn_tryAppendEvents (appended : Nat) (calls : List AppendCall) :
    FaultsIn ActApiError.Unrelated (tryAppendEvents ledger appended calls).1 := by
  induction calls generalizing ledger appended with
  | nil => exact .ok appended
  | cons call rest ih =>
      rw [tryAppendEvents]
      split
      · exact .error rfl
      · exact ih _

theorem faultsIn_appendAndPersist (appended : Nat) (calls : List AppendCall) :
    FaultsIn ActApiError.Unrelated
      (state.appendAndPersist ledger appended calls change around).1 := by
  have appends : FaultsIn ActApiError.Unrelated (tryAppendEvents ledger appended calls).1 :=
    faultsIn_tryAppendEvents appended calls
  unfold ActsState.appendAndPersist
  split
  · rename_i fault later failed
    rw [failed] at appends
    exact .error (appends fault rfl)
  · unfold ActsState.persistWriteThrough
    split
    · exact .error rfl
    · exact .ok ()

/-- **A seal is never refused for its pages** once the rows are accounted for. -/
theorem faultsIn_sealActHandler (accounted : state.live.Accounted) (id : ActId)
    (request : SealRequest) :
    FaultsIn ActApiError.Unrelated (state.sealActHandler id request around).1 := by
  unfold ActsState.sealActHandler
  split
  · rename_i fault refused
    exact .error (faultsIn_sealInputs _ _ _ fault refused)
  rename_i act book entity evidence ready
  obtain ⟨present, inBook, signing⟩ := sealInputs_eq_ok ready
  split
  · rename_i fault _ _ later refused
    have unrelated := faultsIn_sealActWithEvidence book.toBook act entity
      (around.rulePackFor entity) around.actor request.acknowledgeWarnings evidence.core
      state.ledger (around.newId 0) around.now
    rw [refused] at unrelated
    exact .error (reportedSealError_unrelated around act entity (unrelated fault rfl))
  rename_i outcome numbered next later sealing
  obtain ⟨rfl, -, -, samePages⟩ := sealActWithEvidence_eq_ok sealing
  have consumable := accounted.consumeFrozenPages present inBook signing samePages
  split
  · rename_i fault _ refused
    rw [refused] at consumable
    cases consumable
  have reports := @faultsIn_tryAppendEvents _ later 1
    (evidence.validationReport.toList.map fun payload =>
      around.eventCall 1 (actScope entity.id next) "document.signature.validated_for_seal"
        (some "technical evidence only") payload)
  unfold ActsState.recordSeal
  dsimp only
  split
  · rename_i fault later failed
    rw [failed] at reports
    exact .error (reports fault rfl)
  split
  · exact .error rfl
  · exact faultsIn_appendAndPersist _ _

end Faults

/-! ## Runs -/

/-- A request of the act endpoints, with what it finds around the rows. -/
inductive ActsCall where
  | advanceAct (id : ActId) (target : ActState) (around : Surroundings)
  | reopenAct (id : ActId) (reason : String) (around : Surroundings)
  | sealActHandler (id : ActId) (request : SealRequest) (around : Surroundings)
  | archiveAct (id : ActId) (around : Surroundings)
  | closeBook (id : BookId) (termo : Except ServiceError TermoDeEncerramento)
      (around : Surroundings)
  | closeFromTermo (id : BookId) (signed : Except ServiceError Unit)
      (project : FiledBook → Entity → Except ServiceError TermoDeEncerramento)
      (manifest : Except ServiceError (Option (List UInt8))) (around : Surroundings)

namespace ActsState

section Runs

variable [Crates]

def perform (state : ActsState) : ActsCall → Except ActApiError Unit × ActsState
  | .advanceAct id target around => state.advanceAct id target around
  | .reopenAct id reason around => state.reopenAct id reason around
  | .sealActHandler id request around => state.sealActHandler id request around
  | .archiveAct id around => state.archiveAct id around
  | .closeBook id termo around => state.closeBook id termo around
  | .closeFromTermo id signed project manifest around =>
      state.closeFromTermo id signed project manifest around

def after (state : ActsState) (call : ActsCall) : ActsState := (state.perform call).2

/-- The rows have no pages yet, and the store holds what the process holds. -/
structure NoPages (state : ActsState) : Prop where
  books : ∀ book ∈ state.live.books.values, book.pagesReserved = 0 ∧ book.pagesUsed = 0
  acts : ∀ act ∈ state.live.acts.values, act.pageCount = none
  agree : state.stored = state.live

/-- The books carry the pages of their acts, in both copies, and no seal fails for pages. -/
structure PagesAccounted (state : ActsState) : Prop where
  reserved : ∀ book ∈ state.live.books.values,
    book.pagesReserved.toNat = state.live.pagesIn book.id ActState.awaitsSeal
  used : ∀ book ∈ state.live.books.values,
    book.pagesUsed.toNat = state.live.pagesIn book.id ActState.isFinal
  agree : state.stored = state.live
  sealable : ∀ id request around fault,
    (state.sealActHandler id request around).1 = .error fault → fault.isPageFault = false

variable {state : ActsState}

theorem perform_effect (accounted : state.live.Accounted) (call : ActsCall) :
    state.Effect (state.after call) := by
  cases call with
  | advanceAct id target around => exact advanceAct_effect accounted id target
  | reopenAct id reason around => exact reopenAct_effect id reason
  | sealActHandler id request around => exact sealActHandler_effect id request
  | archiveAct id around => exact archiveAct_effect id
  | closeBook id termo around => exact closeBook_effect id termo
  | closeFromTermo id signed project manifest around =>
      exact closeFromTermo_effect id signed project manifest

/-- What every request keeps. -/
structure Sound (state : ActsState) : Prop where
  accounted : state.live.Accounted
  agree : state.stored = state.live

theorem Sound.after (sound : state.Sound) (call : ActsCall) : (state.after call).Sound := by
  cases perform_effect sound.accounted call with
  | untouched live stored =>
      exact ⟨live.symm ▸ sound.accounted, stored.trans (sound.agree.trans live.symm)⟩
  | written change balanced live stored =>
      refine ⟨live.symm ▸ sound.accounted.upsert balanced, ?_⟩
      rw [stored, live, sound.agree]

omit [Crates] in
theorem NoPages.sound (blank : state.NoPages) : state.Sound where
  agree := blank.agree
  accounted := by
    have none' : ∀ book held, state.live.pagesIn book held = 0 := by
      intro book held
      apply List.sum_eq_zero
      intro pages listed
      obtain ⟨act, member, rfl⟩ := List.mem_map.mp listed
      simp [Act.pages, blank.acts act member]
    refine ⟨?_, ?_, ?_, ?_⟩
    · intro id book present
      rw [none', (blank.books book (Table.mem_values_of_get present)).1]
      rfl
    · intro id book present
      rw [none', (blank.books book (Table.mem_values_of_get present)).2]
      rfl
    · intro id book present
      obtain ⟨reserved, used⟩ := blank.books book (Table.mem_values_of_get present)
      have committed : book.committedPages = 0 := by
        rw [Book.committedPages, reserved, used]
        rfl
      exact ⟨by omega, fun capacity _ => by omega⟩
    · intro id act present drafting
      exact blank.acts act (Table.mem_values_of_get present)

theorem Sound.accountsPages (sound : state.Sound) : state.PagesAccounted where
  reserved book member := sound.accounted.reserved _ book (Table.mem_values.mp member)
  used book member := sound.accounted.used _ book (Table.mem_values.mp member)
  agree := sound.agree
  sealable id request _ fault refused :=
    faultsIn_sealActHandler sound.accounted id request fault refused

/-- **Pages are accounted for in every run** from books and acts without pages. -/
theorem pagesAccounted {start : ActsState} (blank : start.NoPages) (calls : List ActsCall) :
    ∀ state ∈ Run.states ActsState.after start calls, state.PagesAccounted := by
  intro state member
  apply Sound.accountsPages
  exact Run.forall_mem_states_of_kept (fun _ call sound => sound.after call) blank.sound calls state
    member

end Runs

open scoped Reference

/-- An office where everybody may do everything and every act fills two pages. -/
def twoPageOffice : Surroundings where
  actor := "secretary"
  now := ⟨2026, 3, 30, 12, 0, 0, 0, 0⟩
  newId ordinal := ⟨BitVec.ofNat 128 ordinal⟩
  requirePermission _ := .ok ()
  loadDocument _ := .ok none
  loadSigned _ := .ok none
  latestSignedDocumentForSeal _ := .ok none
  entities _ := some quotasEntity
  rulePackFor _ := ⟨"csc-art63/v2", fun _ _ => []⟩
  freezeActBody _ _ := .ok none
  generateForAct _ _ _ := .ok (some ⟨⟨"doc", "csc-ata-ag/v1", "", []⟩, .null, 2⟩)
  generateForEncerramento _ _ := .ok none
  generateAbsentOwnerCommunication _ _ _ := .ok none
  validateCanonicalSigningSnapshot _ := .ok ()
  validateDigitalSealEvidence _ _ _ := .error (.internal "no signed documents")
  eventPayload _ := .ok []
  persist := .ok ()

/-- An open book of three pages and an act ready for signature. -/
def shortBook : FiledBook :=
  { Book.new ⟨0x22222222222222222222222222222222#128⟩ with
    state := .open_
    pageCapacity := some 3
    entityId := quotasEntity.id
    legalHold := none }

def shortRows : Rows where
  books := Table.fromIter [shortBook]
  acts := Table.fromIter [{ annualMeeting with state := .textApproved }]

/-- The disk is full when the reservation is to be written. -/
def fullDisk : Surroundings := { twoPageOffice with persist := .error (.internal "disk full") }

def fullBookTermo : TermoDeEncerramento where
  ataCount := 0
  reason := .bookFull
  closingDate := ⟨2026, 365⟩
  requiredSignatories := []
  requiredSignatoryRecords := []
  termoInstrumentId := none
  title := none
  bookNumber := none
  place := none
  body := []
  collectedSignatures := []
  pagesUsedAtClose := none

/-- Two pages reserved, given back, reserved again at the second attempt, and kept by the book
when it is closed. -/
theorem pagesAccounted_shortBook :
    (([.advanceAct annualMeeting.id .signing twoPageOffice,
        .reopenAct annualMeeting.id "typo" twoPageOffice,
        .advanceAct annualMeeting.id .signing fullDisk,
        .advanceAct annualMeeting.id .signing twoPageOffice,
        .closeBook shortBook.id (.ok fullBookTermo) twoPageOffice] : List ActsCall).foldl
      ActsState.after ⟨shortRows, shortRows, ⟨[]⟩⟩).PagesAccounted := by
  refine pagesAccounted ⟨?_, ?_, rfl⟩ _ _ (Run.foldl_mem_states _ _)
  · intro book member
    rw [List.mem_singleton.mp (Table.mem_of_get_fromIter (Table.mem_values.mp member))]
    decide
  · intro act member
    rw [List.mem_singleton.mp (Table.mem_of_get_fromIter (Table.mem_values.mp member))]
    decide

end ActsState

end Chancela
