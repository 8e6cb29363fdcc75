import Chancela.Api.Acts
import Mathlib.Algebra.Order.BigOperators.Group.List

/-! # How requests move pages

The reservation of an act stands on its book, and the page count it reserved on the act. Every
request either leaves the rows alone or writes a change that moves both by the same amount, to
the live rows and to the stored ones alike: `Chancela.ActsState.Effect`, one lemma for each
request.
-/

namespace Chancela

open Outcome Checked

def Act.pages (act : Act) : Nat := (act.pageCount.map UInt32.toNat).getD 0

/-- The pages frozen onto the acts of a book in some states. -/
def Rows.pagesIn (rows : Rows) (book : BookId) (held : ActState → Bool) : Nat :=
  (rows.acts.values.map fun act =>
    if act.bookId = book ∧ held act.state = true then act.pages else 0).sum

def ActState.awaitsSeal : ActState → Bool := (· == .signing)

def ActState.isFinal : ActState → Bool := fun state => state == .sealed || state == .archived

def Act.pagesWhen (act : Act) (held : ActState → Bool) : Nat :=
  if held act.state then act.pages else 0

theorem Rows.pagesIn_eq (rows : Rows) (book : BookId) (held : ActState → Bool) :
    rows.pagesIn book held = (rows.acts.values.map fun act =>
      if act.bookId = book then act.pagesWhen held else 0).sum := by
  have pointwise : ∀ act : Act, (if act.bookId = book ∧ held act.state = true then act.pages else 0)
      = if act.bookId = book then act.pagesWhen held else 0 := by
    intro act
    by_cases inBook : act.bookId = book <;> simp [inBook, Act.pagesWhen]
  simp only [Rows.pagesIn, pointwise]

/-! ## What the checks establish -/

section Checks

variable {α β ε : Type} {report : ε → ActApiError} {result : Except ε α × β} {value : α} {clone : β}

theorem onClone_eq_ok_iff :
    onClone report result = .ok (value, clone) ↔ result = (.ok value, clone) := by
  obtain ⟨outcome, after⟩ := result
  cases outcome <;> simp [onClone]

theorem rowOrNotFound_eq_ok_iff {row : Option α} :
    rowOrNotFound row = .ok value ↔ row = some value := by
  cases row <;> simp [rowOrNotFound]

theorem ensureBookOpenForActMutation_eq_ok_iff {book : FiledBook} {passed : Unit} :
    ensureBookOpenForActMutation book = .ok passed ↔ book.state = .open_ := by
  rw [ensureBookOpenForActMutation]
  exact rejectIf_eq_ok_iff.trans not_not

theorem actInOpenBook_eq_ok_iff {rows : Rows} {id : ActId} {act : Act} {book : FiledBook} :
    rows.actInOpenBook id = .ok (act, book) ↔ rows.acts.get id = some act ∧
      rows.books.get act.bookId = some book ∧ book.state = .open_ := by
  simp only [Rows.actInOpenBook, bind_eq_ok_iff, rowOrNotFound_eq_ok_iff,
    ensureBookOpenForActMutation_eq_ok_iff, pure, Except.pure, Except.ok.injEq, Prod.mk.injEq]
  constructor
  · rintro ⟨found, present, other, inBook, ⟨⟩, isOpen, rfl, rfl⟩
    exact ⟨present, inBook, isOpen⟩
  · rintro ⟨present, inBook, isOpen⟩
    exact ⟨act, present, book, inBook, (), isOpen, rfl, rfl⟩

end Checks

/-! ## Moves of pages on a book -/

section Books

variable {book after : Book} {pages : UInt32}

/-- What holds of a book whose page counts changed without leaving its capacity. -/
structure Book.Recounted (book after : Book) : Prop where
  sameId : after.id = book.id
  within : book.WithinCapacity → after.WithinCapacity

theorem Book.recounted_of_call {call : BookCall} (plain : ∀ termo, call ≠ .open_ termo)
    (sameId : (book.after call).id = book.id) : book.Recounted (book.after call) where
  sameId := sameId
  within within := by
    apply within.after
    cases call with
    | open_ termo => exact absurd rfl (plain termo)
    | _ => exact trivial

theorem Book.reservePages_eq_ok (reserved : book.reservePages pages = (.ok (), after)) :
    book.Recounted after ∧ after.pagesUsed = book.pagesUsed ∧
      after.pagesReserved.toNat = book.pagesReserved.toNat + pages.toNat := by
  have same : book.after (.reservePages pages) = after := congrArg Prod.snd reserved
  have sameId : after.id = book.id := by
    rw [Book.reservePages] at reserved
    grind
  refine ⟨same ▸ Book.recounted_of_call (fun _ given => by cases given) (same ▸ sameId), ?_⟩
  rw [Book.reservePages] at reserved
  split at reserved
  · cases reserved
  rename_i committed summed
  split at reserved
  · cases reserved
  rename_i total added
  split at reserved
  · cases reserved
  cases reserved
  have bound := total.toNat_lt
  rw [toNat_of_checkedAdd added, toNat_of_checkedAdd summed] at bound
  refine ⟨rfl, ?_⟩
  rw [UInt32.toNat_add, Nat.mod_eq_of_lt (by omega)]

theorem Book.consumeReservedPages_eq_ok
    (consumed : book.consumeReservedPages pages = (.ok (), after)) :
    book.Recounted after ∧ after.pagesReserved.toNat + pages.toNat = book.pagesReserved.toNat ∧
      after.pagesUsed.toNat = book.pagesUsed.toNat + pages.toNat := by
  have same : book.after (.consumeReservedPages pages) = after := congrArg Prod.snd consumed
  have sameId : after.id = book.id := by
    rw [Book.consumeReservedPages] at consumed
    grind
  refine ⟨same ▸ Book.recounted_of_call (fun _ given => by cases given) (same ▸ sameId), ?_⟩
  rw [Book.consumeReservedPages] at consumed
  split at consumed
  · cases consumed
  rename_i reserved subtracted
  split at consumed
  · cases consumed
  rename_i used summed
  split at consumed
  · cases consumed
  cases consumed
  obtain ⟨held, rest⟩ := toNat_of_checkedSub subtracted
  exact ⟨by rw [rest]; omega, toNat_of_checkedAdd summed⟩

theorem Book.releaseReservedPages_eq_ok
    (released : book.releaseReservedPages pages = (.ok (), after)) :
    book.Recounted after ∧ after.pagesUsed = book.pagesUsed ∧
      after.pagesReserved.toNat + pages.toNat = book.pagesReserved.toNat := by
  have same : book.after (.releaseReservedPages pages) = after := congrArg Prod.snd released
  have sameId : after.id = book.id := by
    rw [Book.releaseReservedPages] at released
    grind
  refine ⟨same ▸ Book.recounted_of_call (fun _ given => by cases given) (same ▸ sameId), ?_⟩
  rw [Book.releaseReservedPages] at released
  split at released
  · cases released
  rename_i reserved subtracted
  cases released
  obtain ⟨held, rest⟩ := toNat_of_checkedSub subtracted
  exact ⟨rfl, by rw [rest]; omega⟩

theorem Book.close_eq_ok {termo : TermoDeEncerramento}
    (closed : book.close termo = (.ok (), after)) :
    book.Recounted after ∧ after.pagesUsed = book.pagesUsed ∧
      after.pagesReserved = book.pagesReserved := by
  have same : book.after (.close termo) = after := congrArg Prod.snd closed
  rw [Book.close] at closed
  split at closed
  · cases closed
  cases closed
  exact ⟨same ▸ Book.recounted_of_call (fun _ given => by cases given) (same ▸ rfl), rfl, rfl⟩

end Books

/-! ## Moves of an act -/

theorem Act.pagesWhen_eq_zero {act : Act} (blank : act.pageCount = none)
    (held : ActState → Bool) : act.pagesWhen held = 0 := by
  simp [Act.pagesWhen, Act.pages, blank]

theorem Act.pagesWhen_eq {act : Act} {pages : UInt32} (frozen : act.pageCount = some pages)
    (held : ActState → Bool) : act.pagesWhen held = if held act.state then pages.toNat else 0 := by
  simp [Act.pagesWhen, Act.pages, frozen]

/-- The same act in the same book. -/
structure Act.SameRow (act next : Act) : Prop where
  id : next.id = act.id
  bookId : next.bookId = act.bookId

variable {act next : Act}

theorem Act.advanceTo_eq_ok {target : ActState} (advanced : act.advanceTo target = (.ok (), next)) :
    act.isMutable = true ∧ act.SameRow next ∧ next.state = target ∧
      next.pageCount = act.pageCount := by
  unfold Act.advanceTo at advanced
  split at advanced
  · cases advanced
  split at advanced
  · rename_i step
    cases advanced
    exact ⟨Act.isMutable_iff.mpr (Act.isNextState_spec step).1, ⟨rfl, rfl⟩, rfl, rfl⟩
  · cases advanced

theorem Act.freezePageCount_eq_ok {pages : UInt32}
    (frozen : act.freezePageCount pages = (.ok (), next)) :
    act.SameRow next ∧ next.state = act.state ∧ next.pageCount = some pages := by
  unfold Act.freezePageCount at frozen
  split at frozen
  · rename_i earlier known
    split at frozen
    · rename_i same
      cases frozen
      exact ⟨⟨rfl, rfl⟩, rfl, same ▸ known⟩
    · cases frozen
  · split at frozen
    · cases frozen
    · cases frozen
      exact ⟨⟨rfl, rfl⟩, rfl, rfl⟩

/-- A reopened act goes from `Signing` to `TextApproved` and hands its page count back. -/
theorem Act.reopenForCorrection_eq_ok {released : Option UInt32}
    (reopened : act.reopenForCorrection = (.ok released, next)) :
    act.SameRow next ∧ act.state = .signing ∧ next.state = .textApproved ∧
      released = act.pageCount ∧ next.pageCount = none := by
  unfold Act.reopenForCorrection at reopened
  split at reopened
  · cases reopened
  rename_i signing
  split at reopened
  · cases reopened
  cases reopened
  exact ⟨⟨rfl, rfl⟩, not_not.mp signing, rfl, rfl, rfl⟩

theorem Act.archive_eq_ok (archived : act.archive = (.ok (), next)) :
    act.SameRow next ∧ act.state = .sealed ∧ next.state = .archived ∧
      next.pageCount = act.pageCount := by
  unfold Act.archive at archived
  split at archived
  · rename_i isSealed
    cases archived
    exact ⟨⟨rfl, rfl⟩, isSealed, rfl, rfl⟩
  · cases archived

/-! ## What a request writes -/

/-- A change that moves the pages of a book by as much as those of its act. -/
inductive Balanced (rows : Rows) : Change → Prop where
  /-- Only the act, whose pages count where they counted. -/
  | actOnly {old next : Act} (present : rows.acts.get next.id = some old)
      (sameBook : next.bookId = old.bookId)
      (reserved : next.pagesWhen ActState.awaitsSeal = old.pagesWhen ActState.awaitsSeal)
      (used : next.pagesWhen ActState.isFinal = old.pagesWhen ActState.isFinal)
      (unfrozen : next.isMutable = true → next.pageCount = none) :
      Balanced rows ⟨some next, none⟩
  /-- The act and its book together. -/
  | both {old next : Act} {book after : FiledBook} (present : rows.acts.get next.id = some old)
      (sameBook : next.bookId = old.bookId) (inBook : rows.books.get old.bookId = some book)
      (recounted : book.toBook.Recounted after.toBook)
      (reserved : after.pagesReserved.toNat + old.pagesWhen ActState.awaitsSeal =
        book.pagesReserved.toNat + next.pagesWhen ActState.awaitsSeal)
      (used : after.pagesUsed.toNat + old.pagesWhen ActState.isFinal =
        book.pagesUsed.toNat + next.pagesWhen ActState.isFinal)
      (unfrozen : next.isMutable = true → next.pageCount = none) :
      Balanced rows ⟨some next, some after⟩
  /-- Only the book, whose counts stay. -/
  | bookOnly {book after : FiledBook} (present : rows.books.get book.id = some book)
      (recounted : book.toBook.Recounted after.toBook) (used : after.pagesUsed = book.pagesUsed)
      (reserved : after.pagesReserved = book.pagesReserved) :
      Balanced rows ⟨none, some after⟩

/-- The rows are accounted for: every book holds the pages of its acts, within its capacity,
and no act in drafting has any. -/
structure Rows.Accounted (rows : Rows) : Prop where
  reserved : ∀ id book, rows.books.get id = some book →
    book.pagesReserved.toNat = rows.pagesIn id ActState.awaitsSeal
  used : ∀ id book, rows.books.get id = some book →
    book.pagesUsed.toNat = rows.pagesIn id ActState.isFinal
  within : ∀ id book, rows.books.get id = some book → book.toBook.WithinCapacity
  unfrozen : ∀ id act, rows.acts.get id = some act → act.isMutable = true → act.pageCount = none

section Sums

variable {rows : Rows} {old next : Act} {held : ActState → Bool} {id : BookId}

theorem Rows.pagesIn_insert {books : Table fun book : FiledBook => book.id}
    (present : rows.acts.get next.id = some old) (sameBook : next.bookId = old.bookId) :
    Rows.pagesIn ⟨books, rows.acts.insert next⟩ id held +
        (if old.bookId = id then old.pagesWhen held else 0) =
      rows.pagesIn id held + (if old.bookId = id then next.pagesWhen held else 0) := by
  have moved := Table.sum_map_values_insert
    (fun act => if act.bookId = id then act.pagesWhen held else 0) present
  simp only [sameBook] at moved
  rw [Rows.pagesIn_eq, Rows.pagesIn_eq]
  exact moved

theorem Rows.pagesWhen_le_pagesIn {actId : ActId} {act : Act}
    (present : rows.acts.get actId = some act) :
    act.pagesWhen held ≤ rows.pagesIn act.bookId held := by
  rw [Rows.pagesIn_eq]
  apply List.le_sum_of_mem
  refine List.mem_map.mpr ⟨act, Table.mem_values_of_get present, ?_⟩
  rw [if_pos rfl]

end Sums

theorem Rows.Accounted.upsert {rows : Rows} {change : Change} (accounted : rows.Accounted)
    (balanced : Balanced rows change) : (rows.upsert change).Accounted := by
  cases balanced with
  | actOnly present sameBook reserved used unfrozen =>
      rename_i old next
      have kept : ∀ held, next.pagesWhen held = old.pagesWhen held → ∀ id,
          (rows.upsert ⟨some next, none⟩).pagesIn id held = rows.pagesIn id held := by
        intro held same id
        have moved := @Rows.pagesIn_insert rows old next held id rows.books present sameBook
        rw [same] at moved
        exact Nat.add_right_cancel moved
      refine ⟨?_, ?_, accounted.within, ?_⟩
      · intro id book listed
        rw [kept _ reserved id]
        exact accounted.reserved id book listed
      · intro id book listed
        rw [kept _ used id]
        exact accounted.used id book listed
      · intro id act found
        rcases Table.get_insert_eq_some_iff.mp found with ⟨-, rfl⟩ | ⟨-, before⟩
        · exact unfrozen
        · exact accounted.unfrozen id act before
  | both present sameBook inBook recounted reserved used unfrozen =>
      rename_i old next book after
      have bookId : book.id = old.bookId := rows.books.keyed _ _ inBook
      have counted : ∀ (held : ActState → Bool) (count : FiledBook → UInt32),
          (∀ id listed, rows.books.get id = some listed →
            (count listed).toNat = rows.pagesIn id held) →
          (count after).toNat + old.pagesWhen held = (count book).toNat + next.pagesWhen held →
          ∀ id listed, (rows.books.insert after).get id = some listed →
            (count listed).toNat = (rows.upsert ⟨some next, some after⟩).pagesIn id held := by
        intro held count before balance id listed found
        have moved := @Rows.pagesIn_insert rows old next held id (rows.books.insert after) present
          sameBook
        change _ = Rows.pagesIn ⟨rows.books.insert after, rows.acts.insert next⟩ id held
        rcases Table.get_insert_eq_some_iff.mp found with ⟨here, rfl⟩ | ⟨other, earlier⟩
        · have same : old.bookId = id := by rw [here, recounted.sameId, bookId]
          have was := before id book (same ▸ inBook)
          rw [if_pos same, if_pos same] at moved
          omega
        · have apart : old.bookId ≠ id := by
            rintro rfl
            exact other (bookId.symm.trans recounted.sameId.symm)
          have was := before id listed earlier
          rw [if_neg apart, if_neg apart] at moved
          omega
      refine ⟨counted _ (·.pagesReserved) accounted.reserved reserved,
        counted _ (·.pagesUsed) accounted.used used, ?_, ?_⟩
      · intro id listed found
        rcases Table.get_insert_eq_some_iff.mp found with ⟨-, rfl⟩ | ⟨-, before⟩
        · exact recounted.within (accounted.within _ book inBook)
        · exact accounted.within id listed before
      · intro id act found
        rcases Table.get_insert_eq_some_iff.mp found with ⟨-, rfl⟩ | ⟨-, before⟩
        · exact unfrozen
        · exact accounted.unfrozen id act before
  | bookOnly present recounted used reserved =>
      rename_i book after
      have same : ∀ id listed, (rows.books.insert after).get id = some listed →
          ∃ before, rows.books.get id = some before ∧
            listed.pagesReserved = before.pagesReserved ∧ listed.pagesUsed = before.pagesUsed ∧
            (before.toBook.WithinCapacity → listed.toBook.WithinCapacity) := by
        intro id listed found
        rcases Table.get_insert_eq_some_iff.mp found with ⟨here, rfl⟩ | ⟨-, before⟩
        · rw [here, recounted.sameId]
          exact ⟨book, present, reserved, used, recounted.within⟩
        · exact ⟨listed, before, rfl, rfl, fun within => within⟩
      refine ⟨?_, ?_, ?_, accounted.unfrozen⟩
      · intro id listed found
        obtain ⟨before, was, counts, -, -⟩ := same id listed found
        rw [counts]
        exact accounted.reserved id before was
      · intro id listed found
        obtain ⟨before, was, -, counts, -⟩ := same id listed found
        rw [counts]
        exact accounted.used id before was
      · intro id listed found
        obtain ⟨before, was, -, -, within⟩ := same id listed found
        exact within (accounted.within id before was)

/-! ## The requests -/

/-- What a request does to the rows: nothing, or a balanced change to both copies. -/
inductive ActsState.Effect (state after : ActsState) : Prop where
  | untouched (live : after.live = state.live) (stored : after.stored = state.stored)
  | written (change : Change) (balanced : Balanced state.live change)
      (live : after.live = state.live.upsert change)
      (stored : after.stored = state.stored.upsert change)

section Requests

variable [Crates] {state : ActsState} {around : Surroundings} {ledger : Ledger} {change : Change}

theorem ActsState.appendAndPersist_effect (balanced : Balanced state.live change) (appended : Nat)
    (calls : List AppendCall) :
    state.Effect (state.appendAndPersist ledger appended calls change around).2 := by
  unfold ActsState.appendAndPersist
  split
  · exact .untouched rfl rfl
  unfold ActsState.persistWriteThrough
  split
  · exact .untouched rfl rfl
  · exact .written change balanced rfl rfl

omit [Crates] in
/-- What entering `Signing` makes of the act and its book. -/
theorem enterSigning_eq_ok {book after : FiledBook} {entity : Entity} {made : Generated}
    (entered : enterSigning around act book entity = .ok (next, after, made)) :
    act.SameRow next ∧ next.state = act.state ∧ next.pageCount = some made.pageCount ∧
      book.toBook.reservePages made.pageCount = (.ok (), after.toBook) := by
  simp only [enterSigning, bind_eq_ok_iff] at entered
  obtain ⟨-, -, frozen, -, found, -, entered⟩ := entered
  cases found with
  | none => cases entered
  | some snapshot =>
      simp only [bind_eq_ok_iff] at entered
      obtain ⟨⟨⟨⟩, marked⟩, freezes, ⟨⟨⟩, reserved⟩, reserves, ⟨⟩⟩ := entered
      obtain ⟨⟨sameId, sameBook⟩, sameState, counted⟩ :=
        Act.freezePageCount_eq_ok (onClone_eq_ok_iff.mp freezes)
      refine ⟨⟨?_, ?_⟩, ?_, counted, onClone_eq_ok_iff.mp reserves⟩
      · cases frozen <;> exact sameId
      · cases frozen <;> exact sameBook
      · cases frozen <;> exact sameState

theorem ActsState.advanceAct_effect (accounted : state.live.Accounted) (id : ActId)
    (target : ActState) : state.Effect (state.advanceAct id target around).2 := by
  unfold ActsState.advanceAct
  split
  · exact .untouched rfl rfl
  rename_i next after snapshot decided
  split
  · exact .untouched rfl rfl
  simp only [advanceChange, bind_eq_ok_iff] at decided
  obtain ⟨-, -, -, -, -, -, ⟨act, book⟩, found, entity, -, -, -, ⟨⟨⟩, moved⟩, advanced, decided⟩ :=
    decided
  obtain ⟨present, inBook, -⟩ := actInOpenBook_eq_ok_iff.mp found
  obtain ⟨drafting, ⟨movedId, movedBook⟩, arrived, kept⟩ :=
    Act.advanceTo_eq_ok (onClone_eq_ok_iff.mp advanced)
  have blank := accounted.unfrozen id act present drafting
  obtain rfl : act.id = id := state.live.acts.keyed _ _ present
  split at decided
  · rename_i signing
    simp only [bind_eq_ok_iff] at decided
    obtain ⟨⟨signed, reservedBook, made⟩, entered, ⟨⟩⟩ := decided
    obtain ⟨⟨sameId, sameBook⟩, sameState, frozen, reserves⟩ := enterSigning_eq_ok entered
    obtain ⟨recounted, used, reserved⟩ := Book.reservePages_eq_ok reserves
    have state : signed.state = .signing := sameState.trans (arrived.trans signing)
    apply appendAndPersist_effect
    refine .both (sameId.trans movedId ▸ present) (sameBook.trans movedBook) inBook recounted
      ?_ ?_ ?_
    · rw [Act.pagesWhen_eq_zero blank, Act.pagesWhen_eq frozen, state, reserved]
      rfl
    · rw [Act.pagesWhen_eq_zero blank, Act.pagesWhen_eq frozen, state, used]
      rfl
    · simp [Act.isMutable, state]
  · cases decided
    have still : moved.pageCount = none := kept.trans blank
    apply appendAndPersist_effect
    refine .actOnly (movedId ▸ present) movedBook ?_ ?_ fun _ => still
    · rw [Act.pagesWhen_eq_zero blank, Act.pagesWhen_eq_zero still]
    · rw [Act.pagesWhen_eq_zero blank, Act.pagesWhen_eq_zero still]

theorem ActsState.reopenAct_effect (id : ActId) (reason : String) :
    state.Effect (state.reopenAct id reason around).2 := by
  unfold ActsState.reopenAct
  split
  · exact .untouched rfl rfl
  rename_i next after released decided
  split
  · exact .untouched rfl rfl
  simp only [reopenChange, bind_eq_ok_iff] at decided
  obtain ⟨-, -, -, -, -, -, -, -, -, -, canonical, -, ⟨act, book⟩, found, decided⟩ := decided
  obtain ⟨present, inBook, -⟩ := actInOpenBook_eq_ok_iff.mp found
  obtain rfl : act.id = id := state.live.acts.keyed _ _ present
  split at decided
  · cases decided
  simp only [bind_eq_ok_iff] at decided
  obtain ⟨⟨handed, reopened⟩, reopens, ⟨⟨⟩, bookNext⟩, releases, finished⟩ := decided
  obtain ⟨⟨sameId, sameBook⟩, signing, arrived, rfl, blank⟩ :=
    Act.reopenForCorrection_eq_ok (onClone_eq_ok_iff.mp reopens)
  have written : reopened.SameRow next ∧ next.state = reopened.state ∧
      next.pageCount = reopened.pageCount ∧ after = { book with toBook := bookNext } ∧
      released = act.pageCount := by
    cases canonical <;> cases finished <;> exact ⟨⟨rfl, rfl⟩, rfl, rfl, rfl, rfl⟩
  obtain ⟨⟨nextId, nextBook⟩, nextState, nextPages, rfl, rfl⟩ := written
  have still : next.pageCount = none := nextPages.trans blank
  have drafting : next.state = .textApproved := nextState.trans arrived
  have present' := (nextId.trans sameId).symm ▸ present
  apply appendAndPersist_effect
  cases frozen : act.pageCount with
  | none =>
      refine .actOnly present' (nextBook.trans sameBook) ?_ ?_ fun _ => still
      · rw [Act.pagesWhen_eq_zero frozen, Act.pagesWhen_eq_zero still]
      · rw [Act.pagesWhen_eq_zero frozen, Act.pagesWhen_eq_zero still]
  | some pages =>
      rw [frozen] at releases
      obtain ⟨recounted, used, rest⟩ :=
        Book.releaseReservedPages_eq_ok (onClone_eq_ok_iff.mp releases)
      refine .both present' (nextBook.trans sameBook) inBook recounted ?_ ?_ fun _ => still
      · rw [Act.pagesWhen_eq frozen, Act.pagesWhen_eq_zero still, signing]
        exact rest
      · rw [Act.pagesWhen_eq frozen, Act.pagesWhen_eq_zero still, signing, used]
        rfl

theorem ActsState.archiveAct_effect (id : ActId) :
    state.Effect (state.archiveAct id around).2 := by
  unfold ActsState.archiveAct
  split
  · exact .untouched rfl rfl
  rename_i next book decided
  split
  · exact .untouched rfl rfl
  simp only [archiveChange, bind_eq_ok_iff] at decided
  obtain ⟨-, -, canonical, -, signed, -, ⟨act, other⟩, found, decided⟩ := decided
  obtain ⟨present, -, -⟩ := actInOpenBook_eq_ok_iff.mp found
  obtain rfl : act.id = id := state.live.acts.keyed _ _ present
  split at decided
  · cases decided
  simp only [bind_eq_ok_iff] at decided
  obtain ⟨-, -, ⟨⟨⟩, archived⟩, archives, ⟨⟩⟩ := decided
  obtain ⟨⟨sameId, sameBook⟩, isSealed, isArchived, kept⟩ :=
    Act.archive_eq_ok (onClone_eq_ok_iff.mp archives)
  apply appendAndPersist_effect
  refine .actOnly (sameId ▸ present) sameBook ?_ ?_ ?_
  · rw [Act.pagesWhen, Act.pagesWhen, isSealed, isArchived]
    rfl
  · rw [Act.pagesWhen, Act.pagesWhen, isSealed, isArchived, Act.pages, Act.pages, kept]
    rfl
  · simp [Act.isMutable, Act.isSealed, isArchived]

omit [Crates] in
theorem FiledBook.closed_eq_ok {book after : FiledBook} {termo : TermoDeEncerramento}
    (closes : book.closed termo = .ok after) : book.toBook.Recounted after.toBook ∧
      after.pagesUsed = book.pagesUsed ∧ after.pagesReserved = book.pagesReserved := by
  simp only [FiledBook.closed, bind_eq_ok_iff] at closes
  obtain ⟨⟨⟨⟩, closed⟩, closing, ⟨⟩⟩ := closes
  exact Book.close_eq_ok (onClone_eq_ok_iff.mp closing)

theorem ActsState.recordClose_effect {id : BookId} {book after : FiledBook}
    (present : state.live.books.get id = some book) {termo : TermoDeEncerramento}
    (closes : book.closed termo = .ok after)
    (document : Except ServiceError (Option (List UInt8))) :
    state.Effect (state.recordClose after document around).2 := by
  obtain rfl : book.id = id := state.live.books.keyed _ _ present
  obtain ⟨recounted, used, reserved⟩ := FiledBook.closed_eq_ok closes
  unfold ActsState.recordClose
  split
  · exact .untouched rfl rfl
  split
  · exact .untouched rfl rfl
  split
  · exact .untouched rfl rfl
  · exact appendAndPersist_effect (.bookOnly present recounted used reserved) _ _

theorem ActsState.closeBook_effect (id : BookId) (termo : Except ServiceError TermoDeEncerramento) :
    state.Effect (state.closeBook id termo around).2 := by
  unfold ActsState.closeBook
  split
  · exact .untouched rfl rfl
  rename_i next decided
  simp only [closeChange, bind_eq_ok_iff, rowOrNotFound_eq_ok_iff] at decided
  obtain ⟨-, -, written, -, book, present, closes⟩ := decided
  exact recordClose_effect present closes _

theorem ActsState.closeFromTermo_effect (id : BookId) (signed : Except ServiceError Unit)
    (project : FiledBook → Entity → Except ServiceError TermoDeEncerramento)
    (manifest : Except ServiceError (Option (List UInt8))) :
    state.Effect (state.closeFromTermo id signed project manifest around).2 := by
  unfold ActsState.closeFromTermo
  split
  · exact .untouched rfl rfl
  rename_i next decided
  simp only [closeFromTermoChange, bind_eq_ok_iff, rowOrNotFound_eq_ok_iff] at decided
  obtain ⟨-, -, -, -, book, present, -, -, entity, -, projected, -, closes⟩ := decided
  exact recordClose_effect present closes _

/-! ## Sealing -/

theorem sealInputs_eq_ok {rows : Rows} {id : ActId} {request : SealRequest} {act : Act}
    {book : FiledBook} {entity : Entity} {evidence : ResolvedSealEvidence}
    (ready : sealInputs rows id request around = .ok (act, book, entity, evidence)) :
    rows.acts.get act.id = some act ∧ rows.books.get act.bookId = some book ∧
      act.state = .signing := by
  simp only [sealInputs, bind_eq_ok_iff] at ready
  obtain ⟨-, -, -, -, -, -, ⟨found, inBook⟩, opened, -, -, ⟨⟩, signing, -, -, ⟨⟩⟩ := ready
  obtain ⟨present, listed, -⟩ := actInOpenBook_eq_ok_iff.mp opened
  obtain rfl : found.id = id := rows.acts.keyed _ _ present
  exact ⟨present, listed, not_not.mp (rejectIf_eq_ok_iff.mp signing)⟩

theorem sealActWithEvidence_eq_ok {book after : Book} {entity : Entity} {rulePack : RulePack}
    {actor : String} {acknowledge : Bool} {evidence : SealEvidence} {later : Ledger} {id : Uuid}
    {now : OffsetDateTime} {outcome : SealOutcome} (sealing :
      sealActWithEvidence book act entity rulePack actor acknowledge evidence ledger id now =
      (.ok outcome, after, next, later)) : after = { book with lastAtaNumber := book.lastAtaNumber + 1 } ∧ act.SameRow next ∧
      next.state = .sealed ∧ next.pageCount = act.pageCount := by
  have effect := sealActWithEvidence_effect book act entity rulePack actor acknowledge evidence
    ledger id now
  rw [sealing] at effect
  cases effect
  exact ⟨rfl, ⟨rfl, rfl⟩, rfl, rfl⟩

omit [Crates] in
theorem Rows.Accounted.consumeFrozenPages {rows : Rows} (accounted : rows.Accounted)
    {book : FiledBook} (present : rows.acts.get act.id = some act)
    (inBook : rows.books.get act.bookId = some book) (signing : act.state = .signing)
    (samePages : next.pageCount = act.pageCount) :
    (consumeFrozenPages { book.toBook with lastAtaNumber := book.lastAtaNumber + 1 } next).1 =
      .ok () := by
  unfold Chancela.consumeFrozenPages
  rw [samePages]
  cases frozen : act.pageCount with
  | none => rfl
  | some pages =>
      have within := accounted.within _ book inBook
      have numbered : Book.WithinCapacity
          { book.toBook with lastAtaNumber := book.lastAtaNumber + 1 } :=
        ⟨within.counted, within.fits⟩
      have among : act.pagesWhen ActState.awaitsSeal ≤
          rows.pagesIn act.bookId ActState.awaitsSeal := Rows.pagesWhen_le_pagesIn present
      rw [Act.pagesWhen_eq frozen, signing, ← accounted.reserved _ book inBook] at among
      exact numbered.consumeReservedPages (UInt32.le_iff_toNat_le.mpr among)

theorem ActsState.sealActHandler_effect (id : ActId) (request : SealRequest) :
    state.Effect (state.sealActHandler id request around).2 := by
  unfold ActsState.sealActHandler
  split
  · exact .untouched rfl rfl
  rename_i act book entity evidence ready
  obtain ⟨present, inBook, signing⟩ := sealInputs_eq_ok ready
  split
  · exact .untouched rfl rfl
  rename_i outcome numbered next ledger sealing
  obtain ⟨rfl, ⟨sameId, sameBook⟩, isSealed, samePages⟩ := sealActWithEvidence_eq_ok sealing
  split
  · exact .untouched rfl rfl
  rename_i bookNext consumes
  have balanced : Balanced state.live ⟨some next, some { book with toBook := bookNext }⟩ := by
    have settled : next.isMutable = true → next.pageCount = none := by
      simp [Act.isMutable, Act.isSealed, isSealed]
    unfold consumeFrozenPages at consumes
    cases frozen : act.pageCount with
    | none =>
        have still : next.pageCount = none := samePages.trans frozen
        rw [still] at consumes
        cases consumes
        refine .both (sameId ▸ present) sameBook inBook ⟨rfl, fun within => ?_⟩ ?_ ?_ settled
        · exact ⟨within.counted, within.fits⟩
        · rw [Act.pagesWhen_eq_zero frozen, Act.pagesWhen_eq_zero still]
        · rw [Act.pagesWhen_eq_zero frozen, Act.pagesWhen_eq_zero still]
    | some pages =>
        have still : next.pageCount = some pages := samePages.trans frozen
        rw [still] at consumes
        obtain ⟨recounted, reserved, used⟩ := Book.consumeReservedPages_eq_ok consumes
        refine .both (sameId ▸ present) sameBook inBook ⟨recounted.sameId, fun within => ?_⟩ ?_ ?_
          settled
        · exact recounted.within ⟨within.counted, within.fits⟩
        · rw [Act.pagesWhen_eq frozen, Act.pagesWhen_eq still, signing, isSealed]
          exact reserved
        · rw [Act.pagesWhen_eq frozen, Act.pagesWhen_eq still, signing, isSealed]
          exact used
  unfold ActsState.recordSeal
  dsimp only
  split
  · exact .untouched rfl rfl
  split
  · exact .untouched rfl rfl
  · exact appendAndPersist_effect balanced _ _

end Requests

end Chancela
