import Chancela.Core.Book
import Chancela.Foundation.Checked
import Chancela.Foundation.Run

/-! # Page capacity

A book counts the pages its sealed acts use and the pages reserved for acts out for
signature. A reservation is checked against the capacity the opening termo declared.
Before the opening there is no capacity, and `open` does not look at reservations
taken by then: a run keeps its books within capacity exactly when no opening declares
less than what is already reserved
(`Chancela.Book.pagesHonoured_iff_admissible`).
-/

namespace Chancela.Book

open Checked

def hasPageCapacity (book : Book) : Bool := book.pageCapacity.isSome

def pagesRemaining (book : Book) : Option UInt32 := do
  let capacity ← book.pageCapacity
  return saturatingSub capacity (saturatingAdd book.pagesUsed book.pagesReserved)

/-- The capacity gate of a reservation and of its consumption. -/
def checkCapacity (book : Book) (total required : UInt32) : Except BookError Unit :=
  match book.pageCapacity with
  | some capacity =>
      if capacity < total then
        .error (.capacityExceeded capacity book.pagesUsed book.pagesReserved required)
      else .ok ()
  | none => .ok ()

def reservePages (book : Book) (pages : UInt32) : Except BookError Unit × Book :=
  match checkedAdd book.pagesUsed book.pagesReserved with
  | none => (.error .pageCountOverflow, book)
  | some committed =>
      match checkedAdd committed pages with
      | none => (.error .pageCountOverflow, book)
      | some requestedTotal =>
          match book.checkCapacity requestedTotal pages with
          | .error fault => (.error fault, book)
          | .ok () => (.ok (), { book with pagesReserved := book.pagesReserved + pages })

def consumeReservedPages (book : Book) (pages : UInt32) : Except BookError Unit × Book :=
  match checkedSub book.pagesReserved pages with
  | none => (.error (.noSuchReservation book.pagesReserved pages), book)
  | some reserved =>
      match checkedAdd book.pagesUsed pages with
      | none => (.error .pageCountOverflow, book)
      | some used =>
          match book.checkCapacity used pages with
          | .error fault => (.error fault, book)
          | .ok () => (.ok (), { book with pagesReserved := reserved, pagesUsed := used })

def releaseReservedPages (book : Book) (pages : UInt32) : Except BookError Unit × Book :=
  match checkedSub book.pagesReserved pages with
  | none => (.error (.noSuchReservation book.pagesReserved pages), book)
  | some reserved => (.ok (), { book with pagesReserved := reserved })

/-- `Book::close`, which writes the counts of the book into the termo. -/
def close (book : Book) (termo : TermoDeEncerramento) : Except BookError Unit × Book :=
  if book.state ≠ .open_ then (.error (.notClosable book.state), book)
  else
    (.ok (), { book with
      termoEncerramento := some { termo with
        ataCount := book.lastAtaNumber
        pagesUsedAtClose := if book.hasPageCapacity then some book.pagesUsed else none }
      state := .closed })

end Chancela.Book

namespace Chancela

/-- A call of a method that changes a book. -/
inductive BookCall where
  | open_ (termo : TermoDeAbertura)
  | reservePages (pages : UInt32)
  | consumeReservedPages (pages : UInt32)
  | releaseReservedPages (pages : UInt32)
  | assignNextAtaNumber
  | close (termo : TermoDeEncerramento)
deriving DecidableEq

namespace Book

open Checked

def call (book : Book) : BookCall → Except BookError Unit × Book
  | .open_ termo => book.open_ termo
  | .reservePages pages => book.reservePages pages
  | .consumeReservedPages pages => book.consumeReservedPages pages
  | .releaseReservedPages pages => book.releaseReservedPages pages
  | .assignNextAtaNumber =>
      (book.assignNextAtaNumber.1.map fun _ => (), book.assignNextAtaNumber.2)
  | .close termo => book.close termo

def after (book : Book) (call : BookCall) : Book := (book.call call).2

def committedPages (book : Book) : Nat := book.pagesUsed.toNat + book.pagesReserved.toNat

/-- What a call does to the page counts. -/
inductive PageEffect (book : Book) : BookCall → Except BookError Unit × Book → Prop where
  | refused (call : BookCall) (fault : BookError) : PageEffect book call (.error fault, book)
  | opened {termo : TermoDeAbertura} (accepts : book.Accepts termo) {result : Book}
      (capacity : result.pageCapacity = termo.pageCapacity.or book.pageCapacity)
      (committed : result.committedPages = book.committedPages) :
      PageEffect book (.open_ termo) (.ok (), result)
  | reserved {pages : UInt32} (counted : book.committedPages + pages.toNat < 2 ^ 32)
      (fits : ∀ capacity, book.pageCapacity = some capacity →
        book.committedPages + pages.toNat ≤ capacity.toNat) :
      PageEffect book (.reservePages pages)
        (.ok (), { book with pagesReserved := book.pagesReserved + pages })
  | released {pages reserved : UInt32}
      (less : reserved.toNat + pages.toNat = book.pagesReserved.toNat) :
      PageEffect book (.releaseReservedPages pages)
        (.ok (), { book with pagesReserved := reserved })
  | kept {call : BookCall} {result : Book} (capacity : result.pageCapacity = book.pageCapacity)
      (committed : result.committedPages = book.committedPages) :
      PageEffect book call (.ok (), result)

variable {book : Book}

theorem checkCapacity_eq_ok_iff {total required : UInt32} :
    book.checkCapacity total required = .ok () ↔
      ∀ capacity, book.pageCapacity = some capacity → total.toNat ≤ capacity.toNat := by
  unfold checkCapacity
  cases book.pageCapacity with
  | none => simp
  | some capacity =>
      have fits : ¬capacity < total ↔ total.toNat ≤ capacity.toNat := by
        rw [UInt32.not_lt, UInt32.le_iff_toNat_le]
      by_cases exceeds : capacity < total <;> simp [exceeds, ← fits]

theorem open_effect (book : Book) (termo : TermoDeAbertura) :
    book.PageEffect (.open_ termo) (book.open_ termo) := by
  rcases book.open_cases termo with ⟨accepts, opens, -⟩ | ⟨-, fault, opens⟩
  · have result : book.open_ termo = (.ok (), (book.open_ termo).2) := Prod.ext opens rfl
    rw [result]
    apply PageEffect.opened accepts
    · unfold open_
      cases declared : termo.pageCapacity with
      | none => simp [accepts.1]
      | some capacity => simp [accepts.1, accepts.2 capacity declared]
    · unfold open_
      cases declared : termo.pageCapacity with
      | none => simp [accepts.1, committedPages]
      | some capacity => simp [accepts.1, accepts.2 capacity declared, committedPages]
  · rw [opens]
    exact .refused _ fault

theorem reservePages_effect (book : Book) (pages : UInt32) :
    book.PageEffect (.reservePages pages) (book.reservePages pages) := by
  unfold reservePages
  split
  · exact .refused _ _
  rename_i committed used
  split
  · exact .refused _ _
  rename_i total summed
  split
  · exact .refused _ _
  rename_i fits
  have sum : total.toNat = book.committedPages + pages.toNat := by
    rw [toNat_of_checkedAdd summed, toNat_of_checkedAdd used, committedPages]
  rw [checkCapacity_eq_ok_iff, sum] at fits
  exact .reserved (sum ▸ total.toNat_lt) fits

theorem consumeReservedPages_effect (book : Book) (pages : UInt32) :
    book.PageEffect (.consumeReservedPages pages) (book.consumeReservedPages pages) := by
  unfold consumeReservedPages
  split
  · exact .refused _ _
  rename_i reserved subtracted
  split
  · exact .refused _ _
  rename_i used summed
  split
  · exact .refused _ _
  obtain ⟨held, rest⟩ := toNat_of_checkedSub subtracted
  have sum := toNat_of_checkedAdd summed
  apply PageEffect.kept
  · rfl
  · simp only [committedPages]
    omega

theorem releaseReservedPages_effect (book : Book) (pages : UInt32) :
    book.PageEffect (.releaseReservedPages pages) (book.releaseReservedPages pages) := by
  unfold releaseReservedPages
  split
  · exact .refused _ _
  rename_i reserved subtracted
  obtain ⟨held, rest⟩ := toNat_of_checkedSub subtracted
  apply PageEffect.released
  omega

/-- **What a call does to the page counts.** -/
theorem call_effect (book : Book) (call : BookCall) : book.PageEffect call (book.call call) := by
  cases call with
  | open_ termo => exact book.open_effect termo
  | reservePages pages => exact book.reservePages_effect pages
  | consumeReservedPages pages => exact book.consumeReservedPages_effect pages
  | releaseReservedPages pages => exact book.releaseReservedPages_effect pages
  | assignNextAtaNumber =>
      rw [call, assignNextAtaNumber]
      split
      · exact .refused _ _
      · exact .kept rfl rfl
  | close termo =>
      rw [call, close]
      split
      · exact .refused _ _
      · exact .kept rfl rfl

/-- The counts add up without wrapping, within the capacity if there is one. -/
structure WithinCapacity (book : Book) : Prop where
  counted : book.committedPages < 2 ^ 32
  fits : ∀ capacity, book.pageCapacity = some capacity → book.committedPages ≤ capacity.toNat

/-- Pages outside the commitment of a book remain, an outstanding reservation can be
consumed, and a failed call leaves the book. -/
structure PagesHonoured (book : Book) : Prop where
  fits : ∀ capacity, book.pageCapacity = some capacity →
    book.pagesUsed.toNat + book.pagesReserved.toNat ≤ capacity.toNat
  remaining : ∀ capacity, book.pageCapacity = some capacity → ∃ pages,
    book.pagesRemaining = some pages ∧
      pages.toNat = capacity.toNat - book.pagesUsed.toNat - book.pagesReserved.toNat
  consumable : ∀ pages, pages ≤ book.pagesReserved → (book.consumeReservedPages pages).1 = .ok ()
  refusals : ∀ call fault, (book.call call).1 = .error fault → book.after call = book

/-- An opening that declares a capacity finds no more pages committed than that. -/
def DeclaresEnough (book : Book) : BookCall → Prop
  | .open_ termo => ∀ capacity, book.Accepts termo → termo.pageCapacity = some capacity →
      book.pagesUsed.toNat + book.pagesReserved.toNat ≤ capacity.toNat
  | _ => True

theorem withinCapacity_new (id : BookId) : (new id).WithinCapacity where
  counted := by simp [new, committedPages]
  fits := by
    intro capacity declared
    cases declared

theorem WithinCapacity.after (within : book.WithinCapacity) {call : BookCall}
    (enough : book.DeclaresEnough call) : (book.after call).WithinCapacity := by
  have effect := book.call_effect call
  unfold Book.after
  generalize book.call call = result at effect
  cases effect with
  | refused call fault => exact within
  | opened accepts capacity committed =>
      refine ⟨committed ▸ within.counted, fun bound declared => ?_⟩
      rw [committed]
      rcases Option.or_eq_some_iff.mp (capacity ▸ declared) with own | ⟨-, earlier⟩
      · exact enough bound accepts own
      · exact within.fits bound earlier
  | reserved counted fits =>
      rename_i pages
      have sum : (book.pagesReserved + pages).toNat = book.pagesReserved.toNat + pages.toNat := by
        rw [committedPages] at counted
        rw [UInt32.toNat_add, Nat.mod_eq_of_lt (by omega)]
      have committed : committedPages { book with pagesReserved := book.pagesReserved + pages } =
          book.committedPages + pages.toNat := by
        simp only [committedPages, sum]
        omega
      exact ⟨committed ▸ counted, fun bound declared => committed ▸ fits bound declared⟩
  | released less =>
      rename_i pages reserved
      have fewer :
          committedPages { book with pagesReserved := reserved } ≤ book.committedPages := by
        simp only [committedPages]
        omega
      exact ⟨fewer.trans_lt within.counted,
        fun bound declared => fewer.trans (within.fits bound declared)⟩
  | kept capacity committed =>
      exact ⟨committed ▸ within.counted,
        fun bound declared => committed ▸ within.fits bound (capacity ▸ declared)⟩

theorem WithinCapacity.consumeReservedPages (within : book.WithinCapacity) {pages : UInt32}
    (outstanding : pages ≤ book.pagesReserved) : (book.consumeReservedPages pages).1 = .ok () := by
  have held : pages.toNat ≤ book.pagesReserved.toNat := UInt32.le_iff_toNat_le.mp outstanding
  have room : book.pagesUsed.toNat + pages.toNat ≤ book.committedPages := by
    rw [committedPages]
    omega
  have summed : checkedAdd book.pagesUsed pages = some (book.pagesUsed + pages) :=
    if_pos (room.trans_lt within.counted)
  have fits : book.checkCapacity (book.pagesUsed + pages) pages = .ok () := by
    rw [checkCapacity_eq_ok_iff, toNat_of_checkedAdd summed]
    intro capacity declared
    exact room.trans (within.fits capacity declared)
  have subtracted : checkedSub book.pagesReserved pages = some (book.pagesReserved - pages) :=
    if_pos held
  simp only [Book.consumeReservedPages, subtracted, summed, fits]

theorem WithinCapacity.pagesRemaining (within : book.WithinCapacity) {capacity : UInt32}
    (declared : book.pageCapacity = some capacity) :
    ∃ pages, book.pagesRemaining = some pages ∧
      pages.toNat = capacity.toNat - book.pagesUsed.toNat - book.pagesReserved.toNat := by
  refine ⟨saturatingSub capacity (saturatingAdd book.pagesUsed book.pagesReserved), ?_, ?_⟩
  · rw [Book.pagesRemaining, declared]
    rfl
  · have counted : book.pagesUsed.toNat + book.pagesReserved.toNat < 2 ^ 32 := within.counted
    rw [toNat_saturatingSub, toNat_saturatingAdd]
    omega

theorem after_eq_of_error {call : BookCall} {fault : BookError}
    (failed : (book.call call).1 = .error fault) : book.after call = book := by
  have effect := book.call_effect call
  unfold after
  generalize book.call call = result at effect failed
  cases effect with
  | refused => rfl
  | opened => cases failed
  | reserved => cases failed
  | released => cases failed
  | kept => cases failed

theorem WithinCapacity.pagesHonoured (within : book.WithinCapacity) :
    book.PagesHonoured where
  fits := within.fits
  remaining := fun _ declared => within.pagesRemaining declared
  consumable := fun _ outstanding => within.consumeReservedPages outstanding
  refusals := fun _ _ failed => after_eq_of_error failed

theorem PagesHonoured.declaresEnough {call : BookCall} (honoured : (book.after call).PagesHonoured) :
    book.DeclaresEnough call := by
  cases call with
  | open_ termo =>
      intro capacity accepts declared
      have opened : book.after (.open_ termo) = { book with
          bookNumber := termo.bookNumber.or book.bookNumber
          termoAbertura := some termo
          state := .open_
          pageCapacity := some capacity } := by
        simp [after, call, open_, accepts.1, declared, accepts.2 capacity declared]
      rw [opened] at honoured
      exact honoured.fits capacity rfl
  | reservePages pages => exact trivial
  | consumeReservedPages pages => exact trivial
  | releaseReservedPages pages => exact trivial
  | assignNextAtaNumber => exact trivial
  | close termo => exact trivial

/-- **When page counts are honoured.** In every state of a run from a new book the
pages fit the capacity, exactly when every opening of the run declares at least the
pages committed before it. -/
theorem pagesHonoured_iff_admissible (id : BookId) (calls : List BookCall) :
    (∀ book ∈ Run.states after (new id) calls, book.PagesHonoured) ↔
      Run.Admissible after DeclaresEnough (new id) calls := by
  constructor
  · apply Run.admissible_of_forall_mem_states
    intro book call honoured
    exact honoured.declaresEnough
  · intro admissible book member
    apply WithinCapacity.pagesHonoured
    exact Run.forall_mem_states (fun book call within enough => within.after enough)
      (withinCapacity_new id) admissible book member

/-- Five pages reserved before a book of one page is opened. -/
theorem not_pagesHonoured_reserve_open :
    ¬∀ book ∈ Run.states after (new ⟨0x22222222222222222222222222222222#128⟩)
        [.reservePages 5, .open_ { annualTermo with pageCapacity := some 1 }],
      book.PagesHonoured := by
  intro honoured
  have last := honoured _ (Run.foldl_mem_states _ _)
  have exceeded := last.fits 1 rfl
  revert exceeded
  decide

end Book

end Chancela
