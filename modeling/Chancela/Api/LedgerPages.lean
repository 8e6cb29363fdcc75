import Chancela.Crates.Reference
import Chancela.Store.EventPages

/-! # Ledger pages from the store and from memory

The same page of ledger events comes from the database, which compares timestamps as text, or
from the live ledger, which compares instants. The two agree on every page, and the pages of the
store are walked through completely, exactly when no stored event is read differently
(`Chancela.pagesAgree_iff`): text and instants part where one timestamp has a fraction of a
second or another offset.
-/

namespace Chancela

section Pages

variable [Crates] [Unicode]

def storeQuery (beforeSeq : Option Nat) (limit : Nat) (chain : Option ChainId)
    (filters : LedgerEventFilters) : LedgerEventPageQuery where
  beforeSeq := beforeSeq
  limit := limit
  chain := chain
  q := filters.query
  scope := filters.scope
  kinds := filters.kinds.sort (· ≤ ·)
  actor := filters.actor
  from_ := filters.from_
  to_ := filters.to_

variable [TimeParse]

/-- `select_ledger_events_page` with a store. -/
def selectStoredEvents (rows : List RawEventRow) (beforeSeq : Option Nat) (limit : Nat)
    (chain : Option ChainId) (filters : LedgerEventFilters) :
    Except EventPageFault LedgerEventsSelection :=
  ledgerEventsPage rows (storeQuery beforeSeq limit chain filters)

/-- The pages that follow each other by `next_cursor`, up to the first without one: their events,
and whether it was reached. -/
def walkPages (page : Option Nat → Except EventPageFault LedgerEventsSelection) :
    Nat → Option Nat → Except EventPageFault (List Event × Bool)
  | 0, _ => .ok ([], false)
  | requests + 1, beforeSeq => do
      let selection ← page beforeSeq
      match selection.nextCursor with
      | none => return (selection.events, true)
      | some cursor => do
          let (later, finished) ← walkPages page requests (some cursor)
          return (selection.events ++ later, finished)

def matchingEvents (events : List Event) (chain : Option ChainId) (filters : LedgerEventFilters) :
    List Event :=
  events.reverse.filter fun event => eventInChain event chain && filters.matches_ event

/-- Both sources give the same pages, and following the cursor through those of the store gives
every event asked for once, newest first, and ends. -/
structure PagesAgree (events : List Event) (chain : Option ChainId) (filters : LedgerEventFilters) :
    Prop where
  same : ∀ beforeSeq limit,
    selectStoredEvents (events.map .ofEvent) beforeSeq (normalizedPageLimit limit) chain filters =
      .ok (selectLiveEvents events beforeSeq (normalizedPageLimit limit) chain filters)
  whole : ∀ limit requests, events.length < requests →
    walkPages (fun beforeSeq => selectStoredEvents (events.map .ofEvent) beforeSeq
      (normalizedPageLimit limit) chain filters) requests none =
        .ok (matchingEvents events chain filters, true)

/-- The store reads an event as the live filters do: where nothing but the search text and the
bounds is in question, and the event lies within the bounds as an instant, it has the text of the
search exactly when it has that text folded once more, and its timestamp lies within the bounds
as text. -/
def ReadAlike (chain : Option ChainId) (filters : LedgerEventFilters) (event : Event) : Prop :=
  (eventInChain event chain && filters.matchesFields event && filters.matchesInstant event) = true →
    filters.query.all (eventMatchesQuery event ·) =
      ((normalizeQuery filters.query).all (eventMatchesQuery event ·) &&
        (NormalizedLedgerEventPageFilters.fromQuery (storeQuery none 1 chain filters)).textInBounds
          (formatEventTimestamp event.timestamp))

variable {events : List Event} {chain : Option ChainId} {filters : LedgerEventFilters}

/-! ## Pages as the parts of a walk -/

omit [Crates] [Unicode] [TimeParse] in
theorem selection_of_take (limit : Nat) (rows : List Event) :
    LedgerEventsSelection.of limit (rows.take (limit + 1)) =
      ⟨rows.take limit, (Keyset.lastOfPage limit rows).map (·.seq),
        decide (limit < rows.length), limit⟩ := by
  rw [LedgerEventsSelection.of, Keyset.lastOfPage]
  by_cases longer : limit < rows.length
  · simp [longer, List.take_take]
  · have short : rows.length ≤ limit := Nat.le_of_not_lt longer
    simp [longer, List.take_of_length_le short, List.take_of_length_le (Nat.le_succ_of_le short)]

omit [TimeParse] in
theorem selectLiveEvents_eq (beforeSeq : Option Nat) (limit : Nat) :
    selectLiveEvents events beforeSeq limit chain filters =
      .of limit ((Keyset.beyond newer Event.seq (matchingEvents events chain filters)
        beforeSeq).take (limit + 1)) := by
  have wanted : events.reverse.filter (fun event => beforeSeq.all (event.seq < ·) &&
      eventInChain event chain && filters.matches_ event) =
      Keyset.beyond newer Event.seq (matchingEvents events chain filters) beforeSeq := by
    cases beforeSeq with
    | none => simp only [Option.all_none, Bool.true_and, Keyset.beyond, matchingEvents]
    | some bound =>
        simp only [Option.all_some, Keyset.beyond, matchingEvents, List.filter_filter,
          Bool.and_assoc]
        rfl
  rw [selectLiveEvents, collect_eq (Nat.succ_pos limit), List.nil_append, wanted]

omit [Crates] [Unicode] [TimeParse] in
theorem walkPages_eq {page : Option Nat → Except EventPageFault LedgerEventsSelection} {limit : Nat}
    {rows : List Event} (cut : ∀ beforeSeq, page beforeSeq =
      .ok (.of limit ((Keyset.beyond newer Event.seq rows beforeSeq).take (limit + 1))))
    (requests : Nat) (beforeSeq : Option Nat) :
    walkPages page requests beforeSeq =
      .ok ((Keyset.visit newer Event.seq limit (List.replicate requests rows) beforeSeq).items,
        (Keyset.visit newer Event.seq limit (List.replicate requests rows)
          beforeSeq).finished) := by
  induction requests generalizing beforeSeq with
  | zero => rfl
  | succ requests ih =>
      rw [walkPages, cut, selection_of_take, List.replicate_succ, Keyset.visit]
      cases ended : Keyset.lastOfPage limit (Keyset.beyond newer Event.seq rows beforeSeq) with
      | none => rfl
      | some last =>
          change (walkPages page requests (some last.seq) >>= _) = _
          rw [ih]
          rfl

/-! ## When an event is read alike -/

omit [TimeParse] in
theorem selects_eq (parts : ∃ query scope kind actor from_ to_,
    filters = .fromParts query scope kind actor from_ to_) (beforeSeq : Option Nat) (limit : Nat)
    (event : Event) :
    (NormalizedLedgerEventPageFilters.fromQuery
      (storeQuery beforeSeq limit chain filters)).selects event =
      (eventInChain event chain && filters.matchesFields event && filters.matchesInstant event &&
        (normalizeQuery filters.query).all (eventMatchesQuery event ·) &&
        (NormalizedLedgerEventPageFilters.fromQuery
          (storeQuery none 1 chain filters)).textInBounds
            (formatEventTimestamp event.timestamp)) := by
  obtain ⟨query, scope, kind, actor, from_, to_, rfl⟩ := parts
  have sameChain :
      (chain.filter (· ≠ .global)).all (fun other => event.links.any (·.chain = other)) =
      eventInChain event chain := by
    cases chain with
    | none => rfl
    | some other => cases other <;> rfl
  have sameKinds := parseKindFilter_parsed kind ((parseKindFilter kind).sort (· ≤ ·))
    fun _ => Finset.mem_sort _
  have again : ∀ text : Option String,
      (text.filter (· ≠ "")).filter (· ≠ "") = text.filter (· ≠ "") := by
    intro text
    cases text with
    | none => rfl
    | some value => by_cases blank : value = "" <;> simp [Option.filter, blank]
  simp only [NormalizedLedgerEventPageFilters.selects, NormalizedLedgerEventPageFilters.admits,
    NormalizedLedgerEventPageFilters.matches_, NormalizedLedgerEventPageFilters.fromQuery,
    storeQuery,
    LedgerEventFilters.fromParts, LedgerEventFilters.matchesFields,
    LedgerEventFilters.matchesInstant, RawEventRow.ofEvent, sameChain, sameKinds, again,
    NormalizedLedgerEventPageFilters.textInBounds]
  have reordered : ∀ a b c low high d q f u : Bool,
      ((a && b && c && (low && high)) && (d && q && a && b && c && f && u)) =
        (d && (a && b && c) && (f && u) && q && (low && high)) := by decide
  exact reordered _ _ _ _ _ _ _ _ _

omit [TimeParse] in
theorem readAlike_iff (parts : ∃ query scope kind actor from_ to_,
    filters = .fromParts query scope kind actor from_ to_) (beforeSeq : Option Nat) (limit : Nat)
    (event : Event) :
    ReadAlike chain filters event ↔
      (NormalizedLedgerEventPageFilters.fromQuery
        (storeQuery beforeSeq limit chain filters)).selects event =
          (eventInChain event chain && filters.matches_ event) := by
  have settled : ∀ c f i q q' t : Bool,
      ((c && f && i) = true → q = (q' && t)) ↔
        (c && f && i && q' && t) = (c && (q && f && i)) := by decide
  rw [selects_eq parts]
  exact settled _ _ _ _ _ _

omit [Crates] [Unicode] [TimeParse] in
theorem mem_take_one_iff {rows : List Event} (ordered : Keyset.Ordered newer Event.seq rows)
    {event : Event} (member : event ∈ rows) (keep : Event → Bool) :
    event ∈ (Keyset.beyond newer Event.seq (rows.filter keep) (some (event.seq + 1))).take 1 ↔
      keep event = true := by
  obtain ⟨front, back, split⟩ := List.append_of_mem member
  rw [split] at ordered
  obtain ⟨-, later, across⟩ := List.pairwise_append.mp ordered
  have here : Keyset.beyond newer Event.seq rows (some (event.seq + 1)) = event :: back := by
    have nothing : front.filter (fun row => decide (newer (event.seq + 1) row.seq)) = [] := by
      rw [List.filter_eq_nil_iff]
      intro row early below
      have above : event.seq < row.seq := across row early event List.mem_cons_self
      have low : row.seq < event.seq + 1 := of_decide_eq_true below
      omega
    have all : (event :: back).filter (fun row => decide (newer (event.seq + 1) row.seq)) =
        event :: back := by
      rw [List.filter_eq_self]
      intro row after
      apply decide_eq_true
      rcases List.mem_cons.mp after with rfl | behind
      · exact Nat.lt_succ_self _
      · exact Nat.lt_succ_of_lt ((List.pairwise_cons.mp later).1 row behind)
    rw [Keyset.beyond, split, List.filter_append, nothing, all, List.nil_append]
  have absent : event ∉ back := by
    intro again
    exact Nat.lt_irrefl _ ((List.pairwise_cons.mp later).1 event again)
  rw [← Keyset.filter_beyond, here]
  by_cases kept : keep event = true
  · simp [kept]
  · rw [List.filter_cons_of_neg kept]
    refine iff_of_false (fun taken => ?_) kept
    exact absent (List.mem_of_mem_filter (List.mem_of_mem_take taken))

omit [Crates] [Unicode] [TimeParse] in
theorem one_le_normalizedPageLimit (limit : Option Nat) : 1 ≤ normalizedPageLimit limit :=
  Nat.le_max_left _ _

/-- **When pages agree**: exactly when the store reads every stored event as the live filters
do. -/
theorem pagesAgree_iff (stored : StoredEvents events) (chain : Option ChainId)
    (query scope : Option String) (kind : List String) (actor : Option String)
    (from_ : Option OffsetDateTime) (to_ : Option UpperBound) :
    PagesAgree events chain (.fromParts query scope kind actor from_ to_) ↔
      ∀ event ∈ events,
        ReadAlike chain (.fromParts query scope kind actor from_ to_) event := by
  have parts : ∃ query' scope' kind' actor' from' to', LedgerEventFilters.fromParts query scope kind
      actor from_ to_ = .fromParts query' scope' kind' actor' from' to' :=
    ⟨query, scope, kind, actor, from_, to_, rfl⟩
  generalize LedgerEventFilters.fromParts query scope kind actor from_ to_ = filters at parts ⊢
  have storedPage : ∀ beforeSeq limit, 1 ≤ limit →
      selectStoredEvents (events.map .ofEvent) beforeSeq limit chain filters =
        .ok (.of limit ((Keyset.beyond newer Event.seq (events.reverse.filter
          (NormalizedLedgerEventPageFilters.fromQuery
            (storeQuery beforeSeq limit chain filters)).selects) beforeSeq).take (limit + 1))) := by
    intro beforeSeq limit positive
    rw [selectStoredEvents, stored.ledgerEventsPage_eq]
    simp only [storeQuery, Nat.max_eq_left positive]
  constructor
  · intro agree event member
    have same := agree.same (some (event.seq + 1)) (some 1)
    change selectStoredEvents _ _ 1 _ _ = .ok (selectLiveEvents _ _ 1 _ _) at same
    rw [storedPage _ 1 le_rfl, selectLiveEvents_eq, selection_of_take, selection_of_take] at same
    have firsts := congrArg LedgerEventsSelection.events (Except.ok.inj same)
    have present : event ∈ events.reverse := List.mem_reverse.mpr member
    have selected := mem_take_one_iff stored.ordered present
      (NormalizedLedgerEventPageFilters.fromQuery
        (storeQuery (some (event.seq + 1)) 1 chain filters)).selects
    have wanted := mem_take_one_iff stored.ordered present
      fun event => eventInChain event chain && filters.matches_ event
    dsimp only at firsts
    rw [firsts] at selected
    rw [readAlike_iff parts (some (event.seq + 1)) 1, Bool.eq_iff_iff]
    exact selected.symm.trans wanted
  · intro alike
    have cut : ∀ beforeSeq limit, 1 ≤ limit →
        selectStoredEvents (events.map .ofEvent) beforeSeq limit chain filters =
          .ok (.of limit ((Keyset.beyond newer Event.seq (matchingEvents events chain filters)
            beforeSeq).take (limit + 1))) := by
      intro beforeSeq limit positive
      rw [storedPage beforeSeq limit positive, matchingEvents]
      rw [List.filter_congr fun event member => (readAlike_iff parts beforeSeq limit event).mp
        (alike event (List.mem_reverse.mp member))]
    refine ⟨fun beforeSeq limit => ?_, fun limit requests enough => ?_⟩
    · rw [cut _ _ (one_le_normalizedPageLimit limit), selectLiveEvents_eq]
    · have sorted : Keyset.Ordered newer Event.seq (matchingEvents events chain filters) :=
        List.Pairwise.filter _ stored.ordered
      have fewer : (Keyset.beyond newer Event.seq (matchingEvents events chain filters)
          none).length < requests := by
        have shorter := List.length_filter_le
          (fun event => eventInChain event chain && filters.matches_ event) events.reverse
        rw [List.length_reverse] at shorter
        exact shorter.trans_lt enough
      rw [walkPages_eq fun beforeSeq => cut beforeSeq _ (one_le_normalizedPageLimit limit)]
      obtain ⟨finished, items⟩ := Keyset.visit_replicate newer_irrefl newer_trans
        (one_le_normalizedPageLimit limit) sorted none fewer
      rw [finished, items]
      rfl

end Pages

open scoped Reference

def newYear : OffsetDateTime := ⟨2026, 1, 1, 0, 0, 0, 0, 0⟩

/-- Half a second later; its text is less than that of the start of the year. -/
def halfPastNewYear : OffsetDateTime := { newYear with nanosecond := 500000000 }

namespace HalfPast

/-- Parses the text of one timestamp. -/
scoped instance timeParse : TimeParse :=
  ⟨fun text => if text = "2026-01-01T00:00:00.5Z" then some halfPastNewYear else none⟩

end HalfPast

open scoped HalfPast

def halfPastEvent : Event where
  id := ⟨1⟩
  seq := 0
  actor := "ana"
  justification := none
  timestamp := halfPastNewYear
  scope := "book"
  kind := "book.opened"
  payloadDigest := zeroDigest
  prevHash := zeroDigest
  links := []
  hash := zeroDigest

theorem storedEvents_halfPast : StoredEvents [halfPastEvent] where
  increasing := List.pairwise_singleton _ _
  fits event member := by
    rw [List.mem_singleton.mp member]
    decide
  readsBack event member := by
    rw [List.mem_singleton.mp member]
    decide +kernel

/-- Without bounds the pages of that event agree. -/
theorem pagesAgree_halfPast :
    PagesAgree [halfPastEvent] none (.fromParts none none [] none none none) := by
  refine (pagesAgree_iff storedEvents_halfPast none none none [] none none none).mpr
    fun event member => ?_
  rw [List.mem_singleton.mp member, ReadAlike]
  decide +kernel

/-- From the start of the year on, the store leaves out an event half a second later. -/
theorem not_pagesAgree_halfPast :
    ¬PagesAgree [halfPastEvent] none (.fromParts none none [] none (some newYear) none) := by
  intro agree
  have same := agree.same none none
  revert same
  decide +kernel

end Chancela
