import Chancela.Api.Endpoints
import Chancela.Foundation.Keyset
import Chancela.Ledger.EventFilter

/-! # Pages of stored events

`Store::ledger_events_page` reads the events table in batches, newest first. The database
compares the columns, the timestamp among them as text; what it lets through is read back and
filtered again. A page holds the newest events that pass both
(`Chancela.ledgerEventsPage_eq_ok`).
-/

namespace Chancela

def newer (first second : Nat) : Prop := second < first

instance : DecidableRel newer := fun first second => inferInstanceAs (Decidable (second < first))

theorem newer_irrefl (place : Nat) : ¬newer place place := Nat.lt_irrefl place

theorem newer_trans {first second third : Nat} (front : newer first second)
    (back : newer second third) : newer first third := Nat.lt_trans back front

section Reading

variable [Crates] [Unicode] [TimeParse]

def formatEventTimestamp (timestamp : OffsetDateTime) : String :=
  (formatRfc3339 timestamp).getD "1970-01-01T00:00:00Z"

/-- A row of the events table. Every column but the timestamp reads back as it was written. -/
structure RawEventRow where
  columns : Event
  timestamp : String

/-- `Tx::append_event`. -/
def RawEventRow.ofEvent (event : Event) : RawEventRow :=
  ⟨event, formatEventTimestamp event.timestamp⟩

inductive EventPageFault where
  /-- A column of a row does not read back. -/
  | unreadable
  /-- More batches than rows, which does not happen. -/
  | exhausted
deriving DecidableEq

def RawEventRow.intoEvent (row : RawEventRow) : Except EventPageFault Event :=
  match TimeParse.parseRfc3339 row.timestamp with
  | some timestamp => .ok { row.columns with timestamp := timestamp }
  | none => .error .unreadable

structure LedgerEventPageQuery where
  beforeSeq : Option Nat
  limit : Nat
  chain : Option ChainId
  q : Option String
  scope : Option String
  kinds : List String
  actor : Option String
  from_ : Option OffsetDateTime
  to_ : Option UpperBound

structure NormalizedLedgerEventPageFilters where
  chain : Option ChainId
  query : Option String
  scope : Option String
  kinds : Finset String
  actor : Option String
  from_ : Option OffsetDateTime
  to_ : Option UpperBound

namespace NormalizedLedgerEventPageFilters

variable (filters : NormalizedLedgerEventPageFilters)

def fromQuery (query : LedgerEventPageQuery) : NormalizedLedgerEventPageFilters where
  chain := query.chain.filter (· ≠ .global)
  query := normalizeQuery query.q
  scope := query.scope.filter (· ≠ "")
  kinds := parseKindFilter query.kinds
  actor := query.actor.filter (· ≠ "")
  from_ := query.from_
  to_ := query.to_

def hasResidualFilters : Bool := filters.chain.isSome || filters.query.isSome

/-- `NormalizedLedgerEventPageFilters::matches`. -/
def matches_ (event : Event) : Bool :=
  filters.chain.all (fun chain => event.links.any (·.chain = chain)) &&
    filters.query.all (eventMatchesQuery event ·) &&
    filters.scope.all (Text.contains event.scope ·) &&
    (filters.kinds = ∅ || event.kind ∈ filters.kinds) && filters.actor.all (event.actor = ·) &&
    filters.from_.all (fun bound => !event.timestamp.before bound) &&
    filters.to_.all (UpperBound.contains event.timestamp)

def textWithin (timestamp : String) : UpperBound → Bool
  | .inclusive bound => timestamp ≤ formatEventTimestamp bound
  | .exclusive bound => timestamp < formatEventTimestamp bound

/-- The bounds as the database compares them, text with text. -/
def textInBounds (timestamp : String) : Bool :=
  filters.from_.all (fun bound => formatEventTimestamp bound ≤ timestamp) &&
    filters.to_.all (textWithin timestamp)

/-- The `WHERE` clauses of `ledger_events_page_sql`, the cursor aside. -/
def admits (row : RawEventRow) : Bool :=
  filters.scope.all (Text.contains row.columns.scope ·) &&
    (filters.kinds = ∅ || row.columns.kind ∈ filters.kinds) &&
    filters.actor.all (row.columns.actor = ·) && filters.textInBounds row.timestamp

end NormalizedLedgerEventPageFilters

/-- The cursor clause; one beyond `i64::MAX` is left out. -/
def cursorAdmits (beforeSeq : Option Nat) (row : RawEventRow) : Bool :=
  beforeSeq.all fun bound => 2 ^ 63 ≤ bound || row.columns.seq < bound

def ledgerEventPageBatchLimit (limit : Nat) (hasResidualFilters : Bool) : Nat :=
  if hasResidualFilters then max (limit + 1) 256 else limit + 1

/-- The rows of `SELECT … ORDER BY seq DESC LIMIT ?`, from rows in the order of their `seq`. -/
def selectRows (rows : List RawEventRow) (filters : NormalizedLedgerEventPageFilters)
    (beforeSeq : Option Nat) (batchLimit : Nat) : List RawEventRow :=
  (rows.reverse.filter fun row => cursorAdmits beforeSeq row && filters.admits row).take batchLimit

/-- Read a batch back and accept what matches, up to the target. -/
def acceptBatch (filters : NormalizedLedgerEventPageFilters) (target : Nat)
    (accepted : List Event) :
    List RawEventRow → Except EventPageFault (List Event)
  | [] => .ok accepted
  | raw :: rest => do
      let event ← raw.intoEvent
      if filters.matches_ event then
        if target ≤ accepted.length + 1 then .ok (accepted ++ [event])
        else acceptBatch filters target (accepted ++ [event]) rest
      else acceptBatch filters target accepted rest

/-- The loop of `ledger_events_page`, with a bound on the number of its batches. -/
def acceptBatches (rows : List RawEventRow) (filters : NormalizedLedgerEventPageFilters)
    (target batchLimit : Nat) : Nat → Option Nat → List Event → Except EventPageFault (List Event)
  | 0, _, _ => .error .exhausted
  | batches + 1, beforeSeq, accepted =>
      let raw := selectRows rows filters beforeSeq batchLimit
      match raw.getLast? with
      | none => .ok accepted
      | some oldest => do
          let accepted ← acceptBatch filters target accepted raw
          if target ≤ accepted.length ∨ raw.length < batchLimit ∨ oldest.columns.seq = 0 then
            .ok accepted
          else
            acceptBatches rows filters target batchLimit batches (some oldest.columns.seq) accepted

def ledgerEventsPage (rows : List RawEventRow) (query : LedgerEventPageQuery) :
    Except EventPageFault LedgerEventsSelection := do
  let limit := max query.limit 1
  let filters := NormalizedLedgerEventPageFilters.fromQuery query
  let batchLimit := ledgerEventPageBatchLimit limit filters.hasResidualFilters
  let accepted ← acceptBatches rows filters (limit + 1) batchLimit (rows.length + 1) query.beforeSeq
    []
  return .of limit accepted

/-! ## What a page holds -/

/-- The rows of stored events: in the order of their `seq`, which fits its column, with
timestamps that read back. -/
structure StoredEvents (events : List Event) : Prop where
  increasing : events.Pairwise (·.seq < ·.seq)
  fits : ∀ event ∈ events, event.seq < 2 ^ 63
  readsBack : ∀ event ∈ events,
    TimeParse.parseRfc3339 (formatEventTimestamp event.timestamp) = some event.timestamp

/-- What is stored of an event passes the database and is accepted afterwards. -/
def NormalizedLedgerEventPageFilters.selects (filters : NormalizedLedgerEventPageFilters)
    (event : Event) : Bool :=
  filters.admits (.ofEvent event) && filters.matches_ event

section Pages

variable {events : List Event} {filters : NormalizedLedgerEventPageFilters} {target : Nat}

omit [Unicode] in
theorem StoredEvents.ordered (stored : StoredEvents events) :
    Keyset.Ordered newer Event.seq events.reverse :=
  List.pairwise_reverse.mpr stored.increasing

omit [Unicode] in
theorem StoredEvents.intoEvent (stored : StoredEvents events) {event : Event}
    (member : event ∈ events) : (RawEventRow.ofEvent event).intoEvent = .ok event := by
  rw [RawEventRow.intoEvent, RawEventRow.ofEvent, stored.readsBack event member]

omit [Unicode] in
theorem StoredEvents.selectRows_eq (stored : StoredEvents events) (beforeSeq : Option Nat)
    (batchLimit : Nat) :
    selectRows (events.map .ofEvent) filters beforeSeq batchLimit =
      ((Keyset.beyond newer Event.seq (events.reverse.filter fun event =>
        filters.admits (.ofEvent event)) beforeSeq).take batchLimit).map .ofEvent := by
  have cursor : ∀ event ∈ events.reverse,
      (cursorAdmits beforeSeq (.ofEvent event) && filters.admits (.ofEvent event)) =
        ((beforeSeq.all fun bound => decide (newer bound event.seq)) &&
          filters.admits (.ofEvent event)) := by
    intro event member
    have small := stored.fits event (List.mem_reverse.mp member)
    cases beforeSeq with
    | none => rfl
    | some bound =>
        by_cases older : event.seq < bound
        · simp [cursorAdmits, RawEventRow.ofEvent, newer, older]
        · have inColumn : ¬2 ^ 63 ≤ bound := by omega
          simp only [cursorAdmits, Option.all_some, RawEventRow.ofEvent, newer, older, inColumn,
            decide_false, Bool.or_self]
  rw [selectRows, ← List.map_reverse, List.filter_map, ← List.map_take]
  congr 2
  change events.reverse.filter (fun event =>
    cursorAdmits beforeSeq (.ofEvent event) && filters.admits (.ofEvent event)) = _
  rw [List.filter_congr cursor]
  cases beforeSeq with
  | none => simp [Keyset.beyond]
  | some bound =>
      rw [Keyset.beyond, List.filter_filter]
      rfl

theorem StoredEvents.acceptBatch_eq (stored : StoredEvents events) {batch accepted : List Event}
    (inside : ∀ event ∈ batch, event ∈ events) (room : accepted.length < target) :
    acceptBatch filters target accepted (batch.map .ofEvent) =
      .ok ((accepted ++ batch.filter filters.matches_).take target) := by
  induction batch generalizing accepted with
  | nil =>
      rw [List.filter_nil, List.append_nil, List.take_of_length_le room.le]
      rfl
  | cons event rest ih =>
      rw [List.map_cons, acceptBatch, stored.intoEvent (inside event List.mem_cons_self)]
      have later : ∀ event ∈ rest, event ∈ events := fun other member =>
        inside other (List.mem_cons_of_mem _ member)
      change (if filters.matches_ event = true then _ else _) = _
      split
      · rename_i wanted
        split
        · rename_i full
          have whole : target = (accepted ++ [event]).length := by
            rw [List.length_append, List.length_singleton]
            omega
          rw [List.filter_cons_of_pos wanted, List.append_cons accepted event
            (rest.filter filters.matches_), whole, List.take_left]
        · rename_i short
          rw [ih later (by rw [List.length_append, List.length_singleton]; omega),
            List.filter_cons_of_pos wanted, List.append_assoc, List.singleton_append]
      · rename_i unwanted
        rw [ih later room, List.filter_cons_of_neg unwanted]

/-- **The batches together accept the newest events that pass both filters.** Each starts where
the one before it ended, so as many batches as rows are enough. -/
theorem StoredEvents.acceptBatches_eq (stored : StoredEvents events) {batchLimit : Nat}
    (positive : 0 < batchLimit) {batches : Nat} {beforeSeq : Option Nat} {accepted : List Event}
    (room : accepted.length < target)
    (enough : (Keyset.beyond newer Event.seq (events.reverse.filter fun event =>
      filters.admits (.ofEvent event)) beforeSeq).length < batches) :
    acceptBatches (events.map .ofEvent) filters target batchLimit batches beforeSeq accepted =
      .ok ((accepted ++ (Keyset.beyond newer Event.seq (events.reverse.filter fun event =>
        filters.admits (.ofEvent event)) beforeSeq).filter filters.matches_).take target) := by
  induction batches generalizing beforeSeq accepted with
  | zero => exact absurd enough (Nat.not_lt_zero _)
  | succ batches ih =>
      have sorted : Keyset.Ordered newer Event.seq (events.reverse.filter fun event =>
          filters.admits (.ofEvent event)) := List.Pairwise.filter _ stored.ordered
      have here := sorted.beyond beforeSeq
      have inside : ∀ event ∈ Keyset.beyond newer Event.seq (events.reverse.filter fun event =>
          filters.admits (.ofEvent event)) beforeSeq, event ∈ events := fun event member =>
        List.mem_reverse.mp (List.mem_of_mem_filter (Keyset.mem_beyond.mp member).1)
      rw [acceptBatches, stored.selectRows_eq]
      generalize admitted : Keyset.beyond newer Event.seq (events.reverse.filter fun event =>
        filters.admits (.ofEvent event)) beforeSeq = rest at here inside enough ⊢
      have next : ∀ oldest, (rest.take batchLimit).getLast? = some oldest →
          Keyset.beyond newer Event.seq (events.reverse.filter fun event =>
            filters.admits (.ofEvent event)) (some oldest.seq) = rest.drop batchLimit := by
        intro oldest ended
        have listed : oldest ∈ rest := List.mem_of_mem_take (List.mem_of_getLast? ended)
        rw [← admitted] at listed
        rw [← Keyset.filter_before_last_take newer_irrefl newer_trans here ended, ← admitted]
        exact @Keyset.beyond_beyond _ _ newer _ Event.seq _ newer_trans _ _
          (Keyset.mem_beyond.mp listed).2
      have parts : rest.filter filters.matches_ = (rest.take batchLimit).filter filters.matches_ ++
          (rest.drop batchLimit).filter filters.matches_ := by
        rw [← List.filter_append, List.take_append_drop]
      rw [List.getLast?_map]
      cases ended : (rest.take batchLimit).getLast? with
      | none =>
          have nothing : rest = [] := by
            rcases List.take_eq_nil_iff.mp (List.getLast?_eq_none_iff.mp ended) with zero | empty
            · omega
            · exact empty
          rw [nothing, List.filter_nil, List.append_nil, List.take_of_length_le room.le]
          rfl
      | some oldest =>
          simp only [Option.map_some]
          rw [stored.acceptBatch_eq (fun event member => inside event (List.mem_of_mem_take member))
            room]
          change (if _ then _ else _) = _
          split
          · rename_i stops
            congr 1
            rcases stops with full | short | first
            · rw [List.length_take] at full
              have enough : target ≤
                  (accepted ++ (rest.take batchLimit).filter filters.matches_).length := by omega
              rw [parts, ← List.append_assoc]
              exact (List.take_append_of_le_length enough).symm
            · rw [List.length_map, List.length_take] at short
              rw [List.take_of_length_le (by omega : rest.length ≤ batchLimit)]
            · have last : rest.drop batchLimit = [] := by
                rw [← next oldest ended, Keyset.beyond, List.filter_eq_nil_iff]
                intro event _ after
                have older : event.seq < oldest.seq := of_decide_eq_true after
                exact absurd first (Nat.ne_of_gt (Nat.zero_lt_of_lt older))
              rw [parts, last, List.filter_nil, List.append_nil]
          · rename_i continues
            rw [not_or, not_or, List.length_take, not_le] at continues
            obtain ⟨open_, -, -⟩ := continues
            have whole :
                (accepted ++ (rest.take batchLimit).filter filters.matches_).length ≤ target := by
              omega
            rw [List.take_of_length_le whole]
            have occupied : 0 < rest.length :=
              List.length_pos_of_mem (List.mem_of_mem_take (List.mem_of_getLast? ended))
            have fewer : (rest.drop batchLimit).length < batches := by
              rw [List.length_drop]
              omega
            rw [← next oldest ended] at fewer
            have rests := @ih _ (accepted ++ (rest.take batchLimit).filter filters.matches_)
              (by omega) fewer
            rw [next oldest ended] at rests
            exact rests.trans (by rw [parts, List.append_assoc])

/-- **What a page holds**: the newest events after the cursor that pass both filters, cut at
the limit. -/
theorem StoredEvents.ledgerEventsPage_eq (stored : StoredEvents events)
    (query : LedgerEventPageQuery) :
    ledgerEventsPage (events.map .ofEvent) query = .ok (.of (max query.limit 1)
      ((Keyset.beyond newer Event.seq (events.reverse.filter
        (NormalizedLedgerEventPageFilters.fromQuery query).selects) query.beforeSeq).take
          (max query.limit 1 + 1))) := by
  have wide : 0 < ledgerEventPageBatchLimit (max query.limit 1)
      (NormalizedLedgerEventPageFilters.fromQuery query).hasResidualFilters := by
    unfold ledgerEventPageBatchLimit
    split <;> omega
  have few : (Keyset.beyond newer Event.seq (events.reverse.filter fun event =>
      (NormalizedLedgerEventPageFilters.fromQuery query).admits (.ofEvent event))
        query.beforeSeq).length < (events.map RawEventRow.ofEvent).length + 1 := by
    have shorter := (Keyset.beyond_sublist newer Event.seq (events.reverse.filter fun event =>
      (NormalizedLedgerEventPageFilters.fromQuery query).admits (.ofEvent event))
        query.beforeSeq).length_le
    have filtered := List.length_filter_le (fun event =>
      (NormalizedLedgerEventPageFilters.fromQuery query).admits (.ofEvent event)) events.reverse
    rw [List.length_reverse] at filtered
    rw [List.length_map]
    omega
  unfold ledgerEventsPage
  dsimp only
  rw [stored.acceptBatches_eq wide (Nat.succ_pos _) few, List.nil_append, Keyset.filter_beyond,
    List.filter_filter]
  have both : (fun event => (NormalizedLedgerEventPageFilters.fromQuery query).matches_ event &&
      (NormalizedLedgerEventPageFilters.fromQuery query).admits (.ofEvent event)) =
      (NormalizedLedgerEventPageFilters.fromQuery query).selects := by
    funext event
    exact Bool.and_comm _ _
  rw [both]
  rfl

end Pages

end Reading

end Chancela
