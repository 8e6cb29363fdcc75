import Chancela.Crates.Unicode
import Chancela.Ledger.Event
import Chancela.Search.Text
import Mathlib.Data.Finset.Sort

/-! # Filters over ledger events

What a page of ledger events is filtered by: text found in any of the fields of an event,
the scope, kinds and actor, and bounds on the instant. The filters of a request are folded
once here, and events are compared with the bounds as instants.
-/

namespace Chancela

/-- Instants compare, whatever offsets they are written with. -/
def OffsetDateTime.before (first second : OffsetDateTime) : Bool :=
  first.unixTimestampNanos < second.unixTimestampNanos

inductive UpperBound where
  | inclusive (bound : OffsetDateTime)
  | exclusive (bound : OffsetDateTime)
deriving DecidableEq

def UpperBound.contains (timestamp : OffsetDateTime) : UpperBound → Bool
  | .inclusive bound => !bound.before timestamp
  | .exclusive bound => timestamp.before bound

/-- A lowercase character as the search sees it: without its diacritic. -/
def foldSearchChar (c : Char) : List Char :=
  let code := c.toNat
  if 0x0300 ≤ code ∧ code ≤ 0x036F then []
  else if 0xE0 ≤ code ∧ code ≤ 0xE5 then ['a']
  else if code = 0xE7 then ['c']
  else if 0xE8 ≤ code ∧ code ≤ 0xEB then ['e']
  else if 0xEC ≤ code ∧ code ≤ 0xEF then ['i']
  else if code = 0xF1 then ['n']
  else if 0xF2 ≤ code ∧ code ≤ 0xF6 then ['o']
  else if 0xF9 ≤ code ∧ code ≤ 0xFC then ['u']
  else if code = 0xFD ∨ code = 0xFF then ['y']
  else if code = 0xE6 then ['a', 'e']
  else if code = 0x0153 then ['o', 'e']
  else if code = 0xDF then ['s', 's']
  else [c]

section Matching

variable [Crates] [Unicode]

def normalizeLedgerEventSearchText (value : String) : String :=
  String.ofList ((value.toList.flatMap toLowercase).flatMap foldSearchChar)

/-- `normalize_query`: nothing is searched for where nothing is left of the text. -/
def normalizeQuery (query : Option String) : Option String :=
  (query.map fun text => normalizeLedgerEventSearchText (Text.trim text)).filter (· ≠ "")

def containsQuery (value query : String) : Bool :=
  Text.contains (normalizeLedgerEventSearchText value) query

def eventMatchesQuery (event : Event) (query : String) : Bool :=
  containsQuery event.id.display query || containsQuery (toString event.seq) query ||
    containsQuery event.actor query || event.justification.any (containsQuery · query) ||
    containsQuery event.scope query || containsQuery event.kind query ||
    containsQuery ((formatRfc3339 event.timestamp).getD "") query ||
    containsQuery (hex32 event.payloadDigest) query ||
    containsQuery (hex32 event.prevHash) query || containsQuery (hex32 event.hash) query ||
    event.links.any fun link => containsQuery link.chain.canonical query ||
      containsQuery (toString link.seq) query || containsQuery (hex32 link.prevHash) query

def parseKindFilter (raw : List String) : Finset String :=
  (((raw.flatMap fun value => Text.split value ',').map Text.trim).filter (· ≠ "")).toFinset

structure LedgerEventFilters where
  query : Option String
  scope : Option String
  kinds : Finset String
  actor : Option String
  from_ : Option OffsetDateTime
  to_ : Option UpperBound

namespace LedgerEventFilters

/-- `LedgerEventFilters::from_parts`, with the bounds parsed. -/
def fromParts (query scope : Option String) (kind : List String) (actor : Option String)
    (from_ : Option OffsetDateTime) (to_ : Option UpperBound) : LedgerEventFilters where
  query := normalizeQuery query
  scope := scope.filter (· ≠ "")
  kinds := parseKindFilter kind
  actor := actor.filter (· ≠ "")
  from_ := from_
  to_ := to_

/-- The filters that look at nothing but the scope, the kind and the actor. -/
def matchesFields (filters : LedgerEventFilters) (event : Event) : Bool :=
  filters.scope.all (Text.contains event.scope ·) &&
    (filters.kinds = ∅ || event.kind ∈ filters.kinds) && filters.actor.all (event.actor = ·)

def matchesInstant (filters : LedgerEventFilters) (event : Event) : Bool :=
  filters.from_.all (fun bound => !event.timestamp.before bound) &&
    filters.to_.all (UpperBound.contains event.timestamp)

/-- `LedgerEventFilters::matches`. -/
def matches_ (filters : LedgerEventFilters) (event : Event) : Bool :=
  filters.query.all (eventMatchesQuery event ·) && filters.matchesFields event &&
    filters.matchesInstant event

end LedgerEventFilters

def eventInChain (event : Event) : Option ChainId → Bool
  | none | some .global => true
  | some chain => event.links.any (·.chain = chain)

def defaultLedgerPageLimit : Nat := 100

def maxLedgerPageLimit : Nat := 250

def normalizedPageLimit (limit : Option Nat) : Nat :=
  max 1 (min (limit.getD defaultLedgerPageLimit) maxLedgerPageLimit)

/-- `LedgerEventsSelection`: a page, newest first. -/
structure LedgerEventsSelection where
  events : List Event
  nextCursor : Option Nat
  hasMore : Bool
  limit : Nat
deriving DecidableEq

/-- The page of a limit, out of what was selected up to one event beyond it. -/
def LedgerEventsSelection.of (limit : Nat) (selected : List Event) : LedgerEventsSelection :=
  let hasMore := decide (limit < selected.length)
  let events := if hasMore then selected.take limit else selected
  ⟨events, if hasMore then events.getLast?.map (·.seq) else none, hasMore, limit⟩

/-- Collect what is wanted, in order, until there is enough of it. -/
def collect (wanted : Event → Bool) (target : Nat) (accepted : List Event) :
    List Event → List Event
  | [] => accepted
  | event :: rest =>
      if wanted event then
        if target ≤ accepted.length + 1 then accepted ++ [event]
        else collect wanted target (accepted ++ [event]) rest
      else collect wanted target accepted rest

/-- `select_ledger_events_page` without a store: the events of the live ledger. -/
def selectLiveEvents (events : List Event) (beforeSeq : Option Nat) (limit : Nat)
    (chain : Option ChainId) (filters : LedgerEventFilters) : LedgerEventsSelection :=
  .of limit (collect (fun event => beforeSeq.all (event.seq < ·) && eventInChain event chain &&
    filters.matches_ event) (limit + 1) [] events.reverse)

/-! ## Kinds survive being listed and parsed again -/

omit [Crates] [Unicode] in
theorem mem_parseKindFilter {raw : List String} {kind : String} :
    kind ∈ parseKindFilter raw ↔
      ∃ value ∈ raw, ∃ piece ∈ Text.split value ',', Text.trim piece = kind ∧ kind ≠ "" := by
  simp only [parseKindFilter, List.mem_toFinset, List.mem_filter, List.mem_map, List.mem_flatMap,
    decide_eq_true_eq]
  constructor
  · rintro ⟨⟨piece, ⟨value, listed, inside⟩, rfl⟩, nonempty⟩
    exact ⟨value, listed, piece, inside, rfl, nonempty⟩
  · rintro ⟨value, listed, piece, inside, rfl, nonempty⟩
    exact ⟨⟨piece, ⟨value, listed, inside⟩, rfl⟩, nonempty⟩

omit [Crates] [Unicode] in
theorem parseKindFilter_parsed (raw listed : List String)
    (same : ∀ kind, kind ∈ listed ↔ kind ∈ parseKindFilter raw) :
    parseKindFilter listed = parseKindFilter raw := by
  have alone : ∀ kind ∈ parseKindFilter raw, Text.split kind ',' = [kind] ∧
      Text.trim kind = kind ∧ kind ≠ "" := by
    intro kind parsed
    obtain ⟨value, -, piece, inside, rfl, nonempty⟩ := mem_parseKindFilter.mp parsed
    obtain ⟨chars, cut, rfl⟩ := List.mem_map.mp inside
    rw [List.splitOn_eq_splitOnP] at cut
    have clean : ',' ∉ (Text.trim (String.ofList chars)).toList := by
      intro comma
      have still := Text.mem_of_mem_trim comma
      rw [String.toList_ofList] at still
      have other := (Search.piece_of_mem_splitOnP cut).2 _ still
      simp at other
    refine ⟨?_, Text.trim_trim _, nonempty⟩
    rw [Text.split, List.splitOn_eq_singleton clean, List.map_singleton, String.ofList_toList]
  ext kind
  rw [mem_parseKindFilter]
  constructor
  · rintro ⟨value, member, piece, inside, rfl, -⟩
    have parsed := (same value).mp member
    rw [(alone value parsed).1, List.mem_singleton] at inside
    rw [inside, (alone value parsed).2.1]
    exact parsed
  · intro parsed
    obtain ⟨single, trimmed, nonempty⟩ := alone kind parsed
    exact ⟨kind, (same kind).mpr parsed, kind, single ▸ List.mem_singleton_self kind, trimmed,
      nonempty⟩

/-! ## What is collected -/

omit [Crates] [Unicode] in
theorem collect_eq {wanted : Event → Bool} {target : Nat} {accepted items : List Event}
    (room : accepted.length < target) :
    collect wanted target accepted items = (accepted ++ items.filter wanted).take target := by
  induction items generalizing accepted with
  | nil => rw [collect, List.filter_nil, List.append_nil, List.take_of_length_le room.le]
  | cons event rest ih =>
      rw [collect]
      split
      · rename_i wants
        rw [List.filter_cons_of_pos wants, List.append_cons accepted event (rest.filter wanted)]
        have longer : (accepted ++ [event]).length = accepted.length + 1 := by
          rw [List.length_append, List.length_singleton]
        split
        · rename_i full
          have whole : target = (accepted ++ [event]).length := by omega
          rw [whole, List.take_left]
        · rename_i short
          rw [ih (by omega)]
      · rename_i skipped
        rw [ih room, List.filter_cons_of_neg skipped]

end Matching

end Chancela
