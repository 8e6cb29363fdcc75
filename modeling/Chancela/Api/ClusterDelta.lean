import Chancela.Api.ClusterFeed
import Chancela.Foundation.Coverage

/-! # The change-feed deltas of one chain

A delta is any list of events. `apply_delta` drops those the ledger already numbers, and
either takes the others over, behind a chain that verifies, or leaves the ledger alone.
The deltas of one durable chain are segments of it: each that joins the ledger carries it
to the segment's end, and segments that arrive in any order carry it along the stretch
they cover (`Chancela.ClusterDelta.applyDelta_spec`).
-/

namespace Chancela

open HashChain Outcome

variable [Crates]

namespace Ledger

variable {total : Nat}

theorem numbered_of_verify {ledger : Ledger} (verified : ledger.verify = .ok total) :
    ledger.Numbered := by
  intro index event present
  have linked := (verify_eq_ok_iff.mp verified).2.1.2
  obtain ⟨inside, found⟩ := List.getElem?_eq_some_iff.mp present
  have split : ledger.events = ledger.events.take index ++ event ::
      ledger.events.drop (index + 1) := by
    rw [← found, List.getElem_cons_drop, List.take_append_drop]
  rw [split, spineMembers, List.map_append, List.map_cons] at linked
  have position : event.seq = _ := linked.seq_eq_length
  rw [position, List.length_map, List.length_take]
  omega

theorem verify_take {ledger : Ledger} (verified : ledger.verify = .ok total) (length : Nat) :
    Ledger.verify ⟨ledger.events.take length⟩ = .ok (ledger.events.take length).length := by
  obtain ⟨-, ⟨hashed, linked⟩, chains⟩ := verify_eq_ok_iff.mp verified
  rw [← List.take_append_drop length ledger.events, spineMembers, List.map_append] at linked
  refine verify_eq_ok_iff.mpr ⟨rfl, ⟨?_, ((linked_append ..).mp linked).1⟩, fun chain => ?_⟩
  · exact fun event member => hashed event (List.mem_of_mem_take member)
  · have whole := chains chain
    rw [← List.take_append_drop length ledger.events, chainMembers_append] at whole
    exact ((linked_append ..).mp whole).1

end Ledger

def DeltaOutcome.isReject : DeltaOutcome → Bool
  | .reject _ => true
  | _ => false

/-- A contiguous segment of the events of a ledger. -/
structure Segment (durable : Ledger) where
  before : List Event
  events : List Event
  after : List Event
  whole : before ++ events ++ after = durable.events

namespace Segment

variable {durable : Ledger}

def span (segment : Segment durable) : Span :=
  ⟨segment.before.length, segment.before.length + segment.events.length⟩

end Segment

namespace ClusterDelta

def taken (ledger : Ledger) (delta : List Event) : Ledger := (applyDelta ledger delta).2

def run {durable : Ledger} (ledger : Ledger) (segments : List (Segment durable)) : Ledger :=
  segments.foldl (fun ledger segment => taken ledger segment.events) ledger

def accepted {durable : Ledger} (ledger : Ledger) :
    List (Segment durable) → List (Segment durable)
  | [] => []
  | segment :: rest =>
      if (applyDelta ledger segment.events).1.isReject then accepted ledger rest
      else segment :: accepted (taken ledger segment.events) rest

omit [Crates] in
theorem filter_of_consecutive {events : List Event} {first : Nat}
    (consecutive : ∀ index event, events[index]? = some event → event.seq = first + index)
    (length : Nat) : events.filter (length ≤ ·.seq) = events.drop (length - first) := by
  induction events generalizing first with
  | nil => rw [List.filter_nil, List.drop_nil]
  | cons event rest ih =>
      have seq : event.seq = first := consecutive 0 event rfl
      have shifted : ∀ index next, rest[index]? = some next → next.seq = first + 1 + index := by
        intro index next present
        rw [consecutive (index + 1) next present, Nat.add_assoc, Nat.add_comm 1]
      have later := ih shifted
      rcases Nat.lt_or_ge first length with below | beyond
      · have one : length - first = length - (first + 1) + 1 := by omega
        rw [List.filter_cons_of_neg (by rw [seq, decide_eq_true_eq]; omega), later, one,
          List.drop_succ_cons]
      · have none : length - (first + 1) = 0 := by omega
        rw [none, List.drop_zero] at later
        rw [List.filter_cons_of_pos (by rw [seq, decide_eq_true_eq]; exact beyond), later,
          Nat.sub_eq_zero_of_le beyond, List.drop_zero]

variable {durable : Ledger}

theorem seq_segment (verified : durable.verify = .ok total) (segment : Segment durable)
    {index : Nat} {event : Event} (present : segment.events[index]? = some event) :
    event.seq = segment.before.length + index := by
  have inside := (List.getElem?_eq_some_iff.mp present).1
  apply Ledger.numbered_of_verify verified
  rw [← segment.whole, List.append_assoc, List.getElem?_append_right (Nat.le_add_right _ _),
    Nat.add_sub_cancel_left, List.getElem?_append_left inside]
  exact present

/-- The events of a segment that a ledger of the first `length` events does not hold. -/
theorem filter_segment (verified : durable.verify = .ok total) (segment : Segment durable)
    (length : Nat) :
    segment.events.filter (length ≤ ·.seq) =
      segment.events.drop (length - segment.before.length) :=
  filter_of_consecutive (fun _ _ present => seq_segment verified segment present) length

variable {length : Nat}

omit [Crates] in
theorem take_append_segment (segment : Segment durable) (reaches : segment.before.length ≤ length) :
    durable.events.take length ++ segment.events.drop (length - segment.before.length) =
      durable.events.take (segment.span.carry length) := by
  have stop : segment.span.carry length =
      max length (segment.before.length + segment.events.length) := if_pos reaches
  rw [stop]
  rcases Nat.le_total length (segment.before.length + segment.events.length) with inside | past
  · rw [max_eq_right inside, ← segment.whole, List.append_assoc, List.take_append,
      List.take_of_length_le reaches, List.take_append_of_le_length (by omega), List.append_assoc,
      List.take_append_drop, ← List.append_assoc, ← List.length_append, List.take_left]
  · rw [max_eq_left past, List.drop_eq_nil_of_le (by omega), List.append_nil]

theorem joins_of_verify {total all : Nat} (verified : durable.verify = .ok total)
    (segment : Segment durable) (held : length ≤ durable.events.length)
    (some : segment.events.drop (length - segment.before.length) ≠ [])
    (verifies : Ledger.verify ⟨durable.events.take length ++
      segment.events.drop (length - segment.before.length)⟩ = .ok all) :
    segment.before.length ≤ length := by
  obtain ⟨first, rest, fresh⟩ := List.exists_cons_of_ne_nil some
  have position : first.seq = segment.before.length + (length - segment.before.length) := by
    have present : (segment.events.drop (length - segment.before.length))[0]? =
        Option.some first := by
      rw [fresh, List.getElem?_cons_zero]
    rw [List.getElem?_drop, Nat.add_zero] at present
    exact seq_segment verified segment present
  rw [fresh] at verifies
  have seam := (seam_of_verify verifies).1
  rw [List.length_take, min_eq_left held] at seam
  omega

/-- **A segment of the durable chain** is refused exactly when it begins beyond the
ledger's events, and is otherwise taken over. -/
theorem applyDelta_segment (verified : durable.verify = .ok total) (segment : Segment durable)
    (held : length ≤ durable.events.length) :
    taken ⟨durable.events.take length⟩ segment.events =
        ⟨durable.events.take (segment.span.carry length)⟩ ∧
      ((applyDelta ⟨durable.events.take length⟩ segment.events).1.isReject = false ↔
        segment.span.Joins length) := by
  have size : (durable.events.take length).length = length := by
    rw [List.length_take, min_eq_left held]
  have fresh := filter_segment verified segment length
  rw [← size] at fresh
  have joins : segment.span.Joins length ↔
      segment.events.length = 0 ∨ segment.before.length ≤ length := by
    simp only [Span.Joins, Segment.span]
    omega
  rw [taken, joins]
  rcases applyDelta_cases ⟨durable.events.take length⟩ _ _ fresh with
    ⟨empty, outcome⟩ | ⟨some, ⟨_, verifies⟩, outcome⟩ | ⟨some, broken, reason, outcome⟩
  all_goals rw [size] at *
  · have past := List.drop_eq_nil_iff.mp empty
    rw [outcome]
    refine ⟨?_, iff_of_true rfl (by omega)⟩
    rw [Span.carry]
    split
    · next reaches =>
        have inside : segment.span.stop ≤ length := by
          change segment.before.length + segment.events.length ≤ length
          change segment.before.length ≤ length at reaches
          omega
        rw [max_eq_left inside]
    · rfl
  · have reaches := joins_of_verify verified segment held some verifies
    rw [outcome, take_append_segment segment reaches]
    exact ⟨rfl, iff_of_true rfl (.inr reaches)⟩
  · have beyond : ¬segment.before.length ≤ length := by
      intro reaches
      rw [take_append_segment segment reaches] at broken
      exact broken _ (Ledger.verify_take verified _)
    have kept : segment.span.carry length = length := if_neg beyond
    rw [outcome, kept]
    refine ⟨rfl, iff_of_false Bool.noConfusion (not_or.mpr ⟨fun empty => some ?_, beyond⟩)⟩
    rw [List.length_eq_zero_iff.mp empty, List.drop_nil]

omit [Crates] in
theorem carry_le_length (segment : Segment durable) (held : length ≤ durable.events.length) :
    segment.span.carry length ≤ durable.events.length := by
  have stop : segment.span.stop ≤ durable.events.length := by
    rw [← segment.whole, List.length_append, List.length_append]
    exact Nat.le_add_right _ _
  rw [Span.carry]
  split
  · exact max_le held stop
  · exact held

theorem run_eq (verified : durable.verify = .ok total) (segments : List (Segment durable))
    (held : length ≤ durable.events.length) :
    ∃ stop, stop ≤ durable.events.length ∧
      Span.Stretch ((accepted ⟨durable.events.take length⟩ segments).map Segment.span)
        length stop ∧
      run ⟨durable.events.take length⟩ segments = ⟨durable.events.take stop⟩ := by
  let spans := (accepted ⟨durable.events.take length⟩ segments).map Segment.span
  suffices carried : spans.foldl Span.carry length ≤ durable.events.length ∧
      Run.Admissible Span.carry Span.Joins length spans ∧
      run ⟨durable.events.take length⟩ segments =
        ⟨durable.events.take (spans.foldl Span.carry length)⟩ from
    ⟨_, carried.1, Span.isLeast_foldl_carry carried.2.1, carried.2.2⟩
  induction segments generalizing length with
  | nil => exact ⟨held, trivial, rfl⟩
  | cons segment rest ih =>
      obtain ⟨after, joins⟩ := applyDelta_segment verified segment held
      have later := ih (carry_le_length segment held)
      simp only [spans, run, accepted, List.foldl_cons, after]
      cases refused : (applyDelta ⟨durable.events.take length⟩ segment.events).1.isReject with
      | false => exact ⟨later.1, ⟨joins.mp refused, later.2.1⟩, later.2.2⟩
      | true =>
          have apart : ¬segment.span.Joins length := by
            rw [← joins, refused]
            exact Bool.noConfusion
          have kept : segment.span.carry length = length :=
            if_neg fun reaches => apart (.inr reaches)
          rw [kept] at later ⊢
          exact later

theorem accepted_eq (verified : durable.verify = .ok total) {segments : List (Segment durable)}
    (held : length ≤ durable.events.length)
    (back : ∀ segment ∈ segments, segment.before.length ≤ length) :
    accepted ⟨durable.events.take length⟩ segments = segments := by
  induction segments generalizing length with
  | nil => rfl
  | cons segment rest ih =>
      obtain ⟨after, joins⟩ := applyDelta_segment verified segment held
      have taken := joins.mpr (.inr (back segment List.mem_cons_self))
      rw [accepted, taken, after, if_neg Bool.false_ne_true]
      rw [ih (carry_le_length segment held) fun other member =>
        (back other (List.mem_cons_of_mem segment member)).trans
          (Span.le_carry length segment.span)]

/-- **The deltas of a change feed.** A delta changes the ledger only where it is applied;
it is one with nothing new exactly when the ledger numbers all of its events; and what it
is extended by is the others, with which it verifies. A segment of a durable chain that
reaches back to the ledger's events carries it to the segment's end; after segments in
any order the ledger is where those that were not refused carry it, which is where their
stretch taken over at once does. -/
theorem applyDelta_spec (ledger : Ledger) :
    (∀ delta : List Event,
      ((∀ newLen newHead, (applyDelta ledger delta).1 ≠ .applied newLen newHead) →
        taken ledger delta = ledger) ∧
      ((applyDelta ledger delta).1 = .noOp ↔
        ∀ event ∈ delta, event.seq < ledger.events.length) ∧
      ∀ newLen newHead, (applyDelta ledger delta).1 = .applied newLen newHead →
        taken ledger delta =
            ⟨ledger.events ++ delta.filter (ledger.events.length ≤ ·.seq)⟩ ∧
          (taken ledger delta).verify = .ok newLen ∧ newHead = (taken ledger delta).head) ∧
    ∀ (durable : Ledger) (total : Nat), durable.verify = .ok total →
      ledger.events <+: durable.events →
      (∀ segment : Segment durable, segment.before.length ≤ ledger.events.length →
        taken ledger segment.events =
          ⟨durable.events.take (max ledger.events.length segment.span.stop)⟩) ∧
      ∀ segments : List (Segment durable),
        (∃ stop, Span.Stretch ((accepted ledger segments).map Segment.span)
            ledger.events.length stop ∧
          run ledger segments = ⟨durable.events.take stop⟩ ∧
          run ledger segments =
            taken ledger ((durable.events.take stop).drop ledger.events.length)) ∧
        ((∀ segment ∈ segments, segment.before.length ≤ ledger.events.length) →
          accepted ledger segments = segments) := by
  refine ⟨fun delta => ?_, fun durable total verified begins => ?_⟩
  · rcases applyDelta_cases ledger delta _ rfl with
      ⟨empty, outcome⟩ | ⟨some, ⟨total, verifies⟩, outcome⟩ | ⟨some, broken, reason, outcome⟩
    · rw [taken, outcome]
      have below : ∀ event ∈ delta, event.seq < ledger.events.length := by
        simpa only [List.filter_eq_nil_iff, decide_eq_true_eq, not_le] using empty
      exact ⟨fun _ => rfl, iff_of_true rfl below,
        fun _ _ applied => DeltaOutcome.noConfusion applied⟩
    · rw [taken, outcome]
      have new : ¬∀ event ∈ delta, event.seq < ledger.events.length := by
        simpa only [ne_eq, List.filter_eq_nil_iff, decide_eq_true_eq, not_le] using some
      refine ⟨fun never => (never _ _ rfl).elim, iff_of_false DeltaOutcome.noConfusion new, ?_⟩
      rintro newLen newHead applied
      obtain ⟨rfl, rfl⟩ := DeltaOutcome.applied.inj applied
      exact ⟨rfl, (Ledger.verify_eq_ok_iff.mp verifies).1 ▸ verifies, rfl⟩
    · rw [taken, outcome]
      have new : ¬∀ event ∈ delta, event.seq < ledger.events.length := by
        simpa only [ne_eq, List.filter_eq_nil_iff, decide_eq_true_eq, not_le] using some
      exact ⟨fun _ => rfl, iff_of_false DeltaOutcome.noConfusion new,
        fun _ _ applied => DeltaOutcome.noConfusion applied⟩
  · have held := begins.length_le
    have whole : (⟨durable.events.take ledger.events.length⟩ : Ledger) = ledger := by
      rw [← List.prefix_iff_eq_take.mp begins]
    have one : ∀ segment : Segment durable, segment.before.length ≤ ledger.events.length →
        taken ledger segment.events =
          ⟨durable.events.take (max ledger.events.length segment.span.stop)⟩ := by
      intro segment reaches
      have after := (applyDelta_segment verified segment held).1
      have stop : segment.span.carry ledger.events.length =
          max ledger.events.length segment.span.stop := if_pos reaches
      rwa [whole, stop] at after
    refine ⟨one, fun segments => ⟨?_, fun back => ?_⟩⟩
    · obtain ⟨stop, inside, stretch, result⟩ := run_eq verified segments held
      rw [whole] at stretch result
      refine ⟨stop, stretch, result, ?_⟩
      have reached : ledger.events.length ≤ stop := stretch.1.1
      -- The stretch is itself a segment of the durable chain.
      have union := one ⟨durable.events.take ledger.events.length,
        (durable.events.take stop).drop ledger.events.length, durable.events.drop stop, by
          rw [← min_eq_left reached, ← List.take_take, min_eq_left reached,
            List.take_append_drop, List.take_append_drop]⟩
        (List.length_take_le _ _)
      rw [result, union]
      simp only [Segment.span, List.length_take, List.length_drop]
      congr 2
      omega
    · have same := accepted_eq verified held back
      rwa [whole] at same

end ClusterDelta

end Chancela
