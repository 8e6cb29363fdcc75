import Chancela.Api.ClusterState
import Chancela.Foundation.Run
import Chancela.Ledger.Reanchor

/-! # The change feed of a follower

A follower asks the durable event table for what lies beyond the length of its own
ledger, and takes the answer over when it continues its head and the whole chain
verifies; otherwise it reloads. The table may be appended to, re-anchored, restored,
started over or reset between two passes. A pass ends with the durable list exactly
when the list is the follower's own with a tail behind it, or has events beyond the
follower's length that do not verify behind its ledger
(`Chancela.FeedCluster.inSync_iff`).
-/

namespace Chancela

open HashChain Outcome

inductive DeltaOutcome where
  | noOp
  | applied (newLen : Nat) (newHead : Option Digest)
  | reject (reason : String)

/-- The continuity of a delta in itself: why its first broken pair is refused. -/
def deltaGap : List Event → Option String
  | first :: second :: rest =>
      if second.seq ≠ first.seq + 1 then
        some s!"non-contiguous delta: seq {first.seq} is not followed by {first.seq + 1}"
      else if second.prevHash ≠ first.hash then
        some s!"broken chain within delta at seq {second.seq}"
      else deltaGap (second :: rest)
  | _ => none

section Delta

variable [Crates]

/-- `apply_delta`: the outcome and the ledger after it. -/
def applyDelta (ledger : Ledger) (delta : List Event) : DeltaOutcome × Ledger :=
  let expectedSeq := ledger.events.length
  let expectedPrev := ledger.head.getD zeroDigest
  match delta.filter (expectedSeq ≤ ·.seq) with
  | [] => (.noOp, ledger)
  | first :: rest =>
      if first.seq ≠ expectedSeq then
        (.reject (s!"gap: delta begins at seq {first.seq} but " ++
          s!"the in-memory head expects seq {expectedSeq}"), ledger)
      else if first.prevHash ≠ expectedPrev then
        (.reject (s!"fork: delta seq {first.seq} prev_hash " ++
          "does not extend the current in-memory head"), ledger)
      else match deltaGap (first :: rest) with
        | some reason => (.reject reason, ledger)
        | none =>
            let candidate : Ledger := ⟨ledger.events ++ first :: rest⟩
            match candidate.verify with
            | .ok _ => (.applied candidate.events.length candidate.head, candidate)
            | .error fault =>
                (.reject s!"delta failed whole-chain re-verification: {fault.display}", ledger)

omit [Crates] in
theorem deltaGap_eq_none_of_linked {tip : Tip Digest} {events : List Event}
    (linked : Linked zeroDigest tip (spineMembers events)) : deltaGap events = none := by
  induction events generalizing tip with
  | nil => rfl
  | cons first rest ih =>
      cases rest with
      | nil => rfl
      | cons second rest =>
          obtain ⟨position, link⟩ : second.seq = first.seq + 1 ∧ second.prevHash = first.hash :=
            linked.2.1
          rw [deltaGap, if_neg (not_not.mpr position), if_neg (not_not.mpr link)]
          exact ih linked.2

theorem seam_of_verify {events rest : List Event} {first : Event} {total : Nat}
    (verified : Ledger.verify ⟨events ++ first :: rest⟩ = .ok total) :
    first.seq = events.length ∧ first.prevHash = (Ledger.head ⟨events⟩).getD zeroDigest ∧
      deltaGap (first :: rest) = none := by
  have linked := (Ledger.verify_eq_ok_iff.mp verified).2.1.2
  change Linked zeroDigest none (spineMembers (events ++ first :: rest)) at linked
  rw [spineMembers, List.map_append] at linked
  have position := linked.seq_eq_length
  rw [List.length_map] at position
  have behind := ((linked_append ..).mp linked).2
  refine ⟨position, ?_, deltaGap_eq_none_of_linked behind⟩
  cases events using List.reverseRecOn with
  | nil => exact behind.1.2.1
  | append_singleton before last =>
      rw [List.map_append] at behind
      change Linked zeroDigest (advance none (before.map Event.spineMember ++ [last.spineMember]))
        (first.spineMember :: rest.map Event.spineMember) at behind
      rw [advance_concat] at behind
      rw [Ledger.head, List.getLast?_concat]
      exact behind.1.2

/-- **What a delta does**: nothing when it holds nothing new; it is taken over when the
ledger verifies with it, and refused otherwise. -/
theorem applyDelta_cases (ledger : Ledger) (delta fresh : List Event)
    (filtered : delta.filter (ledger.events.length ≤ ·.seq) = fresh) :
    fresh = [] ∧ applyDelta ledger delta = (.noOp, ledger) ∨
      fresh ≠ [] ∧ (∃ total, Ledger.verify ⟨ledger.events ++ fresh⟩ = .ok total) ∧
        applyDelta ledger delta = (.applied (ledger.events ++ fresh).length
          (Ledger.head ⟨ledger.events ++ fresh⟩), ⟨ledger.events ++ fresh⟩) ∨
      fresh ≠ [] ∧ (∀ total, Ledger.verify ⟨ledger.events ++ fresh⟩ ≠ .ok total) ∧
        ∃ reason, applyDelta ledger delta = (.reject reason, ledger) := by
  cases fresh with
  | nil => exact .inl ⟨rfl, by simp only [applyDelta, filtered]⟩
  | cons first rest =>
      refine .inr ?_
      cases status : Ledger.verify ⟨ledger.events ++ first :: rest⟩ with
      | ok total =>
          obtain ⟨position, link, continuous⟩ := seam_of_verify status
          refine .inl ⟨List.cons_ne_nil first rest, ⟨total, rfl⟩, ?_⟩
          simp only [applyDelta, filtered, position, link, continuous, status, ne_eq,
            not_true_eq_false, ↓reduceIte]
      | error fault =>
          refine .inr ⟨List.cons_ne_nil first rest, (fun _ verified => nomatch verified), ?_⟩
          simp only [applyDelta, filtered, status]
          split
          · exact ⟨_, rfl⟩
          · split
            · exact ⟨_, rfl⟩
            · split
              · exact ⟨_, rfl⟩
              · exact ⟨_, rfl⟩

end Delta

/-- `events_since`: the rows beyond a sequence number, in their order. -/
def eventsSince (events : List Event) (afterSeq : Int) : List Event :=
  events.filter fun event => afterSeq < event.seq

/-- The places where a pass may meet an error. -/
structure FeedFaults where
  /-- The delta cannot be fetched. -/
  fetch : Bool
  /-- The read models cannot be re-read. -/
  refresh : Bool
  /-- The full reload fails. -/
  reload : Bool
  /-- The search fence does not start. -/
  fence : Except String Unit

def FeedFaults.none : FeedFaults := ⟨false, false, false, .ok ()⟩

variable {kinds : RecordKinds}

namespace ReplicaState

variable [Crates] [RecordParser]

def clusterFullReload (faults : FeedFaults) (store : DurableStore kinds)
    (state : ReplicaState kinds) : ReplicaState kinds :=
  if faults.reload then state
  else match state.clusterSwapLoadedState faults.fence store.load store.signedDocuments with
    | .error _ => state
    | .ok swapped => swapped.refreshDegraded

def clusterFeedReconcile (isLeader : Bool) (faults : FeedFaults) (store : DurableStore kinds)
    (state : ReplicaState kinds) : ReplicaState kinds :=
  if isLeader then state
  else if faults.fetch then state
  else
    let delta := eventsSince store.events ((state.ledger.events.length : Int) - 1)
    if delta.isEmpty then state
    else match applyDelta state.ledger delta with
      | (.noOp, _) => state
      | (.applied _ _, candidate) =>
          if faults.refresh then state.clusterFullReload faults store
          else match state.clusterSwapDeltaState faults.fence candidate
              ⟨store.aggregates, store.signedDocuments⟩ with
            | .error _ => state
            | .ok swapped => swapped.refreshDegraded
      | (.reject _, _) => state.clusterFullReload faults store

/-- The events the durable table holds beyond the ledger of a follower. -/
def feedTail (store : DurableStore kinds) (state : ReplicaState kinds) : List Event :=
  eventsSince store.events ((state.ledger.events.length : Int) - 1)

omit [Crates] [RecordParser] in
theorem filter_feedTail (store : DurableStore kinds) (state : ReplicaState kinds) :
    (feedTail store state).filter (state.ledger.events.length ≤ ·.seq) = feedTail store state := by
  rw [List.filter_eq_self]
  intro event member
  have beyond := of_decide_eq_true (List.mem_filter.mp member).2
  exact decide_eq_true (by omega)

theorem ledger_clusterFeedReconcile (store : DurableStore kinds) (state : ReplicaState kinds) :
    (feedTail store state = [] ∧ (state.clusterFeedReconcile false .none store).ledger =
        state.ledger) ∨
      (feedTail store state ≠ [] ∧
        (∃ total, Ledger.verify ⟨state.ledger.events ++ feedTail store state⟩ = .ok total) ∧
        (state.clusterFeedReconcile false .none store).ledger =
          ⟨state.ledger.events ++ feedTail store state⟩) ∨
      (feedTail store state ≠ [] ∧
        (∀ total, Ledger.verify ⟨state.ledger.events ++ feedTail store state⟩ ≠ .ok total) ∧
        (state.clusterFeedReconcile false .none store).ledger = ⟨store.events⟩) := by
  have asked : eventsSince store.events ((state.ledger.events.length : Int) - 1) =
      feedTail store state := rfl
  rcases applyDelta_cases state.ledger _ _ (filter_feedTail store state) with
    ⟨empty, outcome⟩ | ⟨some, verified, outcome⟩ | ⟨some, broken, reason, outcome⟩
  · refine .inl ⟨empty, ?_⟩
    simp only [clusterFeedReconcile, FeedFaults.none, asked, empty, List.isEmpty_nil, ↓reduceIte,
      Bool.false_eq_true]
  · refine .inr (.inl ⟨some, verified, ?_⟩)
    have nonempty : (feedTail store state).isEmpty = false := List.isEmpty_eq_false_iff.mpr some
    simp only [clusterFeedReconcile, FeedFaults.none, asked, nonempty, outcome, ↓reduceIte,
      Bool.false_eq_true]
    rfl
  · refine .inr (.inr ⟨some, broken, ?_⟩)
    have nonempty : (feedTail store state).isEmpty = false := List.isEmpty_eq_false_iff.mpr some
    simp only [clusterFeedReconcile, FeedFaults.none, asked, nonempty, outcome, ↓reduceIte,
      Bool.false_eq_true]
    rfl

end ReplicaState

def reinitializedEventKind : String := "ledger.reinitialized"

/-- What happens to the durable event table. -/
inductive DurableWrite where
  /-- The leader commits an event; a reset of the domain data does, too. -/
  | append (call : AppendCall)
  /-- `persist_reanchored_ledger`, after `Ledger::reanchor`. -/
  | reanchor (actor reason : String) (at_ : OffsetDateTime) (id : Uuid)
  /-- A whole-store restore of a bundle; the record of it is an append that follows. -/
  | restore (bundle : List Event)
  /-- `start_over_instance`, with the text of its record. -/
  | startOver (actor json : String) (at_ : OffsetDateTime) (id : Uuid)
  /-- `reset` of everything. -/
  | factoryReset

/-- The insertion of a row; the sequence number is the primary key. -/
def insertEvent (events : List Event) (event : Event) : List Event :=
  if events.any (·.seq = event.seq) then events
  else events.orderedInsert (·.seq ≤ ·.seq) event

def reinitializedCall (actor json : String) (at_ : OffsetDateTime) (id : Uuid) : AppendCall where
  actor := actor
  scope := recoveryScope
  kind := reinitializedEventKind
  justification := some json
  payload := Text.utf8 json
  id := id
  timestamp := at_

/-- The durable store and a follower of it. -/
structure FeedCluster (kinds : RecordKinds) where
  store : DurableStore kinds
  follower : ReplicaState kinds

/-- What happens in a cluster: a write to the event table, a write to the other tables,
or a pass of the follower. -/
inductive FeedCall (kinds : RecordKinds) where
  | write (write : DurableWrite)
  | rows (snapshot : FeedSnapshot kinds)
  | pass (isLeader : Bool) (faults : FeedFaults)

section Writes

variable [Crates]

/-- The event table after a write. The leader's ledger is the table's; a bundle whose
chain does not verify is refused, and so is a rebuilt chain. -/
def DurableWrite.apply (events : List Event) : DurableWrite → List Event
  | .append call => insertEvent events (Ledger.appendedEvent ⟨events⟩ call)
  | .reanchor actor reason at_ id =>
      match Ledger.reanchor ⟨events⟩ actor reason at_ id with
      | (some (.ok _), rebuilt) => rebuilt.events
      | _ => events
  | .restore bundle =>
      match Ledger.verify ⟨bundle⟩ with
      | .ok _ => bundle
      | .error _ => events
  | .startOver actor json at_ id =>
      [Ledger.new.appendedEvent (reinitializedCall actor json at_ id)]
  | .factoryReset => []

end Writes

namespace FeedCluster

section Passes

variable [Crates] [RecordParser]

def step (cluster : FeedCluster kinds) : FeedCall kinds → FeedCluster kinds
  | .write write =>
      { cluster with store.events := write.apply cluster.store.events }
  | .rows snapshot =>
      { cluster with
        store.aggregates := snapshot.aggregates
        store.signedDocuments := snapshot.signedDocuments }
  | .pass isLeader faults =>
      { cluster with
        follower := cluster.follower.clusterFeedReconcile isLeader faults cluster.store }

def InSync (cluster : FeedCluster kinds) : Prop :=
  cluster.follower.ledger.events = cluster.store.events

def tail (cluster : FeedCluster kinds) : List Event :=
  cluster.follower.feedTail cluster.store

/-- The durable list is the follower's own and a tail behind it, or has events beyond
the follower's length that do not verify behind its ledger. -/
def FollowsOn (cluster : FeedCluster kinds) : Prop :=
  cluster.follower.ledger.events ++ cluster.tail = cluster.store.events ∨
    cluster.tail ≠ [] ∧
      ∀ total, Ledger.verify ⟨cluster.follower.ledger.events ++ cluster.tail⟩ ≠ .ok total

theorem inSync_pass_iff (cluster : FeedCluster kinds) :
    (cluster.step (.pass false .none)).InSync ↔ cluster.FollowsOn := by
  have unfolded : (cluster.step (.pass false .none)).InSync ↔
      (cluster.follower.clusterFeedReconcile false .none cluster.store).ledger.events =
        cluster.store.events := Iff.rfl
  rw [unfolded, FollowsOn, tail]
  rcases ReplicaState.ledger_clusterFeedReconcile cluster.store cluster.follower with
    ⟨empty, after⟩ | ⟨-, ⟨total, verified⟩, after⟩ | ⟨some, broken, after⟩
  · rw [after, empty, List.append_nil]
    exact ⟨.inl, fun follows => follows.resolve_right fun beyond => beyond.1 rfl⟩
  · rw [after]
    exact ⟨.inl, fun follows => follows.resolve_right fun beyond => beyond.2 total verified⟩
  · rw [after]
    exact ⟨fun _ => .inr ⟨some, broken⟩, fun _ => rfl⟩

/-- **A follower and the durable chain.** Over a run, every pass without errors of a
follower ends with the durable event list exactly when every such pass finds a durable
list that follows on from the follower's. -/
theorem inSync_iff (start : FeedCluster kinds) (calls : List (FeedCall kinds)) :
    Run.Admissible step (fun cluster call => call = .pass false .none →
        (cluster.step call).InSync) start calls ↔
      Run.Admissible step (fun cluster call => call = .pass false .none →
        cluster.FollowsOn) start calls := by
  apply Run.admissible_congr
  intro cluster call
  constructor
  · rintro ends rfl
    exact (inSync_pass_iff cluster).mp (ends rfl)
  · rintro follows rfl
    exact (inSync_pass_iff cluster).mpr (follows rfl)

theorem ledger_pass {cluster : FeedCluster kinds} (follows : cluster.FollowsOn)
    (isLeader : Bool) (faults : FeedFaults) :
    (cluster.step (.pass isLeader faults)).follower.ledger = cluster.follower.ledger ∨
      (cluster.step (.pass isLeader faults)).follower.ledger = ⟨cluster.store.events⟩ := by
  have reload : (cluster.follower.clusterFullReload faults cluster.store).ledger =
        cluster.follower.ledger ∨
      (cluster.follower.clusterFullReload faults cluster.store).ledger =
        ⟨cluster.store.events⟩ := by
    rw [ReplicaState.clusterFullReload]
    split
    · exact .inl rfl
    · cases fence : faults.fence with
      | error fault => exact .inl rfl
      | ok _ => exact .inr rfl
  change (cluster.follower.clusterFeedReconcile isLeader faults cluster.store).ledger = _ ∨
    (cluster.follower.clusterFeedReconcile isLeader faults cluster.store).ledger = _
  have asked : eventsSince cluster.store.events
      ((cluster.follower.ledger.events.length : Int) - 1) = cluster.tail := rfl
  cases isLeader with
  | true => exact .inl rfl
  | false =>
      cases fetch : faults.fetch with
      | true =>
          simp only [ReplicaState.clusterFeedReconcile, fetch, ↓reduceIte, Bool.false_eq_true,
            true_or]
      | false =>
          rcases applyDelta_cases cluster.follower.ledger _ _
              (ReplicaState.filter_feedTail cluster.store cluster.follower) with
            ⟨empty, -⟩ | ⟨some, ⟨total, verified⟩, outcome⟩ | ⟨some, -, reason, outcome⟩
          · have none : cluster.tail = [] := empty
            simp only [ReplicaState.clusterFeedReconcile, fetch, asked, none, List.isEmpty_nil,
              ↓reduceIte, Bool.false_eq_true, true_or]
          · have whole : cluster.follower.ledger.events ++ cluster.tail = cluster.store.events :=
              follows.resolve_right fun beyond => beyond.2 total verified
            have nonempty : cluster.tail.isEmpty = false := List.isEmpty_eq_false_iff.mpr some
            change applyDelta cluster.follower.ledger cluster.tail =
              (_, ⟨cluster.follower.ledger.events ++ cluster.tail⟩) at outcome
            rw [whole] at outcome
            simp only [ReplicaState.clusterFeedReconcile, fetch, asked, nonempty, outcome,
              ↓reduceIte, Bool.false_eq_true]
            split
            · exact reload
            · cases fence : faults.fence with
              | error fault => exact .inl rfl
              | ok _ => exact .inr rfl
          · have nonempty : cluster.tail.isEmpty = false := List.isEmpty_eq_false_iff.mpr some
            change applyDelta cluster.follower.ledger cluster.tail = (_, _) at outcome
            simp only [ReplicaState.clusterFeedReconcile, fetch, asked, nonempty, outcome,
              ↓reduceIte, Bool.false_eq_true]
            exact reload

/-- **No fork is served.** Where every pass finds a list that follows on, the ledger of
a follower that started in sync is, in every state of the run, the durable list of that
state or of an earlier one. -/
theorem served {start : FeedCluster kinds} (inSync : start.InSync)
    {calls : List (FeedCall kinds)}
    (follows : Run.Admissible step (fun cluster call => ∀ isLeader faults,
      call = .pass isLeader faults → cluster.FollowsOn) start calls) :
    ∃ earlier ∈ Run.states step start calls,
      (calls.foldl step start).follower.ledger.events = earlier.store.events := by
  have general : ∀ (calls : List (FeedCall kinds)) (start : FeedCluster kinds),
      Run.Admissible step (fun cluster call => ∀ isLeader faults,
        call = .pass isLeader faults → cluster.FollowsOn) start calls →
      (calls.foldl step start).follower.ledger = start.follower.ledger ∨
        ∃ earlier ∈ Run.states step start calls,
          (calls.foldl step start).follower.ledger.events = earlier.store.events := by
    intro calls
    induction calls with
    | nil => exact fun _ _ => .inl rfl
    | cons call rest ih =>
        intro start follows
        rcases ih (start.step call) follows.2 with kept | ⟨earlier, member, same⟩
        · have one : (start.step call).follower.ledger = start.follower.ledger ∨
              (start.step call).follower.ledger = ⟨start.store.events⟩ := by
            cases call with
            | write | rows => exact .inl rfl
            | pass isLeader faults => exact ledger_pass (follows.1 _ _ rfl) isLeader faults
          rcases one with stayed | taken
          · exact .inl (kept.trans stayed)
          · refine .inr ⟨start, List.mem_cons_self, ?_⟩
            rw [List.foldl_cons, kept, taken]
        · exact .inr ⟨earlier, List.mem_cons_of_mem _ member, same⟩
  rcases general calls start follows with kept | served
  · exact ⟨start, Run.start_mem_states start calls, by rw [kept]; exact inSync⟩
  · exact served

/-- A numbered table of which the follower holds the beginning. -/
def Grown (cluster : FeedCluster kinds) : Prop :=
  Ledger.Numbered ⟨cluster.store.events⟩ ∧
    cluster.follower.ledger.events <+: cluster.store.events

omit [RecordParser] in
theorem Grown.followsOn {cluster : FeedCluster kinds} (grown : cluster.Grown) :
    cluster.FollowsOn := by
  obtain ⟨numbered, rest, whole⟩ := grown
  have held : ∀ event ∈ cluster.follower.ledger.events,
      event.seq < cluster.follower.ledger.events.length := by
    intro event member
    obtain ⟨index, found⟩ := List.mem_iff_getElem?.mp member
    have inside := (List.getElem?_eq_some_iff.mp found).1
    have position := numbered index event (by
      rw [← whole, List.getElem?_append_left inside]
      exact found)
    omega
  have beyond : ∀ event ∈ rest, cluster.follower.ledger.events.length ≤ event.seq := by
    intro event member
    obtain ⟨index, found⟩ := List.mem_iff_getElem?.mp member
    have position := numbered (cluster.follower.ledger.events.length + index) event (by
      rw [← whole, List.getElem?_append_right (Nat.le_add_right _ _), Nat.add_sub_cancel_left]
      exact found)
    omega
  have tailIs : cluster.tail = rest := by
    rw [tail, ReplicaState.feedTail, ← whole, eventsSince, List.filter_append]
    have none : cluster.follower.ledger.events.filter (fun event =>
        ((cluster.follower.ledger.events.length : Int) - 1 < event.seq)) = [] := by
      rw [List.filter_eq_nil_iff]
      intro event member
      have below := held event member
      simp only [decide_eq_true_eq]
      omega
    rw [none, List.nil_append, List.filter_eq_self]
    intro event member
    have above := beyond event member
    simp only [decide_eq_true_eq]
    omega
  exact .inl (by rw [tailIs]; exact whole)

omit [Crates] [RecordParser] in
theorem insertEvent_of_numbered {events : List Event} (numbered : Ledger.Numbered ⟨events⟩)
    (event : Event) (next : event.seq = events.length) :
    insertEvent events event = events ++ [event] := by
  have below : ∀ row ∈ events, row.seq < event.seq := by
    intro row member
    obtain ⟨index, found⟩ := List.mem_iff_getElem?.mp member
    have inside := (List.getElem?_eq_some_iff.mp found).1
    rw [numbered index row found, next]
    exact inside
  have absent : events.any (fun row => row.seq = event.seq) = false := by
    rw [List.any_eq_false]
    intro row member
    have earlier := below row member
    simp only [decide_eq_true_eq]
    omega
  rw [insertEvent, absent, if_neg Bool.false_ne_true]
  clear numbered next absent
  induction events with
  | nil => rfl
  | cons row rest ih =>
      have earlier := below row List.mem_cons_self
      rw [List.orderedInsert_cons, if_neg (by omega), List.cons_append,
        ih fun other member => below other (List.mem_cons_of_mem row member)]

end Passes

end FeedCluster

section Runs

open scoped Reference

/-- A store with one settings update, and a follower that holds it. -/
def followedSettings : FeedCluster plainKinds where
  store := { alteredStore with aggregates.acts := ∅ }
  follower := { blankReplica with ledger := ⟨settingsLog ⟨1#128⟩ none⟩ }

/-- After the instance was started over, a pass of the follower finds nothing beyond
its length and goes on serving the chain that is gone. -/
theorem FeedCluster.not_inSync_startOver :
    ¬∀ (start : FeedCluster plainKinds) (calls : List (FeedCall plainKinds)), start.InSync →
      Run.Admissible step (fun cluster call => call = .pass false .none →
        (cluster.step call).InSync) start calls := by
  intro always
  have passes := always followedSettings
    [.write (.startOver "amelia" "r" recoveryInstant ⟨3#128⟩), .pass false .none] rfl
  rcases (inSync_pass_iff _).mp (passes.2.1 rfl) with whole | ⟨beyond, -⟩
  · have kinds : [settingsCall.kind] = [reinitializedEventKind] :=
      congrArg (List.map Event.kind) whole
    revert kinds
    decide
  · exact beyond rfl

end Runs

end Chancela
