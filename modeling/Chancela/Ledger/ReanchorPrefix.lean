import Chancela.Ledger.Reanchor

/-! # What a re-anchor leaves alone

The rebuild rewrites every event. On a log that was only ever appended to it writes
what stands there already (`Chancela.rebuild_appendSteps`), and so it does on the
events a broken log still shares with one (`Chancela.take_rebuild`). The disclosed
ranges therefore start behind every shared member of their chain.
-/

namespace Chancela

open HashChain Outcome

/-- One call of a run of appends. -/
inductive AppendStep where
  | append (call : AppendCall)
  | tryAppend (call : AppendCall)
deriving DecidableEq, Repr

section Prefix

variable [Crates]

namespace Ledger

/-- The ledger after one `append` or `try_append`, accepted or rejected. -/
def appendStep (ledger : Ledger) : AppendStep → Ledger
  | .append call => (ledger.append call).2
  | .tryAppend call => (ledger.tryAppend call).2

/-- The ledger after a sequence of `append` and `try_append` calls. -/
def appendSteps (ledger : Ledger) (steps : List AppendStep) : Ledger :=
  steps.foldl appendStep ledger

end Ledger

theorem extend_thread (events : List Event) (seq : Nat) (prevHash : Digest)
    (heads : ChainId → Tip Digest) (event : Event) :
    extend events (thread seq prevHash heads event) = extend events event := rfl

theorem rebuild_append (before rest : List Event) :
    rebuild (before ++ rest) = rest.foldl extend (rebuild before) := by
  rw [rebuild_eq_foldl, rebuild_eq_foldl, List.foldl_append]

theorem prefix_foldl_extend (events done : List Event) : done <+: events.foldl extend done := by
  induction events generalizing done with
  | nil => exact List.prefix_rfl
  | cons event rest ih => exact (List.prefix_append done _).trans (ih (extend done event))

theorem rebuild_extend {events : List Event} (standing : rebuild events = events) (event : Event) :
    rebuild (extend events event) = extend events event := by
  conv_lhs => rw [extend, rebuild_append, standing]
  exact extend_thread events _ _ _ event

theorem rebuild_of_prefix {before events : List Event} (beginning : before <+: events)
    (standing : rebuild events = events) : rebuild before = before := by
  obtain ⟨rest, split⟩ := beginning
  have rebuilt : rebuild before <+: events := by
    rw [← standing, ← split, rebuild_append]
    exact prefix_foldl_extend rest (rebuild before)
  have shorter : rebuild before <+: before :=
    List.prefix_of_prefix_length_le rebuilt ⟨rest, split⟩ (length_rebuild before).le
  exact shorter.eq_of_length (length_rebuild before)

/-- `try_append` leaves the ledger or appends to it. -/
theorem Ledger.tryAppend_eq (ledger : Ledger) (call : AppendCall) :
    (ledger.tryAppend call).2 = ledger ∨ (ledger.tryAppend call).2 = ledger.appendAt call := by
  unfold tryAppend
  split
  · exact .inl rfl
  · exact .inr rfl

theorem rebuild_appendStep {ledger : Ledger} (standing : rebuild ledger.events = ledger.events)
    (step : AppendStep) :
    rebuild (ledger.appendStep step).events = (ledger.appendStep step).events := by
  cases step with
  | append call => exact rebuild_extend standing call.content
  | tryAppend call =>
      unfold Ledger.appendStep
      obtain rejected | accepted := ledger.tryAppend_eq call
      · simp only [rejected, standing]
      · simp only [accepted, Ledger.events_appendAt, rebuild_extend standing]

theorem rebuild_appendSteps (steps : List AppendStep) :
    rebuild (Ledger.new.appendSteps steps).events = (Ledger.new.appendSteps steps).events := by
  have general : ∀ (steps : List AppendStep) (ledger : Ledger),
      rebuild ledger.events = ledger.events →
        rebuild (ledger.appendSteps steps).events = (ledger.appendSteps steps).events := by
    intro steps
    induction steps with
    | nil => exact fun _ standing => standing
    | cons step rest ih => exact fun ledger standing => ih _ (rebuild_appendStep standing step)
  exact general steps Ledger.new rfl

theorem take_rebuild {events standing : List Event} {k : Nat}
    (reproduced : rebuild standing = standing) (agrees : events.take k = standing.take k) :
    (rebuild events).take k = events.take k := by
  have beginning : rebuild (events.take k) = events.take k := by
    rw [agrees]
    exact rebuild_of_prefix (List.take_prefix k standing) reproduced
  have continued : events.take k <+: rebuild events := by
    conv_rhs => rw [← List.take_append_drop k events, rebuild_append, beginning]
    exact prefix_foldl_extend _ _
  have whole := List.prefix_iff_eq_take.mp continued
  rw [List.length_take] at whole
  conv_rhs => rw [whole]
  rw [← length_rebuild events, ← List.take_eq_take_min]

theorem Ledger.reanchor_ok {ledger after : Ledger} {actor reason : String} {at_ : OffsetDateTime}
    {id : Uuid} {record : ReanchorRecord}
    (succeeded : ledger.reanchor actor reason at_ id = (some (.ok record), after)) :
    (∃ newGlobalHead, record = ledger.reanchorRecord actor reason at_ newGlobalHead) ∧
      (∃ disclosed, after.events = rebuild ledger.events ++ [disclosed]) ∧
      ∃ total, after.verify = .ok total := by
  unfold reanchor at succeeded
  split at succeeded
  · cases succeeded
  split at succeeded
  · cases succeeded
  dsimp only at succeeded
  split at succeeded
  · cases succeeded
  next newGlobalHead headIs =>
    split at succeeded
    · cases succeeded
    next json written =>
      split at succeeded
      · next total verified =>
          cases succeeded
          exact ⟨⟨newGlobalHead, rfl⟩, ⟨_, rfl⟩, ⟨total, verified⟩⟩
      · cases succeeded

omit [Crates] in
theorem seq_lt_of_linked {chain : ChainId} {events : List Event} {k index : Nat}
    (linked : Linked zeroDigest none (chainMembers chain events)) {early late : Event}
    (before : early ∈ events.take k) (found : events[index]? = some late) (behind : k ≤ index)
    {first second : ChainLink} (carried : first ∈ early.links) (carried' : second ∈ late.links)
    (named : first.chain = chain) (named' : second.chain = chain) : first.seq < second.seq := by
  have after : late ∈ events.drop k := by
    apply List.mem_of_getElem? (i := index - k)
    rw [List.getElem?_drop, Nat.add_sub_cancel' behind]
    exact found
  have member : ∀ {event : Event} {link : ChainLink} {part : List Event}, event ∈ part →
      link ∈ event.links → link.chain = chain → link.member event ∈ chainMembers chain part := by
    intro event link part inside carried named
    apply List.mem_flatMap.mpr
    exact ⟨event, inside, List.mem_map_of_mem (List.mem_filter.mpr ⟨carried, by simpa using named⟩)⟩
  have ordered := linked.pairwise_seq
  rw [← List.take_append_drop k events, chainMembers_append, List.pairwise_append] at ordered
  exact ordered.2.2 _ (member before carried named) _ (member after carried' named')

theorem Ledger.seq_getElem_of_verify {ledger : Ledger} {total index : Nat}
    (verified : ledger.verify = .ok total) (inside : index < ledger.events.length) :
    ledger.events[index].seq = index := by
  have linked := (verify_eq_ok_iff.mp verified).2.1.2
  have bound : index < (spineMembers ledger.events).length := by
    rw [spineMembers, List.length_map]
    exact inside
  have position := linked.seq_getElem bound
  simpa only [spineMembers, List.getElem_map, Event.spineMember] using position

/-- **A re-anchor keeps what was honest.** On a log that still begins as a ledger built
by appends does, a re-anchor that succeeds leaves these events as they are and
discloses no range that covers one of them. -/
theorem Ledger.reanchor_keeps_agreement (steps : List AppendStep) (ledger after : Ledger) (k : Nat)
    (inside : k ≤ ledger.events.length)
    (agrees : ledger.events.take k = (new.appendSteps steps).events.take k)
    (actor reason : String) (at_ : OffsetDateTime) (id : Uuid) (record : ReanchorRecord)
    (succeeded : ledger.reanchor actor reason at_ id = (some (.ok record), after)) :
    after.events.take k = (new.appendSteps steps).events.take k ∧
      ∀ segment ∈ record.affected, ∀ event ∈ (new.appendSteps steps).events.take k,
        ∀ link ∈ event.links, link.chain = segment.chain →
          ¬(segment.fromChainSeq ≤ link.seq ∧ link.seq ≤ segment.toChainSeq) := by
  obtain ⟨⟨newGlobalHead, rfl⟩, ⟨disclosed, appended⟩, ⟨total, verified⟩⟩ := reanchor_ok succeeded
  have kept : (rebuild ledger.events).take k = ledger.events.take k :=
    take_rebuild (rebuild_appendSteps steps) agrees
  have long : k ≤ (rebuild ledger.events).length := by rw [length_rebuild]; exact inside
  have shared : after.events.take k = (new.appendSteps steps).events.take k := by
    rw [appended, List.take_append_of_le_length long, kept, agrees]
  refine ⟨shared, ?_⟩
  intro segment affected event member link carried named covered
  have least := ((mem_affectedSegments_iff (length_rebuild ledger.events)).mp affected).1
  rw [← changedSeqs_append (length_rebuild ledger.events) [disclosed], ← appended] at least
  obtain ⟨index, old, new, present, found, changed, first, carriedFirst, namedFirst, position⟩ :=
    least.1
  -- The changed member stands behind the shared events, whose hashes did not move.
  have behind : k ≤ index := by
    by_contra early
    have same : (after.events.take k)[index]? = (ledger.events.take k)[index]? := by
      rw [shared, agrees]
    rw [List.getElem?_take_of_lt (not_le.mp early), List.getElem?_take_of_lt (not_le.mp early),
      present, found] at same
    exact changed (congrArg Event.hash (Option.some.inj same)).symm
  have linked := (verify_eq_ok_iff.mp verified).2.2 segment.chain
  rw [← shared] at member
  have below := seq_lt_of_linked linked member found behind carried carriedFirst named namedFirst
  omega

end Prefix

section Runs

open scoped Reference

/-- Two appended events, the second with its position altered. -/
def misnumberedTail : Ledger :=
  ⟨[Ledger.new.appendedEvent settingsCall,
    { (Ledger.new.appendAt settingsCall).appendedEvent settingsCall with seq := 7 }]⟩

/-- The repair of an altered second event keeps the first. -/
theorem Ledger.reanchor_keeps_agreement_misnumberedTail :
    ∃ record after,
      misnumberedTail.reanchor "amelia" "restore" recoveryInstant ⟨3#128⟩ =
        (some (.ok record), after) ∧
      after.events.take 1 = [Ledger.new.appendedEvent settingsCall] := by
  have broken : ∀ total, misnumberedTail.verify ≠ .ok total := by
    intro total verified
    have position := seq_getElem_of_verify verified Nat.one_lt_two
    have altered : 7 = 1 := position
    omega
  have respected : GenesisKindsRespected misnumberedTail.events := by
    intro chain first found
    have settings : ∀ event ∈ misnumberedTail.events,
        event.scope = "settings" ∧ event.kind = "settings.updated" := by
      intro event member
      obtain rfl | last := List.mem_cons.mp member
      · exact ⟨rfl, rfl⟩
      · rw [List.mem_singleton.mp last]
        exact ⟨rfl, rfl⟩
    obtain ⟨scope, kind⟩ := settings first (List.mem_of_find?_eq_some found)
    have only : memberships "settings" "settings.updated" = [.application] := by decide +kernel
    have joined := List.find?_some found
    have named : chain ∈ memberships first.scope first.kind := of_decide_eq_true joined
    rw [scope, kind, only, List.mem_singleton] at named
    rw [named]
    rfl
  obtain ⟨newGlobalHead, headIs⟩ := exists_head_rebuild broken
  obtain ⟨json, written⟩ := toText_ne_none
    (misnumberedTail.reanchorRecord "amelia" "restore" recoveryInstant newGlobalHead) rfl
  have call := reanchor_of_respected ⟨3#128⟩ (by decide) broken headIs written respected
  refine ⟨_, _, call, ?_⟩
  exact (reanchor_keeps_agreement [.append settingsCall] misnumberedTail _ 1 (Nat.le_succ 1) rfl
    "amelia" "restore" recoveryInstant ⟨3#128⟩ _ call).1

end Runs

end Chancela
