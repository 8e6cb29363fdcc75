import Chancela.Crates.Reference
import Chancela.Ledger.Report

/-! # Agreement of the verifiers

The rich report reads the first link of every event for a chain, and reads links
that name the global chain not at all; `verify` reads every link. They agree on a
log they both reject and on a log whose events name each chain once and whose links
naming the global chain are linked, and on no other.

A chain's verdict depends on its members alone, so an exported bundle is verified
as the ledger verifies it. The bundle verifier has no walk of its own for the
global chain: it passes over every event without a link naming it, and those are
all the events the ledger mints.
-/

namespace Chancela

open HashChain Outcome

namespace Ledger

/-- No event is linked to itself: within its preimage no link carries the hash of
that preimage. A failure is a fixed point of SHA-256. -/
def NoSelfLink [Crates] (events : List Event) : Prop :=
  ∀ event ∈ events, ∀ link ∈ event.links, link.prevHash ≠ sha256 (event.preimage event.prevHash)

def NamesChainsOnce (events : List Event) : Prop :=
  ∀ event ∈ events, (event.links.map (·.chain)).Nodup

instance (events : List Event) : Decidable (NamesChainsOnce events) :=
  inferInstanceAs (Decidable (∀ event ∈ events, _))

/-- `Ledger::try_from_events`: the log as given, with its verification outcome. -/
def tryFromEvents [Crates] (events : List Event) : Ledger × Except LedgerError Nat :=
  (⟨events⟩, verify ⟨events⟩)

section Reports

variable [Crates] [RecordParser]

omit [RecordParser] in
theorem namesChainsOnce_of_verify {ledger : Ledger} {total : Nat}
    (fresh : NoSelfLink ledger.events) (accepted : ledger.verify = .ok total) :
    NamesChainsOnce ledger.events := by
  obtain ⟨-, spine, linked⟩ := verify_eq_ok_iff.mp accepted
  intro event member
  rw [List.nodup_iff_count_le_one]
  intro chain
  have counted : (event.links.map (·.chain)).count chain = (event.membersIn chain).length := by
    rw [List.count_eq_countP, List.countP_map, List.countP_eq_length_filter, Event.membersIn,
      List.length_map]
    rfl
  rw [counted]
  by_contra several
  cases members : event.membersIn chain with
  | nil => simp [members] at several
  | cons first rest =>
      cases rest with
      | nil => simp [members] at several
      | cons second rest =>
          obtain ⟨before, after, split⟩ := List.append_of_mem member
          have run := linked chain
          have parts : chainMembers chain ledger.events = chainMembers chain before ++
              (first :: second :: (rest ++ chainMembers chain after)) := by
            rw [split, chainMembers_append]
            simp [chainMembers, members]
          rw [parts, linked_append] at run
          have backward : second.prev = first.hash := run.2.2.1.2
          have inside : ∀ candidate ∈ event.membersIn chain,
              ∃ link ∈ event.links, link.member event = candidate := by
            intro candidate inside
            obtain ⟨link, carried, same⟩ := List.mem_map.mp inside
            exact ⟨link, (List.mem_filter.mp carried).1, same⟩
          obtain ⟨link, -, rfl⟩ := inside first (by rw [members]; simp)
          obtain ⟨link', carried, rfl⟩ := inside second (by rw [members]; simp)
          exact fresh event member link' carried (backward.trans (spine.1 event member).symm)

theorem verify_ok_iff_healthy {ledger : Ledger} (once : NamesChainsOnce ledger.events) :
    (∃ total, ledger.verify = .ok total) ↔
      ledger.integrityReport.healthy = true ∧
        Linked zeroDigest none (firstMembers .global ledger.events) := by
  simp only [verify_eq_ok_iff, exists_eq_left, healthy_iff,
    chainMembers_eq_firstMembers once, and_assoc]
  refine and_congr_right fun _ => ⟨fun linked => ⟨fun chain _ => linked chain, linked _⟩, ?_⟩
  rintro ⟨others, global⟩ chain
  by_cases named : chain = .global
  · rw [named]
    exact global
  · exact others chain named

/-- What `verify` accepts, the report shows healthy. -/
theorem healthy_of_verify {ledger : Ledger} (fresh : NoSelfLink ledger.events)
    (accepted : ∃ total, ledger.verify = .ok total) :
    ledger.integrityReport.healthy = true := by
  obtain ⟨total, verified⟩ := accepted
  have once := namesChainsOnce_of_verify fresh verified
  exact ((verify_ok_iff_healthy once).mp ⟨total, verified⟩).1

/-- The report and `verify` give the same answer exactly when the spine is broken, or the
first links of some other chain are, or no event names a chain twice and the links naming
the global chain form a linked run. -/
theorem healthy_iff_accepted_iff {events : List Event} (fresh : NoSelfLink events) :
    ((integrityReport ⟨events⟩).healthy = true ↔ ∃ total, verify ⟨events⟩ = .ok total) ↔
      ¬SpineSound events ∨
        (∃ chain, chain ≠ .global ∧ ¬Linked zeroDigest none (firstMembers chain events)) ∨
          (NamesChainsOnce events ∧ Linked zeroDigest none (firstMembers .global events)) := by
  have health := @healthy_iff _ _ ⟨events⟩
  constructor
  · intro agree
    by_cases healthy : (integrityReport ⟨events⟩).healthy = true
    · obtain ⟨total, verified⟩ := agree.mp healthy
      have once := @namesChainsOnce_of_verify _ ⟨events⟩ _ fresh verified
      exact .inr (.inr ⟨once, ((verify_ok_iff_healthy once).mp ⟨total, verified⟩).2⟩)
    · rw [health, not_and_or] at healthy
      rcases healthy with broken | broken
      · exact .inl broken
      · simp only [not_forall] at broken
        obtain ⟨chain, named, unlinked⟩ := broken
        exact .inr (.inl ⟨chain, named, unlinked⟩)
  · intro condition
    refine ⟨fun healthy => ?_, @healthy_of_verify _ _ ⟨events⟩ fresh⟩
    obtain ⟨spine, linked⟩ := health.mp healthy
    rcases condition with broken | ⟨chain, named, broken⟩ | ⟨once, global⟩
    · exact (broken spine).elim
    · exact (broken (linked chain named)).elim
    · exact (verify_ok_iff_healthy once).mpr ⟨healthy, global⟩

/-- **Where the report and `verify` agree.** Over any adopted log they give the same
answer exactly when the spine is broken, or the first links of some other chain
are, or no event names a chain twice and the links naming the global chain form a
linked run. -/
theorem healthy_iff_verify_ok_iff (events : List Event) (fresh : NoSelfLink events) :
    ((tryFromEvents events).1.integrityReport.healthy = true ↔
        ∃ total, (tryFromEvents events).1.verify = .ok total) ↔
      ¬SpineSound events ∨
        (∃ chain, chain ≠ .global ∧ ¬Linked zeroDigest none (firstMembers chain events)) ∨
          (NamesChainsOnce events ∧ Linked zeroDigest none (firstMembers .global events)) :=
  healthy_iff_accepted_iff fresh

end Reports

section Portability

variable [Crates]

/-- The events that join the chain, in order: all that its verdict reads. -/
def SameMembers (chain : ChainId) (first second : List Event) : Prop :=
  first.filter (·.joins chain) = second.filter (·.joins chain)

/-- Every event's `prev_hash` is the hash of the event before it, the first one's
the genesis link. -/
def BackwardLinked : Digest → List Event → Prop
  | _, [] => True
  | previous, event :: rest => event.prevHash = previous ∧ BackwardLinked event.hash rest

/-- What a bundle of the log promises: each chain verifies in isolation as it does
in the ledger and regardless of the events outside it, and a verdict over the
global chain counts and checks every event. -/
def Portable (events : List Event) : Prop :=
  (∀ chain, chain ≠ .global →
      (∀ total, verifyChain ⟨events⟩ chain = .ok total ↔
        verifyBundleChain (eventsInChain ⟨events⟩ chain) chain = .ok total) ∧
      ∀ others, SameMembers chain events others →
        verifyChain ⟨others⟩ chain = verifyChain ⟨events⟩ chain ∧
          verifyBundleChain others chain = verifyBundleChain events chain) ∧
    ∀ total, verifyBundleChain events .global = .ok total →
      total = events.length ∧ (∀ event ∈ events, event.SelfHashed) ∧
        BackwardLinked zeroDigest events

theorem verifyChain_congr {chain : ChainId} (named : chain ≠ .global) {first second : List Event}
    (same : SameMembers chain first second) :
    verifyChain ⟨second⟩ chain = verifyChain ⟨first⟩ chain := by
  have notGlobal := ChainId.isGlobal_eq_false named
  rw [verifyChain, verifyChain, notGlobal, if_neg Bool.false_ne_true, if_neg Bool.false_ne_true,
    ← walkChain_filter, ← same, walkChain_filter]

theorem verifyBundleChain_congr {chain : ChainId} {first second : List Event}
    (same : SameMembers chain first second) :
    verifyBundleChain second chain = verifyBundleChain first chain := by
  rw [verifyBundleChain, verifyBundleChain, ← walkChain_filter, ← same,
    walkChain_filter]

theorem verifyChain_eq_ok_iff_bundle {chain : ChainId} (named : chain ≠ .global)
    (events : List Event) (total : Nat) :
    verifyChain ⟨events⟩ chain = .ok total ↔
      verifyBundleChain (eventsInChain ⟨events⟩ chain) chain = .ok total := by
  have notGlobal := ChainId.isGlobal_eq_false named
  have members : SameMembers chain events (eventsInChain ⟨events⟩ chain) := by
    rw [SameMembers, eventsInChain, notGlobal, if_neg Bool.false_ne_true, List.filter_filter]
    simp only [Bool.and_self]
  rw [verifyBundleChain_congr members, verifyBundleChain_eq_ok_iff, verifyChain_eq_ok_iff named,
    chainLength, notGlobal, if_neg Bool.false_ne_true]

theorem isolated (events : List Event) (chain : ChainId) (named : chain ≠ .global) :
    (∀ total, verifyChain ⟨events⟩ chain = .ok total ↔
        verifyBundleChain (eventsInChain ⟨events⟩ chain) chain = .ok total) ∧
      ∀ others, SameMembers chain events others →
        verifyChain ⟨others⟩ chain = verifyChain ⟨events⟩ chain ∧
          verifyBundleChain others chain = verifyBundleChain events chain :=
  ⟨verifyChain_eq_ok_iff_bundle named events,
    fun _ same => ⟨verifyChain_congr named same, verifyBundleChain_congr same⟩⟩

theorem portable_iff_of_chainSound {events : List Event} (sound : ChainSound .global events) :
    Portable events ↔
      (∀ event ∈ events, event.joins .global = true) ∧ BackwardLinked zeroDigest events := by
  rw [Portable, and_iff_right (isolated events)]
  simp only [verifyBundleChain_eq_ok_iff]
  constructor
  · intro counted
    obtain ⟨all, -, backward⟩ := counted _ ⟨rfl, sound⟩
    exact ⟨List.length_filter_eq_length_iff.mp all, backward⟩
  · rintro ⟨joined, backward⟩ total ⟨rfl, -⟩
    exact ⟨List.length_filter_eq_length_iff.mpr joined,
      fun event member => sound.1 event member (joined event member), backward⟩

/-- **When bundles of a log keep their promise**: exactly when the links naming the
global chain are unsound, so that its verdict is an error, or every event carries
such a link and the backward links of the spine match. -/
theorem portable_iff (events : List Event) :
    Portable events ↔
      ¬ChainSound .global events ∨
        ((∀ event ∈ events, event.joins .global = true) ∧ BackwardLinked zeroDigest events) := by
  by_cases sound : ChainSound .global events
  · rw [or_iff_right (not_not_intro sound)]
    exact portable_iff_of_chainSound sound
  · refine ⟨fun _ => .inl sound, fun _ => ⟨isolated events, fun total accepted => ?_⟩⟩
    exact (sound (verifyBundleChain_eq_ok_iff.mp accepted).2).elim

theorem portable_iff_eq_nil {events : List Event}
    (minted : ∀ event ∈ events, event.joins .global = false) : Portable events ↔ events = [] := by
  have sound : ChainSound .global events := by
    refine ⟨fun event member joined => ?_, firstMembers_linked_of_absent minted⟩
    rw [minted event member] at joined
    cases joined
  rw [portable_iff_of_chainSound sound]
  constructor
  · rintro ⟨joined, -⟩
    cases events with
    | nil => rfl
    | cons event rest =>
        have here := joined event List.mem_cons_self
        rw [minted event List.mem_cons_self] at here
        cases here
  · rintro rfl
    exact ⟨fun _ member => (by cases member), trivial⟩

end Portability

end Ledger

section Runs

open scoped Reference

/-- An event of the given links, hashed as the first event of a log. -/
def genesisEvent (links : List ChainLink) : Event where
  id := ⟨1#128⟩
  seq := 0
  actor := "amelia"
  justification := none
  timestamp := ⟨2026, 1, 2, 3, 4, 5, 0, 0⟩
  scope := "settings"
  kind := "settings.updated"
  payloadDigest := zeroDigest
  prevHash := zeroDigest
  links := links
  hash := computeHash zeroDigest 0 "amelia" "settings" "settings.updated"
    ⟨2026, 1, 2, 3, 4, 5, 0, 0⟩ zeroDigest links

/-- A log of one event that joins the application chain. -/
def singleLink : List Event := [genesisEvent [⟨.application, 0, zeroDigest⟩]]

/-- A log of one event that carries the same link twice. -/
def repeatedLink : List Event :=
  [genesisEvent [⟨.application, 0, zeroDigest⟩, ⟨.application, 0, zeroDigest⟩]]

/-- A log of one event whose actor was altered after it was hashed. -/
def alteredActor : List Event := singleLink.map fun event => { event with actor := "mallory" }

theorem Ledger.report_repeatedLink :
    (integrityReport ⟨repeatedLink⟩).healthy = true := by
  decide +kernel

theorem Ledger.verify_repeatedLink :
    verify ⟨repeatedLink⟩ = .error (.chainSequenceBroken .application 1 0) := by
  decide +kernel

/-- The report of a log with a repeated link is healthy, and `verify` rejects it. -/
theorem Ledger.healthy_repeatedLink :
    ¬((tryFromEvents repeatedLink).1.integrityReport.healthy = true ↔
      ∃ total, (tryFromEvents repeatedLink).1.verify = .ok total) := by
  rintro ⟨accepted, -⟩
  obtain ⟨total, verified⟩ := accepted report_repeatedLink
  cases verify_repeatedLink.symm.trans verified

theorem Ledger.noSelfLink_singleLink : NoSelfLink singleLink := by
  unfold NoSelfLink
  decide +kernel

/-- Both verifiers accept an event that is linked once. -/
theorem Ledger.healthy_iff_verify_ok_singleLink :
    NoSelfLink singleLink ∧
      ((tryFromEvents singleLink).1.integrityReport.healthy = true ↔
        ∃ total, (tryFromEvents singleLink).1.verify = .ok total) := by
  refine ⟨noSelfLink_singleLink,
    (healthy_iff_verify_ok_iff singleLink noSelfLink_singleLink).mpr (.inr (.inr ⟨?_, ?_⟩))⟩
  · decide
  · exact linked_nil _ _

/-- The bundle verifier accepts an altered log under the global chain: it counts no
event and checks none. -/
theorem Ledger.verifyBundleChain_alteredActor :
    verifyBundleChain alteredActor .global = .ok 0 ∧ ¬Portable alteredActor := by
  refine ⟨rfl, ?_⟩
  rw [portable_iff_eq_nil (by decide)]
  exact List.cons_ne_nil _ _

end Runs

end Chancela
