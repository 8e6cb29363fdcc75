import Chancela.Foundation.Outcome
import Chancela.Ledger.Event

/-! # The frozen verifiers

`verify` checks the global spine and every link of every event in one pass;
`verifyChain` checks one chain, reading the first link each event carries for it.
Each verifier accepts exactly the event lists whose runs are linked and whose
members hash to themselves (`Chancela.Ledger.verify_eq_ok_iff`,
`Chancela.Ledger.verifyChain_eq_ok_iff`).
-/

namespace Chancela

open HashChain Outcome

/-- How a chain fails verification. -/
inductive LedgerError where
  | badGenesis
  | sequenceBroken (index expected found : Nat)
  | linkBroken (seq : Nat)
  | hashMismatch (seq : Nat)
  | chainSequenceBroken (chain : ChainId) (expected found : Nat)
  | chainLinkBroken (chain : ChainId) (seq : Nat)
  | chainGenesisWrong (chain : ChainId) (expected found : String)
deriving DecidableEq, Repr

/-- `Display` of a verification error. -/
def LedgerError.display [Crates] : LedgerError → String
  | .badGenesis => "genesis event (seq 0) must have an all-zero prev_hash"
  | .sequenceBroken index expected found =>
      s!"sequence broken at index {index}: expected seq {expected}, found {found}"
  | .linkBroken seq =>
      s!"chain link broken at seq {seq}: prev_hash does not match preceding event"
  | .hashMismatch seq => s!"event hash mismatch at seq {seq}: contents were altered after sealing"
  | .chainSequenceBroken chain expected found =>
      s!"chain {chain.canonical} sequence broken: " ++
        s!"expected chain-seq {expected}, found {found}"
  | .chainLinkBroken chain seq =>
      s!"chain {chain.canonical} link broken at chain-seq {seq}: " ++
        "prev_hash does not match preceding member"
  | .chainGenesisWrong chain expected found =>
      s!"chain {chain.canonical} genesis kind wrong: " ++
        s!"expected {debugStr expected}, found {debugStr found}"

/-- `Ledger`: the event log, in global order. -/
structure Ledger where
  events : List Event
deriving DecidableEq, Repr

def checkChainGenesis (chain : ChainId) (link : ChainLink) (eventKind : String) :
    Except LedgerError Unit :=
  if link.seq ≠ 0 then .error (.chainSequenceBroken chain 0 link.seq)
  else if link.prevHash ≠ zeroDigest then .error (.chainLinkBroken chain link.seq)
  else match chain.expectedGenesisKind with
    | some expected =>
        if eventKind ≠ expected then .error (.chainGenesisWrong chain expected eventKind)
        else .ok ()
    | none => .ok ()

/-- The check of one link against the last member of its chain. -/
def checkLink (chain : ChainId) (state : Tip Digest) (event : Event) (link : ChainLink) :
    Except LedgerError Unit :=
  match state with
  | none => checkChainGenesis chain link event.kind
  | some (lastSeq, lastHash) =>
      if link.seq ≠ lastSeq + 1 then
        .error (.chainSequenceBroken chain (lastSeq + 1) link.seq)
      else if link.prevHash ≠ lastHash then .error (.chainLinkBroken chain link.seq)
      else .ok ()

/-- One walk over the members of a chain, shared by the single-chain verifiers:
events without a link for the chain are passed over, and `check` sees the first
link of every other one. -/
def walkChain {ε : Type} (check : Tip Digest → Event → ChainLink → Except ε Unit)
    (chain : ChainId) : Tip Digest → Nat → List Event → Except ε Nat
  | _, count, [] => .ok count
  | state, count, event :: rest =>
      match event.linkIn chain with
      | none => walkChain check chain state count rest
      | some link => do
          check state event link
          walkChain check chain (some (link.seq, event.hash)) (count + 1) rest

/-- One walk over the global spine, shared by the two spine verifiers. -/
def walkSpine {ε : Type} (check : Nat → Digest → Event → Except ε Unit) :
    Nat → Digest → List Event → Except ε Unit
  | _, _, [] => .ok ()
  | index, globalPrev, event :: rest => do
      check index globalPrev event
      walkSpine check (index + 1) event.hash rest

/-- Where the spine stands before the event at `index`. -/
def spineTip (index : Nat) (globalPrev : Digest) : Tip Digest :=
  match index with
  | 0 => none
  | last + 1 => some (last, globalPrev)

/-- The links of one event, each checked against the state of its chain. -/
def verifyLinks (event : Event) :
    (ChainId → Tip Digest) → List ChainLink → Except LedgerError (ChainId → Tip Digest)
  | chainState, [] => .ok chainState
  | chainState, link :: rest => do
      checkLink link.chain (chainState link.chain) event link
      verifyLinks event (Function.update chainState link.chain (some (link.seq, event.hash))) rest

section Verifiers

variable [Crates]

/-- The spine checks of one event, in the order `verify` makes them. -/
def checkSpine (index : Nat) (globalPrev : Digest) (event : Event) : Except LedgerError Unit :=
  if event.seq ≠ index then .error (.sequenceBroken index index event.seq)
  else if index = 0 ∧ event.prevHash ≠ zeroDigest then .error .badGenesis
  else if event.prevHash ≠ globalPrev then .error (.linkBroken event.seq)
  else if event.computeHash event.prevHash ≠ event.hash then .error (.hashMismatch event.seq)
  else .ok ()

/-- The checks `verify_chain` makes of one member. -/
def checkMember (chain : ChainId) (state : Tip Digest) (event : Event) (link : ChainLink) :
    Except LedgerError Unit :=
  if event.computeHash event.prevHash ≠ event.hash then .error (.hashMismatch event.seq)
  else checkLink chain state event link

/-- The loop of `Ledger::verify`. -/
def verifyEvents :
    Nat → Digest → (ChainId → Tip Digest) → List Event → Except LedgerError Unit
  | _, _, _, [] => .ok ()
  | index, globalPrev, chainState, event :: rest => do
      checkSpine index globalPrev event
      let chainState ← verifyLinks event chainState event.links
      verifyEvents (index + 1) event.hash chainState rest

namespace Ledger

def verify (ledger : Ledger) : Except LedgerError Nat := do
  verifyEvents 0 zeroDigest (fun _ => none) ledger.events
  return ledger.events.length

def verifyGlobal (ledger : Ledger) : Except LedgerError Nat := do
  walkSpine checkSpine 0 zeroDigest ledger.events
  return ledger.events.length

def verifyChain (ledger : Ledger) (chain : ChainId) : Except LedgerError Nat :=
  if chain.isGlobal then ledger.verifyGlobal
  else walkChain (checkMember chain) chain none 0 ledger.events

end Ledger

end Verifiers

namespace Ledger

def eventsInChain (ledger : Ledger) (chain : ChainId) : List Event :=
  if chain.isGlobal then ledger.events
  else ledger.events.filter (·.joins chain)

def chainLength (ledger : Ledger) (chain : ChainId) : Nat :=
  if chain.isGlobal then ledger.events.length
  else (ledger.events.filter (·.joins chain)).length

def head (ledger : Ledger) : Option Digest := ledger.events.getLast?.map (·.hash)

end Ledger

theorem checkChainGenesis_eq_ok_iff {event : Event} {link : ChainLink} :
    checkChainGenesis link.chain link event.kind = .ok () ↔
      Extends zeroDigest none (link.member event) := by
  rw [checkChainGenesis, ite_error_eq_ok_iff, ite_error_eq_ok_iff, extends_none]
  simp only [ne_eq, not_not, ChainLink.member, ChainId.founds]
  cases link.chain.expectedGenesisKind with
  | none => simp
  | some expected => simp

theorem checkLink_eq_ok_iff {state : Tip Digest} {event : Event} {link : ChainLink} :
    checkLink link.chain state event link = .ok () ↔
      Extends zeroDigest state (link.member event) := by
  cases state with
  | none => exact checkChainGenesis_eq_ok_iff
  | some last =>
      rw [checkLink, ite_error_eq_ok_iff, ite_error_eq_ok_iff, ne_eq, not_not, ne_eq, not_not]
      exact ⟨fun passed => ⟨passed.1, passed.2.1⟩, fun extension => ⟨extension.1, extension.2, rfl⟩⟩

/-- The links one event carries for a chain, as members of it. -/
def linkMembers (event : Event) (chain : ChainId) (links : List ChainLink) :
    List (Member Digest) :=
  (links.filter (·.chain = chain)).map (·.member event)

theorem verifyLinks_eq_ok_iff {event : Event} {chainState after : ChainId → Tip Digest}
    {links : List ChainLink} :
    verifyLinks event chainState links = .ok after ↔
      (∀ chain, Linked zeroDigest (chainState chain) (linkMembers event chain links)) ∧
        after = fun chain => advance (chainState chain) (linkMembers event chain links) := by
  induction links generalizing chainState with
  | nil =>
      simp only [verifyLinks, Except.ok.injEq, linkMembers, List.filter_nil, List.map_nil,
        linked_nil, implies_true, advance_nil, true_and]
      exact eq_comm
  | cons link rest ih =>
      -- Only the chain of the first link sees it; the others read the rest from where they stood.
      have step : ∀ chain, linkMembers event chain (link :: rest) =
          if link.chain = chain then link.member event :: linkMembers event chain rest
          else linkMembers event chain rest := by
        intro chain
        by_cases named : link.chain = chain <;> simp [linkMembers, named]
      have stands : ∀ chain, Function.update chainState link.chain
          (some (link.seq, event.hash)) chain =
            if link.chain = chain then (link.member event).tip else chainState chain := by
        intro chain
        by_cases named : link.chain = chain
        · subst named
          simp [Member.tip, ChainLink.member]
        · simp [Function.update_of_ne (Ne.symm named), named]
      simp only [verifyLinks, check_bind_eq_ok_iff, checkLink_eq_ok_iff, ih,
        stands]
      have tips : ∀ chain,
          advance (if link.chain = chain then (link.member event).tip else chainState chain)
              (linkMembers event chain rest) =
            advance (chainState chain) (linkMembers event chain (link :: rest)) := by
        intro chain
        rw [step chain]
        split <;> rfl
      simp only [tips, ← and_assoc, and_congr_left_iff]
      intro _
      constructor
      · rintro ⟨continues, linked⟩ chain
        have later := linked chain
        rw [step chain]
        split at later
        · next named =>
            subst named
            rw [if_pos rfl]
            exact ⟨continues, later⟩
        · next named => rwa [if_neg named]
      · intro linked
        refine ⟨?_, fun chain => ?_⟩
        · have first := linked link.chain
          rw [step, if_pos rfl] at first
          exact first.1
        · have all := linked chain
          rw [step chain] at all
          split
          · next named =>
              rw [if_pos named] at all
              exact all.2
          · next named => rwa [if_neg named] at all

theorem seq_of_extends_spineTip {index : Nat} {globalPrev : Digest} {member : Member Digest}
    (extension : Extends zeroDigest (spineTip index globalPrev) member) : member.seq = index := by
  cases index with
  | zero => exact extension.1
  | succ last => exact extension.1

theorem walkChain_filter {ε : Type} (check : Tip Digest → Event → ChainLink → Except ε Unit)
    (chain : ChainId) (state : Tip Digest) (count : Nat) (events : List Event) :
    walkChain check chain state count (events.filter (·.joins chain)) =
      walkChain check chain state count events := by
  induction events generalizing state count with
  | nil => rfl
  | cons event rest ih =>
      have membership := event.isSome_linkIn chain
      cases first : event.linkIn chain with
      | none =>
          rw [first, Option.isSome_none] at membership
          rw [List.filter_cons_of_neg (by simp [← membership]), ih]
          simp only [walkChain, first]
      | some link =>
          rw [first, Option.isSome_some] at membership
          rw [List.filter_cons_of_pos (by simp [← membership])]
          simp only [walkChain, first, ih]

section Specifications

variable [Crates]

/-- A check that accepts exactly the members that hash to themselves and continue
the chain. -/
def ChecksMembers {ε : Type} (chain : ChainId)
    (check : Tip Digest → Event → ChainLink → Except ε Unit) : Prop :=
  ∀ state event link, link.chain = chain →
    (check state event link = .ok () ↔
      event.SelfHashed ∧ Extends zeroDigest state (link.member event))

/-- A check that accepts exactly the events that hash to themselves and continue
the spine. -/
def ChecksSpine {ε : Type} (check : Nat → Digest → Event → Except ε Unit) : Prop :=
  ∀ index globalPrev event, (index = 0 → globalPrev = zeroDigest) →
    (check index globalPrev event = .ok () ↔
      event.SelfHashed ∧ Extends zeroDigest (spineTip index globalPrev) event.spineMember)

theorem checkMember_checks (chain : ChainId) : ChecksMembers chain (checkMember chain) := by
  intro state event link named
  subst named
  rw [checkMember, ite_error_eq_ok_iff, checkLink_eq_ok_iff, ne_eq, not_not]
  rfl

theorem checkSpine_checks : ChecksSpine checkSpine := by
  intro index globalPrev event start
  simp only [checkSpine, ite_error_eq_ok_iff, ne_eq, not_not, not_and, and_true]
  cases index with
  | zero =>
      rw [start rfl]
      simp only [spineTip, extends_none, Event.spineMember, Event.SelfHashed]
      tauto
  | succ last =>
      simp only [spineTip, extends_some, Event.spineMember, Event.SelfHashed]
      tauto

/-- **One walk over a chain.** It returns the number of members exactly when every
member hashes to itself and their first links form a linked run. -/
theorem walkChain_eq_ok_iff {ε : Type} {chain : ChainId}
    {check : Tip Digest → Event → ChainLink → Except ε Unit} (checks : ChecksMembers chain check)
    {state : Tip Digest} {count total : Nat} {events : List Event} :
    walkChain check chain state count events = .ok total ↔
      (∀ event ∈ events, event.joins chain = true → event.SelfHashed) ∧
        Linked zeroDigest state (firstMembers chain events) ∧
          total = count + (firstMembers chain events).length := by
  induction events generalizing state count with
  | nil =>
      simp only [walkChain, Except.ok.injEq, List.not_mem_nil, false_implies, implies_true,
        firstMembers, List.filterMap_nil, linked_nil, List.length_nil, Nat.add_zero, true_and]
      exact eq_comm
  | cons event rest ih =>
      have membership := event.isSome_linkIn chain
      cases first : event.linkIn chain with
      | none =>
          have absent : event.joins chain = false := by rw [← membership, first]; rfl
          have skipped : firstMembers chain (event :: rest) = firstMembers chain rest := by
            simp [firstMembers, Event.firstIn, first]
          simp [walkChain, first, ih, skipped, absent]
      | some link =>
          have present : event.joins chain = true := by rw [← membership, first]; rfl
          have taken : firstMembers chain (event :: rest) =
              link.member event :: firstMembers chain rest := by
            simp [firstMembers, Event.firstIn, first]
          have passes := checks state event link (Event.chain_of_linkIn first)
          have tip : some (link.seq, event.hash) = (link.member event).tip := rfl
          simp only [walkChain, first, check_bind_eq_ok_iff, passes, tip, ih,
            taken, linked_cons, List.forall_mem_cons, present, forall_const, List.length_cons]
          constructor
          · rintro ⟨⟨hashed, continues⟩, others, linked, counted⟩
            exact ⟨⟨hashed, others⟩, ⟨continues, linked⟩, by omega⟩
          · rintro ⟨⟨hashed, others⟩, ⟨continues, linked⟩, counted⟩
            exact ⟨⟨hashed, continues⟩, others, linked, by omega⟩

theorem walkSpine_eq_ok_iff {ε : Type} {check : Nat → Digest → Event → Except ε Unit}
    (checks : ChecksSpine check) {index : Nat} {globalPrev : Digest} {events : List Event}
    (start : index = 0 → globalPrev = zeroDigest) :
    walkSpine check index globalPrev events = .ok () ↔
      (∀ event ∈ events, event.SelfHashed) ∧
        Linked zeroDigest (spineTip index globalPrev) (spineMembers events) := by
  induction events generalizing index globalPrev with
  | nil => simp [walkSpine, spineMembers]
  | cons event rest ih =>
      have later := @ih (index + 1) event.hash (by simp)
      simp only [walkSpine, check_bind_eq_ok_iff,
        checks index globalPrev event start, later, spineMembers, List.map_cons, linked_cons,
        List.forall_mem_cons]
      have tips : Extends zeroDigest (spineTip index globalPrev) event.spineMember →
          event.spineMember.tip = spineTip (index + 1) event.hash := by
        intro continues
        have position : event.seq = index := seq_of_extends_spineTip continues
        simp only [Member.tip, Event.spineMember, spineTip, position]
      constructor
      · rintro ⟨⟨hashed, continues⟩, others, linked⟩
        exact ⟨⟨hashed, others⟩, continues, tips continues ▸ linked⟩
      · rintro ⟨⟨hashed, others⟩, continues, linked⟩
        exact ⟨⟨hashed, continues⟩, others, tips continues ▸ linked⟩

/-- The global spine is linked and every event hashes to itself. -/
def SpineSound (events : List Event) : Prop :=
  (∀ event ∈ events, event.SelfHashed) ∧ Linked zeroDigest none (spineMembers events)

/-- Every member of the chain hashes to itself and the first links form a linked
run. -/
def ChainSound (chain : ChainId) (events : List Event) : Prop :=
  (∀ event ∈ events, event.joins chain = true → event.SelfHashed) ∧
    Linked zeroDigest none (firstMembers chain events)

/-- The walk of `verify` from any position: it is a walk over the spine and, for
every chain, over all the links that name it. -/
theorem verifyEvents_eq_ok_iff {index : Nat} {globalPrev : Digest}
    {chainState : ChainId → Tip Digest} {events : List Event}
    (start : index = 0 → globalPrev = zeroDigest) :
    verifyEvents index globalPrev chainState events = .ok () ↔
      walkSpine checkSpine index globalPrev events = .ok () ∧
        ∀ chain, Linked zeroDigest (chainState chain) (chainMembers chain events) := by
  induction events generalizing index globalPrev chainState with
  | nil => simp [verifyEvents, walkSpine, chainMembers]
  | cons event rest ih =>
      have members : ∀ chain, chainMembers chain (event :: rest) =
          linkMembers event chain event.links ++ chainMembers chain rest := fun _ => rfl
      simp only [verifyEvents, walkSpine, check_bind_eq_ok_iff]
      simp only [bind_eq_ok_iff, verifyLinks_eq_ok_iff, members, linked_append]
      constructor
      · rintro ⟨spine, after, ⟨linked, rfl⟩, verified⟩
        obtain ⟨spines, chains⟩ := (ih (by simp)).mp verified
        exact ⟨⟨spine, spines⟩, fun chain => ⟨linked chain, chains chain⟩⟩
      · rintro ⟨⟨spine, spines⟩, chains⟩
        exact ⟨spine, _, ⟨fun chain => (chains chain).1, rfl⟩,
          (ih (by simp)).mpr ⟨spines, fun chain => (chains chain).2⟩⟩

namespace Ledger

/-- **`verify` accepts** exactly a sound spine over which the links naming each
chain form a linked run. -/
theorem verify_eq_ok_iff {ledger : Ledger} {total : Nat} :
    ledger.verify = .ok total ↔
      total = ledger.events.length ∧ SpineSound ledger.events ∧
        ∀ chain, Linked zeroDigest none (chainMembers chain ledger.events) := by
  have start : (0 : Nat) = 0 → zeroDigest = zeroDigest := fun _ => rfl
  simp only [verify, check_bind_eq_ok_iff, pure, Except.pure, Except.ok.injEq,
    verifyEvents_eq_ok_iff start, walkSpine_eq_ok_iff checkSpine_checks start]
  constructor
  · rintro ⟨⟨spine, chains⟩, rfl⟩
    exact ⟨rfl, spine, chains⟩
  · rintro ⟨rfl, spine, chains⟩
    exact ⟨⟨spine, chains⟩, rfl⟩

/-- `verify_global` accepts exactly a sound spine. -/
theorem verifyGlobal_eq_ok_iff {ledger : Ledger} {total : Nat} :
    ledger.verifyGlobal = .ok total ↔
      total = ledger.events.length ∧ SpineSound ledger.events := by
  have start : (0 : Nat) = 0 → zeroDigest = zeroDigest := fun _ => rfl
  simp only [verifyGlobal, check_bind_eq_ok_iff, pure, Except.pure,
    Except.ok.injEq, walkSpine_eq_ok_iff checkSpine_checks start]
  exact ⟨fun accepted => ⟨accepted.2.symm, accepted.1⟩,
    fun accepted => ⟨accepted.2, accepted.1.symm⟩⟩

/-- `verify_chain` accepts exactly a sound chain, and returns its length. -/
theorem verifyChain_eq_ok_iff {ledger : Ledger} {chain : ChainId} {total : Nat}
    (named : chain ≠ .global) :
    ledger.verifyChain chain = .ok total ↔
      total = ledger.chainLength chain ∧ ChainSound chain ledger.events := by
  have notGlobal := ChainId.isGlobal_eq_false named
  rw [verifyChain, chainLength, notGlobal, if_neg Bool.false_ne_true, if_neg Bool.false_ne_true,
    walkChain_eq_ok_iff (checkMember_checks chain), length_firstMembers, Nat.zero_add]
  exact ⟨fun accepted => ⟨accepted.2.2, accepted.1, accepted.2.1⟩,
    fun accepted => ⟨accepted.2.1, accepted.2.2, accepted.1⟩⟩

end Ledger

end Specifications

end Chancela
