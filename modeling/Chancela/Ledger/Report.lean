import Mathlib.Data.List.Dedup
import Chancela.Ledger.Verify

/-! # The rich verifiers

`locateBreak` makes the checks of `verifyChain` and describes the first break it
finds, `integrityReport` collects the breaks of the global spine and of every
chain the log names, and `verifyBundleChain` verifies one chain over an isolated
set of events. A chain has no break exactly when its frozen verifier accepts it
(`Chancela.Ledger.locateBreak_eq_none_iff`), and a report is healthy exactly when
the spine and the first links of every chain are sound
(`Chancela.Ledger.healthy_iff`).
-/

namespace Chancela

open HashChain Outcome

/-- The classification of a chain break. -/
inductive BreakKind where
  | badGenesis
  | sequenceBroken
  | linkBroken
  | hashMismatch
  | chainSequenceBroken
  | chainLinkBroken
  | chainGenesisWrong
deriving DecidableEq, Repr

/-- The first break located in a chain. -/
structure ChainBreak where
  chain : ChainId
  kind : BreakKind
  globalSeq : Option Nat
  chainSeq : Option Nat
  eventId : Option Uuid
  expectedHash : Option Digest
  actualHash : Option Digest
  message : String
deriving DecidableEq, Repr

/-- The verification status of one chain. -/
structure ChainStatus where
  chain : ChainId
  genesisKind : Option String
  length : Nat
  head : Option Digest
  verified : Bool
  firstBreak : Option ChainBreak
deriving DecidableEq, Repr

/-- One chain's rebuilt range within a re-anchor record. -/
structure ReanchorSegment where
  chain : ChainId
  fromChainSeq : Nat
  toChainSeq : Nat
deriving DecidableEq, Repr

/-- The disclosure of one re-anchor operation. -/
structure ReanchorRecord where
  actor : String
  at_ : OffsetDateTime
  reason : String
  affected : List ReanchorSegment
  originalGlobalHead : Option Digest
  newGlobalHead : Digest
  preReanchorDigest : Digest
deriving DecidableEq, Repr

/-- A whole-ledger integrity snapshot. -/
structure IntegrityReport where
  global : ChainStatus
  chains : List ChainStatus
  healthy : Bool
  reanchoredSegments : List ReanchorRecord
deriving DecidableEq, Repr

/-- The verdict of the standalone bundle verifier. -/
inductive BundleVerdict where
  | verified (length : Nat)
  | broken (chainBreak : ChainBreak)
deriving DecidableEq, Repr

/-- `serde_json::from_str::<ReanchorRecord>`, absent on an error. -/
class RecordParser where
  parseRecord : String → Option ReanchorRecord

export RecordParser (parseRecord)

namespace Reference

/-- A parser for logs that disclose no record, where it is never called. -/
scoped instance silentParser : RecordParser := ⟨fun _ => none⟩

end Reference

def reanchorEventKind : String := "ledger.reanchored"

def recoveryScope : String := "recovery"

def memberBreak (chain : ChainId) (kind : BreakKind) (event : Event) (link : ChainLink)
    (expectedHash actualHash : Option Digest) (message : String) : ChainBreak where
  chain := chain
  kind := kind
  globalSeq := some event.seq
  chainSeq := some link.seq
  eventId := some event.id
  expectedHash := expectedHash
  actualHash := actualHash
  message := message

def spineBreak (kind : BreakKind) (event : Event) (expectedHash actualHash : Option Digest)
    (message : String) : ChainBreak where
  chain := .global
  kind := kind
  globalSeq := some event.seq
  chainSeq := none
  eventId := some event.id
  expectedHash := expectedHash
  actualHash := actualHash
  message := message

def hashMismatchMessage (event : Event) : String :=
  s!"event hash mismatch at seq {event.seq}: contents were altered after sealing"

section Breaks

variable [Crates]

def genesisBreak (chain : ChainId) (event : Event) (link : ChainLink) : Option ChainBreak :=
  if link.seq ≠ 0 then
    some (memberBreak chain .chainSequenceBroken event link none none
      s!"chain {chain.canonical} sequence broken: expected chain-seq 0, found {link.seq}")
  else if link.prevHash ≠ zeroDigest then
    some (memberBreak chain .chainLinkBroken event link (some zeroDigest) (some link.prevHash)
      s!"chain {chain.canonical} link broken at chain-seq 0: genesis prev_hash must be all-zero")
  else match chain.expectedGenesisKind with
    | some expected =>
        if event.kind ≠ expected then
          some (memberBreak chain .chainGenesisWrong event link none none
            (s!"chain {chain.canonical} genesis kind wrong: expected {debugStr expected}, " ++
              s!"found {debugStr event.kind}"))
        else none
    | none => none

/-- The checks `locate_break` and `verify_bundle_chain` make of one member. -/
def breakAtMember (chain : ChainId) (state : Tip Digest) (event : Event) (link : ChainLink) :
    Except ChainBreak Unit :=
  let recomputed := event.computeHash event.prevHash
  if recomputed ≠ event.hash then
    .error (memberBreak chain .hashMismatch event link (some recomputed) (some event.hash)
      (hashMismatchMessage event))
  else match state with
    | none =>
        match genesisBreak chain event link with
        | some chainBreak => .error chainBreak
        | none => .ok ()
    | some (lastSeq, lastHash) =>
        if link.seq ≠ lastSeq + 1 then
          .error (memberBreak chain .chainSequenceBroken event link none none
            (s!"chain {chain.canonical} sequence broken: expected chain-seq {lastSeq + 1}, " ++
              s!"found {link.seq}"))
        else if link.prevHash ≠ lastHash then
          .error (memberBreak chain .chainLinkBroken event link (some lastHash)
            (some link.prevHash)
            (s!"chain {chain.canonical} link broken at chain-seq {link.seq}: prev_hash does not " ++
              "match preceding member"))
        else .ok ()

/-- The checks `locate_global_break` makes of one event. -/
def breakAtSpine (index : Nat) (globalPrev : Digest) (event : Event) : Except ChainBreak Unit :=
  if event.seq ≠ index then
    .error (spineBreak .sequenceBroken event none none
      s!"sequence broken at index {index}: expected seq {index}, found {event.seq}")
  else if index = 0 ∧ event.prevHash ≠ zeroDigest then
    .error (spineBreak .badGenesis event (some zeroDigest) (some event.prevHash)
      "genesis event (seq 0) must have an all-zero prev_hash")
  else if event.prevHash ≠ globalPrev then
    .error (spineBreak .linkBroken event (some globalPrev) (some event.prevHash)
      s!"chain link broken at seq {event.seq}: prev_hash does not match preceding event")
  else
    let recomputed := event.computeHash event.prevHash
    if recomputed ≠ event.hash then
      .error (spineBreak .hashMismatch event (some recomputed) (some event.hash)
        (hashMismatchMessage event))
    else .ok ()

end Breaks

namespace Ledger

/-- `Ledger::distinct_non_global_chains`: the chains the links of the log name, in
canonical order. -/
def distinctNonGlobalChains (ledger : Ledger) : List ChainId :=
  ((ledger.events.flatMap fun event => event.links.map (·.chain)).dedup).insertionSort (· ≤ ·)

section Reports

variable [Crates]

def locateGlobalBreak (ledger : Ledger) : Option ChainBreak :=
  fault? (walkSpine breakAtSpine 0 zeroDigest ledger.events)

def locateBreak (ledger : Ledger) (chain : ChainId) : Option ChainBreak :=
  if chain.isGlobal then ledger.locateGlobalBreak
  else fault? (walkChain (breakAtMember chain) chain none 0 ledger.events)

def verifyBundleChain (events : List Event) (chain : ChainId) : Except ChainBreak Nat :=
  walkChain (breakAtMember chain) chain none 0 events

def verifyBundleChainVerdict (events : List Event) (chain : ChainId) : BundleVerdict :=
  match verifyBundleChain events chain with
  | .ok length => .verified length
  | .error chainBreak => .broken chainBreak

/-- The status of the global chain, which is always present. -/
def globalStatus (ledger : Ledger) : ChainStatus where
  chain := .global
  genesisKind := ledger.events.head?.map (·.kind)
  length := ledger.events.length
  head := ledger.head
  verified := (ledger.locateBreak .global).isNone
  firstBreak := ledger.locateBreak .global

def chainStatus (ledger : Ledger) (chain : ChainId) : Option ChainStatus :=
  if chain.isGlobal then some ledger.globalStatus
  else
    let members := ledger.eventsInChain chain
    if members.isEmpty then none
    else some {
      chain := chain
      genesisKind := members.head?.map (·.kind)
      length := members.length
      head := members.getLast?.map (·.hash)
      verified := (ledger.locateBreak chain).isNone
      firstBreak := ledger.locateBreak chain }

def chains (ledger : Ledger) : List ChainStatus :=
  ledger.distinctNonGlobalChains.filterMap ledger.chainStatus

variable [RecordParser]

/-- `Ledger::reanchored_segments`: the records whose retained text matches the
committed digest and parses. -/
def reanchoredSegments (ledger : Ledger) : List ReanchorRecord :=
  (ledger.events.filter fun event =>
      event.kind = reanchorEventKind ∧ event.scope = recoveryScope).filterMap fun event => do
    let json ← event.justification
    if digest (Text.utf8 json) ≠ event.payloadDigest then none
    else parseRecord json

def integrityReport (ledger : Ledger) : IntegrityReport where
  global := ledger.globalStatus
  chains := ledger.chains
  healthy := ledger.globalStatus.firstBreak.isNone &&
    ledger.chains.all fun status => status.firstBreak.isNone
  reanchoredSegments := ledger.reanchoredSegments

end Reports

end Ledger

section Specifications

variable [Crates]

theorem genesisBreak_eq_none_iff {event : Event} {link : ChainLink} :
    genesisBreak link.chain event link = none ↔ Extends zeroDigest none (link.member event) := by
  rw [extends_none]
  simp only [genesisBreak, ChainLink.member, ChainId.founds]
  by_cases position : link.seq = 0 <;> by_cases origin : link.prevHash = zeroDigest <;>
    cases link.chain.expectedGenesisKind <;> simp [position, origin]

theorem breakAtMember_checks (chain : ChainId) : ChecksMembers chain (breakAtMember chain) := by
  intro state event link named
  subst named
  simp only [breakAtMember]
  rw [ite_error_eq_ok_iff, ne_eq, not_not]
  apply and_congr Iff.rfl
  cases state with
  | none =>
      rw [← genesisBreak_eq_none_iff]
      cases genesisBreak link.chain event link <;> simp
  | some last =>
      rw [ite_error_eq_ok_iff, ite_error_eq_ok_iff, ne_eq, not_not, ne_eq, not_not]
      exact ⟨fun passed => ⟨passed.1, passed.2.1⟩, fun extension => ⟨extension.1, extension.2, rfl⟩⟩

theorem breakAtSpine_checks : ChecksSpine breakAtSpine := by
  intro index globalPrev event start
  rw [← checkSpine_checks index globalPrev event start]
  simp only [breakAtSpine, checkSpine, ite_error_eq_ok_iff]

namespace Ledger

theorem locateGlobalBreak_eq_none_iff {ledger : Ledger} :
    ledger.locateGlobalBreak = none ↔ SpineSound ledger.events := by
  rw [locateGlobalBreak, fault?_eq_none_iff]
  have walk : walkSpine breakAtSpine 0 zeroDigest ledger.events = .ok () ↔
      SpineSound ledger.events := walkSpine_eq_ok_iff breakAtSpine_checks fun _ => rfl
  exact ⟨fun ⟨⟨⟩, passed⟩ => walk.mp passed, fun sound => ⟨(), walk.mpr sound⟩⟩

theorem locateBreak_eq_none_iff_chainSound {ledger : Ledger} {chain : ChainId}
    (named : chain ≠ .global) :
    ledger.locateBreak chain = none ↔ ChainSound chain ledger.events := by
  have notGlobal := ChainId.isGlobal_eq_false named
  rw [locateBreak, notGlobal, if_neg Bool.false_ne_true, fault?_eq_none_iff]
  constructor
  · rintro ⟨total, passed⟩
    obtain ⟨hashed, linked, -⟩ := (walkChain_eq_ok_iff (breakAtMember_checks chain)).mp passed
    exact ⟨hashed, linked⟩
  · rintro ⟨hashed, linked⟩
    exact ⟨_, (walkChain_eq_ok_iff (breakAtMember_checks chain)).mpr ⟨hashed, linked, rfl⟩⟩

/-- `locate_break` finds nothing exactly when `verify_chain` accepts. -/
theorem locateBreak_eq_none_iff {ledger : Ledger} {chain : ChainId} :
    ledger.locateBreak chain = none ↔ ∃ total, ledger.verifyChain chain = .ok total := by
  by_cases named : chain = .global
  · subst named
    have spine : ledger.verifyChain .global = ledger.verifyGlobal := rfl
    have breaks : ledger.locateBreak .global = ledger.locateGlobalBreak := rfl
    rw [breaks, spine, locateGlobalBreak_eq_none_iff]
    simp only [verifyGlobal_eq_ok_iff, exists_eq_left]
  · rw [locateBreak_eq_none_iff_chainSound named]
    simp only [verifyChain_eq_ok_iff named, exists_eq_left]

theorem verifyBundleChain_eq_ok_iff {events : List Event} {chain : ChainId} {total : Nat} :
    verifyBundleChain events chain = .ok total ↔
      total = (events.filter (·.joins chain)).length ∧ ChainSound chain events := by
  rw [verifyBundleChain, walkChain_eq_ok_iff (breakAtMember_checks chain), length_firstMembers,
    Nat.zero_add]
  exact ⟨fun accepted => ⟨accepted.2.2, accepted.1, accepted.2.1⟩,
    fun accepted => ⟨accepted.2.1, accepted.2.2, accepted.1⟩⟩

omit [Crates] in
theorem mem_distinctNonGlobalChains {ledger : Ledger} {chain : ChainId} :
    chain ∈ ledger.distinctNonGlobalChains ↔
      ∃ event ∈ ledger.events, event.joins chain = true := by
  simp only [distinctNonGlobalChains, List.mem_insertionSort, List.mem_dedup, List.mem_flatMap,
    List.mem_map, Event.joins_iff]

omit [Crates] in
theorem eventsInChain_eq_nil_iff {ledger : Ledger} {chain : ChainId} (named : chain ≠ .global) :
    ledger.eventsInChain chain = [] ↔ ∀ event ∈ ledger.events, event.joins chain = false := by
  have notGlobal := ChainId.isGlobal_eq_false named
  rw [eventsInChain, notGlobal, if_neg Bool.false_ne_true, List.filter_eq_nil_iff]
  simp only [Bool.not_eq_true]

omit [Crates] in
theorem firstMembers_linked_of_absent {events : List Event} {chain : ChainId}
    (absent : ∀ event ∈ events, event.joins chain = false) :
    Linked zeroDigest none (firstMembers chain events) := by
  have empty : firstMembers chain events = [] := by
    rw [← List.length_eq_zero_iff, length_firstMembers, List.length_eq_zero_iff,
      List.filter_eq_nil_iff]
    intro event member joined
    rw [absent event member] at joined
    cases joined
  rw [empty]
  exact linked_nil _ _

/-- No status of `chains` shows a break exactly when no chain the log names has one. -/
theorem chains_all_unbroken_iff {ledger : Ledger} :
    (∀ status ∈ ledger.chains, status.firstBreak = none) ↔
      ∀ chain ∈ ledger.distinctNonGlobalChains, ledger.locateBreak chain = none := by
  have reported : ∀ chain ∈ ledger.distinctNonGlobalChains, ∃ status,
      ledger.chainStatus chain = some status ∧ status.firstBreak = ledger.locateBreak chain := by
    intro chain member
    by_cases named : chain = .global
    · subst named
      exact ⟨_, rfl, rfl⟩
    · obtain ⟨event, inside, joined⟩ := mem_distinctNonGlobalChains.mp member
      have notGlobal := ChainId.isGlobal_eq_false named
      have occupied : ledger.eventsInChain chain ≠ [] := by
        intro empty
        have absent := (eventsInChain_eq_nil_iff named).mp empty event inside
        rw [joined] at absent
        cases absent
      rw [chainStatus, notGlobal, if_neg Bool.false_ne_true]
      exact ⟨_, if_neg (by simpa using occupied), rfl⟩
  constructor
  · intro unbroken chain member
    obtain ⟨status, found, same⟩ := reported chain member
    rw [← same]
    exact unbroken status (List.mem_filterMap.mpr ⟨chain, member, found⟩)
  · intro unbroken status member
    obtain ⟨chain, inside, found⟩ := List.mem_filterMap.mp member
    obtain ⟨status', found', same⟩ := reported chain inside
    obtain rfl : status' = status := Option.some.inj (found'.symm.trans found)
    rw [same]
    exact unbroken chain inside

/-- **A report is healthy** exactly when the spine is sound and, in every other
chain, the first links of the events form a linked run. -/
theorem healthy_iff [RecordParser] {ledger : Ledger} :
    ledger.integrityReport.healthy = true ↔
      SpineSound ledger.events ∧
        ∀ chain, chain ≠ .global → Linked zeroDigest none (firstMembers chain ledger.events) := by
  have unfolded : ledger.integrityReport.healthy = true ↔
      ledger.locateGlobalBreak = none ∧ ∀ status ∈ ledger.chains, status.firstBreak = none := by
    simp only [integrityReport, Bool.and_eq_true, List.all_eq_true, Option.isNone_iff_eq_none]
    rfl
  rw [unfolded, locateGlobalBreak_eq_none_iff, chains_all_unbroken_iff]
  refine and_congr_right fun spine => ⟨fun unbroken chain named => ?_, fun linked chain _ => ?_⟩
  · by_cases present : ∃ event ∈ ledger.events, event.joins chain = true
    · have sound := unbroken chain (mem_distinctNonGlobalChains.mpr present)
      exact ((locateBreak_eq_none_iff_chainSound named).mp sound).2
    · apply firstMembers_linked_of_absent
      intro event member
      rw [← Bool.not_eq_true]
      exact fun joined => present ⟨event, member, joined⟩
  · by_cases named : chain = .global
    · subst named
      exact locateGlobalBreak_eq_none_iff.mpr spine
    · exact (locateBreak_eq_none_iff_chainSound named).mpr
        ⟨fun event member _ => spine.1 event member, linked chain named⟩

end Ledger

end Specifications

end Chancela
