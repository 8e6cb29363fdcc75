import Chancela.Crates.Reference
import Chancela.Ledger.Report
import Chancela.Ledger.Thread

/-! # Appending

`append` links a new event behind the heads of the chains it joins without looking
at them; `tryAppend` first checks that a founding event has the kind its chain
requires and that the tails it links to hash to themselves. Every ledger that
`tryAppend` builds is *threaded* (`Chancela.Threaded`), which all the verifiers
accept.
-/

namespace Chancela

open HashChain Outcome

/-- Why `try_append` rejects a call. -/
inductive AppendError where
  | chainGenesisWrong (chain : ChainId) (expected found : String)
  | brokenChainTail (chain : ChainId) (chainBreak : ChainBreak)
deriving DecidableEq, Repr

/-- The arguments of an append, with the event identity and the instant it draws. -/
structure AppendCall where
  actor : String
  scope : String
  kind : String
  justification : Option String
  payload : List UInt8
  id : Uuid
  timestamp : OffsetDateTime
deriving DecidableEq, Repr

namespace Ledger

def new : Ledger := ⟨[]⟩

def headEventIndices (ledger : Ledger) : ChainId → Option Nat :=
  ledger.events.zipIdx.foldl (fun heads indexed =>
    indexed.1.links.foldl (fun heads link => Function.update heads link.chain (some indexed.2))
      heads) fun _ => none

theorem headEventIndices_eq_none_iff {ledger : Ledger} {chain : ChainId} :
    ledger.headEventIndices chain = none ↔ ∀ event ∈ ledger.events, event.joins chain = false := by
  have links : ∀ (links : List ChainLink) (index : Nat) (heads : ChainId → Option Nat),
      links.foldl (fun (heads : ChainId → Option Nat) link =>
        Function.update heads link.chain (some index)) heads chain = none ↔
          heads chain = none ∧ ∀ link ∈ links, link.chain ≠ chain := by
    intro links index
    induction links with
    | nil => simp
    | cons link rest ih =>
        intro heads
        rw [List.foldl_cons, ih]
        by_cases named : link.chain = chain
        · subst named
          simp
        · simp [Function.update_of_ne (Ne.symm named), named]
  have general : ∀ (events : List Event) (start : Nat) (heads : ChainId → Option Nat),
      (events.zipIdx start).foldl (fun (heads : ChainId → Option Nat) indexed =>
        indexed.1.links.foldl (fun heads link =>
          Function.update heads link.chain (some indexed.2)) heads) heads chain = none ↔
        heads chain = none ∧ ∀ event ∈ events, event.joins chain = false := by
    intro events
    induction events with
    | nil => simp
    | cons event rest ih =>
        intro start heads
        have absent : event.joins chain = false ↔ ∀ link ∈ event.links, link.chain ≠ chain := by
          simp [Event.joins]
        rw [List.zipIdx_cons, List.foldl_cons, ih, links, List.forall_mem_cons, absent, and_assoc]
  rw [headEventIndices, general]
  simp

variable [Crates]

/-- The event `append_at` mints. -/
def appendedEvent (ledger : Ledger) (call : AppendCall) : Event :=
  let seq := ledger.events.length
  let prevHash := globalPrev ledger.events
  let payloadDigest := digest call.payload
  let links := sortLinks ((memberships call.scope call.kind).map (nextLink ledger.chainHeads))
  { id := call.id
    seq := seq
    actor := call.actor
    justification := call.justification
    timestamp := call.timestamp
    scope := call.scope
    kind := call.kind
    payloadDigest := payloadDigest
    prevHash := prevHash
    links := links
    hash := computeHash prevHash seq call.actor call.scope call.kind call.timestamp
      payloadDigest links }

def appendAt (ledger : Ledger) (call : AppendCall) : Ledger :=
  ⟨ledger.events ++ [ledger.appendedEvent call]⟩

/-- `Ledger::append`, which takes the call's instant as now. -/
def append (ledger : Ledger) (call : AppendCall) : Event × Ledger :=
  (ledger.appendedEvent call, ledger.appendAt call)

/-- `Ledger::tail_break`. The index is that of an event of the log, so the lookup
does not fail. -/
def tailBreak (ledger : Ledger) (chain : ChainId) (index : Nat) : Option ChainBreak := do
  let event ← ledger.events[index]?
  let recomputed := event.computeHash event.prevHash
  if recomputed = event.hash then none
  else some {
    chain := chain
    kind := .hashMismatch
    globalSeq := some event.seq
    chainSeq := (event.linkIn chain).map (·.seq)
    eventId := some event.id
    expectedHash := some recomputed
    actualHash := some event.hash
    message := hashMismatchMessage event }

/-- What `try_append` checks of one chain the event would join. -/
def checkJoin (ledger : Ledger) (kind : String) (chain : ChainId) : Except AppendError Unit :=
  match ledger.headEventIndices chain with
  | none =>
      match chain.expectedGenesisKind with
      | some expected =>
          if kind ≠ expected then .error (.chainGenesisWrong chain expected kind) else .ok ()
      | none => .ok ()
  | some index =>
      match ledger.tailBreak chain index with
      | some chainBreak => .error (.brokenChainTail chain chainBreak)
      | none => .ok ()

/-- The checks of `try_append` over the chains the event would join. -/
def checkJoins (ledger : Ledger) (kind : String) : List ChainId → Except AppendError Unit
  | [] => .ok ()
  | chain :: rest => do
      ledger.checkJoin kind chain
      ledger.checkJoins kind rest

/-- The check of `try_append` over the global tail. -/
def checkGlobalTail (ledger : Ledger) : Except AppendError Unit :=
  match ledger.events.length with
  | 0 => .ok ()
  | index + 1 =>
      match ledger.tailBreak .global index with
      | some chainBreak => .error (.brokenChainTail .global chainBreak)
      | none => .ok ()

/-- All the checks `try_append` makes before it appends. -/
def checkAppend (ledger : Ledger) (call : AppendCall) : Except AppendError Unit := do
  ledger.checkJoins call.kind (memberships call.scope call.kind)
  ledger.checkGlobalTail

/-- `Ledger::try_append`: the outcome and the ledger after the call. -/
def tryAppend (ledger : Ledger) (call : AppendCall) : Except AppendError Event × Ledger :=
  match ledger.checkAppend call with
  | .error rejection => (.error rejection, ledger)
  | .ok () => (.ok (ledger.appendedEvent call), ledger.appendAt call)

/-- The ledger after a sequence of `try_append` calls, accepted or rejected. -/
def tryAppends (ledger : Ledger) (calls : List AppendCall) : Ledger :=
  calls.foldl (fun ledger call => (ledger.tryAppend call).2) ledger

end Ledger

section Validated

variable [Crates]

/-- The content of an append as an event that stands in no chain yet. -/
def AppendCall.content (call : AppendCall) : Event where
  id := call.id
  seq := 0
  actor := call.actor
  justification := call.justification
  timestamp := call.timestamp
  scope := call.scope
  kind := call.kind
  payloadDigest := digest call.payload
  prevHash := zeroDigest
  links := []
  hash := zeroDigest

theorem Ledger.events_appendAt (ledger : Ledger) (call : AppendCall) :
    (ledger.appendAt call).events = extend ledger.events call.content := rfl

theorem Ledger.links_appendedEvent (ledger : Ledger) (call : AppendCall) :
    (ledger.appendedEvent call).links = nextLinks ledger.chainHeads call.scope call.kind := rfl

/-- The log joins exactly the chains its scopes name, the spine is sound and every
chain is a linked run. -/
structure Threaded (events : List Event) : Prop where
  spine : SpineSound events
  linked : ∀ chain, Linked zeroDigest none (chainMembers chain events)
  chains : ∀ event ∈ events, event.links.map (·.chain) = memberships event.scope event.kind

namespace Threaded

theorem nil : Threaded [] where
  spine := ⟨fun _ member => (by cases member), linked_nil _ _⟩
  linked := fun _ => linked_nil _ _
  chains := fun _ member => by cases member

theorem extend {events : List Event} (threaded : Threaded events) {event : Event}
    (founding : ∀ chain ∈ memberships event.scope event.kind, chainMembers chain events = [] →
      chain.founds event.kind = true) : Threaded (Chancela.extend events event) where
  spine := spineSound_extend threaded.spine event
  linked := fun chain => linked_extend_iff.mpr ⟨threaded.linked chain, founding chain⟩
  chains := by
    intro other member
    rcases List.mem_append.mp member with earlier | last
    · exact threaded.chains other earlier
    · rw [List.mem_singleton.mp last]
      exact chains_thread

variable {events : List Event} (threaded : Threaded events)

include threaded

theorem chainMembers_eq (chain : ChainId) :
    chainMembers chain events = firstMembers chain events := by
  apply chainMembers_eq_firstMembers _ chain
  intro event member
  rw [threaded.chains event member]
  exact memberships_nodup _ _

theorem verify_eq : Ledger.verify ⟨events⟩ = .ok events.length :=
  Ledger.verify_eq_ok_iff.mpr ⟨rfl, threaded.spine, threaded.linked⟩

theorem verifyChain_eq (chain : ChainId) :
    Ledger.verifyChain ⟨events⟩ chain = .ok (Ledger.chainLength ⟨events⟩ chain) := by
  by_cases named : chain = .global
  · subst named
    exact Ledger.verifyGlobal_eq_ok_iff.mpr ⟨rfl, threaded.spine⟩
  · refine (Ledger.verifyChain_eq_ok_iff named).mpr
      ⟨rfl, fun event member _ => threaded.spine.1 event member, ?_⟩
    rw [← threaded.chainMembers_eq chain]
    exact threaded.linked chain

theorem healthy [RecordParser] : (Ledger.integrityReport ⟨events⟩).healthy = true := by
  refine Ledger.healthy_iff.mpr ⟨threaded.spine, fun chain _ => ?_⟩
  rw [← threaded.chainMembers_eq chain]
  exact threaded.linked chain

end Threaded

theorem Ledger.checkJoin_founds {ledger : Ledger} {kind : String} {chain : ChainId}
    (passed : ledger.checkJoin kind chain = .ok ())
    (empty : chainMembers chain ledger.events = []) :
    chain.founds kind = true := by
  have absent : ledger.headEventIndices chain = none := by
    apply headEventIndices_eq_none_iff.mpr
    intro event member
    rw [← Event.membersIn_eq_nil_iff]
    exact List.flatMap_eq_nil_iff.mp empty event member
  simp only [checkJoin, absent] at passed
  unfold ChainId.founds
  cases required : chain.expectedGenesisKind with
  | none => rfl
  | some expected =>
      simp only [required, ite_error_eq_ok_iff, ne_eq, not_not] at passed
      simp [passed.1]

/-- `try_append` checks every chain the event would join. -/
theorem Ledger.checkJoins_eq_ok_iff {ledger : Ledger} {kind : String} {chains : List ChainId} :
    ledger.checkJoins kind chains = .ok () ↔
      ∀ chain ∈ chains, ledger.checkJoin kind chain = .ok () := by
  induction chains with
  | nil => simp [checkJoins]
  | cons chain rest ih =>
      rw [checkJoins, check_bind_eq_ok_iff, ih, List.forall_mem_cons]

theorem Ledger.tryAppend_error {ledger : Ledger} {call : AppendCall} {rejection : AppendError}
    (rejected : (ledger.tryAppend call).1 = .error rejection) :
    (ledger.tryAppend call).2 = ledger := by
  unfold tryAppend at rejected ⊢
  split at rejected
  · rfl
  · cases rejected

theorem Ledger.threaded_tryAppend {ledger : Ledger} (threaded : Threaded ledger.events)
    (call : AppendCall) : Threaded (ledger.tryAppend call).2.events := by
  unfold tryAppend
  split
  · exact threaded
  · next passed =>
      rw [checkAppend, check_bind_eq_ok_iff, checkJoins_eq_ok_iff] at passed
      rw [events_appendAt]
      exact threaded.extend fun chain joined empty => checkJoin_founds (passed.1 chain joined) empty

theorem Ledger.threaded_tryAppends {ledger : Ledger} (threaded : Threaded ledger.events)
    (calls : List AppendCall) : Threaded (ledger.tryAppends calls).events := by
  induction calls generalizing ledger with
  | nil => exact threaded
  | cons call rest ih => exact ih (threaded_tryAppend threaded call)

/-- **Validated logs verify.** After any sequence of `try_append` calls from an
empty ledger every verifier accepts, each event joins exactly the chains its scope
names, in canonical order and without repeats, and a further rejected call changes
nothing. -/
theorem Ledger.tryAppends_sound [RecordParser] (calls : List AppendCall) :
    (new.tryAppends calls).verify = .ok (new.tryAppends calls).events.length ∧
      (∀ chain, (new.tryAppends calls).verifyChain chain =
        .ok ((new.tryAppends calls).chainLength chain)) ∧
      (new.tryAppends calls).integrityReport.healthy = true ∧
      (∀ event ∈ (new.tryAppends calls).events,
        event.links.map (·.chain) = memberships event.scope event.kind ∧
          (event.links.map (·.chain)).Pairwise (· ≤ ·) ∧ (event.links.map (·.chain)).Nodup) ∧
      ∀ call rejection, ((new.tryAppends calls).tryAppend call).1 = .error rejection →
        ((new.tryAppends calls).tryAppend call).2.events = (new.tryAppends calls).events := by
  have threaded : Threaded (new.tryAppends calls).events := threaded_tryAppends .nil calls
  refine ⟨threaded.verify_eq, threaded.verifyChain_eq, threaded.healthy, ?_, ?_⟩
  · intro event member
    rw [threaded.chains event member]
    exact ⟨rfl, memberships_sorted _ _, memberships_nodup _ _⟩
  · intro call rejection rejected
    rw [tryAppend_error rejected]

end Validated

section Runs

open scoped Reference

def settingsCall : AppendCall where
  actor := "amelia"
  scope := "settings"
  kind := "settings.updated"
  justification := none
  payload := [0x7b, 0x7d]
  id := ⟨1#128⟩
  timestamp := ⟨2026, 1, 2, 3, 4, 5, 0, 0⟩

def unopenedBookCall : AppendCall where
  actor := "amelia"
  scope := "entity:e1/book:b1/act:a1"
  kind := "act.sealed"
  justification := none
  payload := []
  id := ⟨2#128⟩
  timestamp := ⟨2026, 1, 2, 3, 4, 6, 0, 0⟩

/-- An accepted call, then one that would found two chains with the wrong kind. -/
theorem Ledger.tryAppends_sound_settings :
    (new.tryAppends [settingsCall]).events.length = 1 ∧
      ((new.tryAppends [settingsCall]).tryAppend unopenedBookCall).1 =
        .error (.chainGenesisWrong (.book "b1") "book.opened" "act.sealed") ∧
      ((new.tryAppends [settingsCall]).tryAppend unopenedBookCall).2.events =
        (new.tryAppends [settingsCall]).events := by
  have rejected : ((new.tryAppends [settingsCall]).tryAppend unopenedBookCall).1 =
      .error (.chainGenesisWrong (.book "b1") "book.opened" "act.sealed") := by
    decide +kernel
  exact ⟨rfl, rejected, (tryAppends_sound [settingsCall]).2.2.2.2 _ _ rejected⟩

end Runs

end Chancela
