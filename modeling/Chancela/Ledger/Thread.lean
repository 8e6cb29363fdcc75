import Chancela.Ledger.Verify

/-! # Threading an event into its chains

Appending and re-anchoring derive the linkage of an event the same way: its
position and backward link on the global spine, and one link to the head of every
chain its scope names. `Chancela.thread` is that derivation from given heads. A
threaded event always continues the spine, and continues every chain it joins
except that the first member of a chain may have the wrong kind
(`Chancela.linked_extend_iff`).
-/

namespace Chancela

open HashChain

/-- The link that puts an event behind the current head of a chain. -/
def nextLink (heads : ChainId → Tip Digest) (chain : ChainId) : ChainLink :=
  match heads chain with
  | some (headSeq, headHash) => ⟨chain, headSeq + 1, headHash⟩
  | none => ⟨chain, 0, zeroDigest⟩

/-- The heads after an event with these links and this hash. -/
def recordLinks (heads : ChainId → Tip Digest) (hash : Digest) (links : List ChainLink) :
    ChainId → Tip Digest :=
  links.foldl (fun heads link => Function.update heads link.chain (some (link.seq, hash))) heads

/-- `Ledger::chain_heads`: the head of every non-global chain, derived from the log. -/
def Ledger.chainHeads (ledger : Ledger) : ChainId → Tip Digest :=
  ledger.events.foldl (fun heads event => recordLinks heads event.hash event.links) fun _ => none

def globalPrev (events : List Event) : Digest :=
  (events.getLast?.map (·.hash)).getD zeroDigest

@[simp] theorem chain_nextLink (heads : ChainId → Tip Digest) (chain : ChainId) :
    (nextLink heads chain).chain = chain := by
  unfold nextLink
  split <;> rfl

theorem extends_nextLink_iff {heads : ChainId → Tip Digest} {chain : ChainId} {event : Event} :
    Extends zeroDigest (heads chain) ((nextLink heads chain).member event) ↔
      (heads chain = none → chain.founds event.kind = true) := by
  cases head : heads chain with
  | none => simp [nextLink, head, ChainLink.member]
  | some tip =>
      obtain ⟨headSeq, headHash⟩ := tip
      simp [nextLink, head, ChainLink.member]

theorem recordLinks_apply (heads : ChainId → Tip Digest) (event : Event) (links : List ChainLink)
    (chain : ChainId) :
    recordLinks heads event.hash links chain =
      advance (heads chain) (linkMembers event chain links) := by
  induction links generalizing heads with
  | nil => rfl
  | cons link rest ih =>
      have step : recordLinks heads event.hash (link :: rest) =
          recordLinks (Function.update heads link.chain (some (link.seq, event.hash)))
            event.hash rest := rfl
      rw [step, ih]
      by_cases named : link.chain = chain
      · subst named
        simp [linkMembers, Member.tip, ChainLink.member]
      · simp [linkMembers, named, Function.update_of_ne (Ne.symm named)]

theorem Ledger.chainHeads_eq (ledger : Ledger) (chain : ChainId) :
    ledger.chainHeads chain = advance none (chainMembers chain ledger.events) := by
  have general : ∀ (events : List Event) (heads : ChainId → Tip Digest),
      events.foldl (fun heads event => recordLinks heads event.hash event.links) heads chain =
        advance (heads chain) (chainMembers chain events) := by
    intro events
    induction events with
    | nil => exact fun _ => rfl
    | cons event rest ih =>
        intro heads
        have members : chainMembers chain (event :: rest) =
            linkMembers event chain event.links ++ chainMembers chain rest := rfl
        rw [List.foldl_cons, ih, recordLinks_apply, members, advance_append]
  exact general ledger.events fun _ => none

@[simp] theorem globalPrev_nil : globalPrev [] = zeroDigest := rfl

@[simp] theorem globalPrev_concat (events : List Event) (event : Event) :
    globalPrev (events ++ [event]) = event.hash := by
  simp [globalPrev]

theorem advance_spine_eq {events : List Event}
    (linked : Linked zeroDigest none (spineMembers events)) :
    advance none (spineMembers events) = spineTip events.length (globalPrev events) := by
  induction events using List.reverseRecOn with
  | nil => rfl
  | append_singleton before last _ =>
      have spine : spineMembers (before ++ [last]) =
          spineMembers before ++ [last.spineMember] := List.map_append
      rw [spine] at linked ⊢
      have position : last.spineMember.seq = (spineMembers before).length :=
        Linked.seq_eq_length linked
      have length : (spineMembers before).length = before.length := List.length_map _
      rw [advance_concat, globalPrev_concat, List.length_append, List.length_singleton]
      have seq : last.seq = before.length := by rw [← length, ← position]; rfl
      simp only [Member.tip, Event.spineMember, seq, spineTip]

variable [Crates]

/-- The canonical links of an event of this scope and kind behind the given heads. -/
def nextLinks (heads : ChainId → Tip Digest) (scope kind : String) : List ChainLink :=
  sortLinks ((memberships scope kind).map (nextLink heads))

/-- The event with its linkage and hash derived anew from a position, a backward
link and the heads of the chains. -/
def thread (seq : Nat) (prevHash : Digest) (heads : ChainId → Tip Digest) (event : Event) : Event :=
  let links := nextLinks heads event.scope event.kind
  { event with
    seq := seq
    prevHash := prevHash
    links := links
    hash := computeHash prevHash seq event.actor event.scope event.kind event.timestamp
      event.payloadDigest links }

theorem nextLinks_eq (heads : ChainId → Tip Digest) (scope kind : String) :
    nextLinks heads scope kind = (memberships scope kind).map (nextLink heads) := by
  apply List.Pairwise.insertionSort_eq
  rw [List.pairwise_map]
  simp only [chain_nextLink]
  exact memberships_sorted scope kind

section Threaded

variable {seq : Nat} {prevHash : Digest} {heads : ChainId → Tip Digest} {event : Event}

theorem links_thread :
    (thread seq prevHash heads event).links =
      (memberships event.scope event.kind).map (nextLink heads) :=
  nextLinks_eq heads event.scope event.kind

theorem chains_thread :
    (thread seq prevHash heads event).links.map (·.chain) =
      memberships event.scope event.kind := by
  rw [links_thread, List.map_map]
  exact (List.map_congr_left fun chain _ => chain_nextLink heads chain).trans (List.map_id _)

theorem selfHashed_thread : (thread seq prevHash heads event).SelfHashed := rfl

theorem membersIn_thread (chain : ChainId) :
    (thread seq prevHash heads event).membersIn chain =
      if chain ∈ memberships event.scope event.kind then
        [(nextLink heads chain).member (thread seq prevHash heads event)]
      else [] := by
  have distinct := memberships_nodup event.scope event.kind
  rw [Event.membersIn, links_thread, List.filter_map]
  simp only [Function.comp_def, chain_nextLink]
  rw [List.filter_eq]
  split
  · next joined => rw [List.count_eq_one_of_mem distinct joined]; rfl
  · next absent => rw [List.count_eq_zero_of_not_mem absent]; rfl

end Threaded

def extend (events : List Event) (event : Event) : List Event :=
  events ++ [thread events.length (globalPrev events) (Ledger.chainHeads ⟨events⟩) event]

theorem spineSound_extend {events : List Event} (sound : SpineSound events) (event : Event) :
    SpineSound (extend events event) := by
  obtain ⟨hashed, linked⟩ := sound
  refine ⟨?_, ?_⟩
  · intro member inside
    rcases List.mem_append.mp inside with earlier | last
    · exact hashed member earlier
    · rw [List.mem_singleton.mp last]
      exact selfHashed_thread
  · rw [spineMembers, extend, List.map_append]
    refine (linked_append ..).mpr ⟨linked, ?_⟩
    have tip := advance_spine_eq linked
    rw [spineMembers] at tip
    rw [tip]
    refine ⟨?_, linked_nil _ _⟩
    -- An empty log starts from the genesis link, any other from its last event.
    cases length : events.length with
    | zero =>
        rw [List.length_eq_zero_iff.mp length]
        exact ⟨rfl, rfl, rfl⟩
    | succ before => exact ⟨by simp [thread, Event.spineMember], rfl⟩

theorem linked_extend_iff {events : List Event} {event : Event} {chain : ChainId} :
    Linked zeroDigest none (chainMembers chain (extend events event)) ↔
      Linked zeroDigest none (chainMembers chain events) ∧
        (chain ∈ memberships event.scope event.kind → chainMembers chain events = [] →
          chain.founds event.kind = true) := by
  have last : chainMembers chain (extend events event) = chainMembers chain events ++
      (thread events.length (globalPrev events) (Ledger.chainHeads ⟨events⟩) event).membersIn
        chain := by
    rw [extend, chainMembers_append]
    simp [chainMembers]
  rw [last, linked_append, membersIn_thread]
  apply and_congr_right
  intro _
  split
  · next joined =>
      have head := Ledger.chainHeads_eq ⟨events⟩ chain
      rw [← head, linked_cons, extends_nextLink_iff, head, advance_eq_none_iff]
      exact ⟨fun linked _ => linked.1, fun founding => ⟨founding joined, linked_nil _ _⟩⟩
  · next absent => exact ⟨fun _ joined => (absent joined).elim, fun _ => linked_nil _ _⟩

end Chancela
