import Chancela.Foundation.HashChain
import Chancela.Ledger.Chain

/-! # Events and their hash preimage

An event stands in the global chain through its own `seq`, `prevHash` and `hash`,
and in every other chain it joins through one `ChainLink`. Its hash commits to its
content, its global linkage and all its links (`Chancela.preimage`).

The verifiers read an event as members of chains: `Chancela.Event.spineMember` in
the global chain, `Chancela.Event.membersIn` in another one. `firstIn` is the one
member a single-chain walk looks at when an event carries several links for that
chain.
-/

namespace Chancela

open HashChain

/-- One event's membership of a non-global chain. -/
structure ChainLink where
  chain : ChainId
  seq : Nat
  prevHash : Digest
deriving DecidableEq, Repr

/-- An entry of the ledger. -/
structure Event where
  id : Uuid
  seq : Nat
  actor : String
  justification : Option String
  timestamp : OffsetDateTime
  scope : String
  kind : String
  payloadDigest : Digest
  prevHash : Digest
  links : List ChainLink
  hash : Digest
deriving DecidableEq, Repr

/-- `FIELD_SEP`, the ASCII unit separator. -/
def fieldSep : UInt8 := 0x1F

/-- `RECORD_SEP`, the ASCII record separator. -/
def recordSep : UInt8 := 0x1E

def toBeBytes (number : Nat) : List UInt8 := Framing.bigEndian 8 number

/-- The links in the order they are hashed and stored in. -/
def sortLinks (links : List ChainLink) : List ChainLink :=
  links.insertionSort fun first second => first.chain ≤ second.chain

/-- The bytes of one link in the links section of the preimage. -/
def linkBytes (link : ChainLink) : List UInt8 :=
  (Text.utf8 link.chain.canonical ++ [fieldSep]) ++ (toBeBytes link.seq ++
    (link.prevHash.toList ++ [recordSep]))

variable [Crates]

/-- The text a timestamp is hashed as; an instant RFC 3339 cannot express falls
back to the epoch. -/
def timestampText (timestamp : OffsetDateTime) : String :=
  (formatRfc3339 timestamp).getD "1970-01-01T00:00:00Z"

/-- The input `compute_hash` feeds to SHA-256. -/
def preimage (prevHash : Digest) (seq : Nat) (actor scope kind : String)
    (timestamp : OffsetDateTime) (payloadDigest : Digest) (links : List ChainLink) : List UInt8 :=
  prevHash.toList ++ (toBeBytes seq ++ ((Text.utf8 actor ++ [fieldSep]) ++
    ((Text.utf8 scope ++ [fieldSep]) ++ ((Text.utf8 kind ++ [fieldSep]) ++
      ((Text.utf8 (timestampText timestamp) ++ [fieldSep]) ++ (payloadDigest.toList ++
        ([recordSep] ++ (sortLinks links).flatMap linkBytes)))))))

def computeHash (prevHash : Digest) (seq : Nat) (actor scope kind : String)
    (timestamp : OffsetDateTime) (payloadDigest : Digest) (links : List ChainLink) : Digest :=
  sha256 (preimage prevHash seq actor scope kind timestamp payloadDigest links)

/-- `digest`: the SHA-256 of a payload. -/
def digest (payload : List UInt8) : Digest := sha256 payload

namespace Event

/-- The event's own preimage, over a given global backward link. -/
def preimage (event : Event) (prevHash : Digest) : List UInt8 :=
  Chancela.preimage prevHash event.seq event.actor event.scope event.kind event.timestamp
    event.payloadDigest event.links

def computeHash (event : Event) (prevHash : Digest) : Digest :=
  Chancela.computeHash prevHash event.seq event.actor event.scope event.kind event.timestamp
    event.payloadDigest event.links

/-- The stored hash is the one the event's fields hash to. -/
def SelfHashed (event : Event) : Prop := event.computeHash event.prevHash = event.hash

instance (event : Event) : Decidable event.SelfHashed :=
  inferInstanceAs (Decidable (_ = _))

end Event

omit [Crates]

def ChainLink.member (link : ChainLink) (event : Event) : Member Digest where
  seq := link.seq
  prev := link.prevHash
  hash := event.hash
  founds := link.chain.founds event.kind

namespace Event

def spineMember (event : Event) : Member Digest where
  seq := event.seq
  prev := event.prevHash
  hash := event.hash
  founds := true

/-- All the event's links for a chain, as members of it. -/
def membersIn (event : Event) (chain : ChainId) : List (Member Digest) :=
  (event.links.filter (·.chain = chain)).map (·.member event)

def linkIn (event : Event) (chain : ChainId) : Option ChainLink :=
  event.links.find? (·.chain = chain)

/-- The first of the event's links for a chain, as a member of it. -/
def firstIn (event : Event) (chain : ChainId) : Option (Member Digest) :=
  (event.linkIn chain).map (·.member event)

def joins (event : Event) (chain : ChainId) : Bool := event.links.any (·.chain = chain)

theorem joins_iff {event : Event} {chain : ChainId} :
    event.joins chain = true ↔ ∃ link ∈ event.links, link.chain = chain := by
  simp only [joins, List.any_eq_true, decide_eq_true_eq]

theorem isSome_linkIn (event : Event) (chain : ChainId) :
    (event.linkIn chain).isSome = event.joins chain := by
  rw [Bool.eq_iff_iff, joins_iff, linkIn, List.find?_isSome]
  simp only [decide_eq_true_eq]

theorem chain_of_linkIn {event : Event} {chain : ChainId} {link : ChainLink}
    (first : event.linkIn chain = some link) : link.chain = chain := by
  simpa using List.find?_some first

theorem membersIn_eq_nil_iff {event : Event} {chain : ChainId} :
    event.membersIn chain = [] ↔ event.joins chain = false := by
  simp only [membersIn, List.map_eq_nil_iff, List.filter_eq_nil_iff, joins, List.any_eq_false]

theorem membersIn_eq_firstIn {event : Event} (distinct : (event.links.map (·.chain)).Nodup)
    (chain : ChainId) : event.membersIn chain = (event.firstIn chain).toList := by
  unfold membersIn firstIn linkIn
  revert distinct
  induction event.links with
  | nil => exact fun _ => rfl
  | cons link rest ih =>
      intro distinct
      rw [List.map_cons, List.nodup_cons] at distinct
      by_cases named : link.chain = chain
      · subst named
        have others : rest.filter (·.chain = link.chain) = [] := by
          apply List.filter_eq_nil_iff.mpr
          intro other member same
          exact distinct.1 (List.mem_map.mpr ⟨other, member, of_decide_eq_true same⟩)
        simp [others]
      · simpa [List.filter_cons, List.find?_cons, named] using ih distinct.2

end Event

def spineMembers (events : List Event) : List (Member Digest) := events.map Event.spineMember

/-- Every link an event list carries for a chain, in order. -/
def chainMembers (chain : ChainId) (events : List Event) : List (Member Digest) :=
  events.flatMap (·.membersIn chain)

/-- The first link of every event for a chain, in order. -/
def firstMembers (chain : ChainId) (events : List Event) : List (Member Digest) :=
  events.filterMap (·.firstIn chain)

theorem chainMembers_eq_firstMembers {events : List Event}
    (distinct : ∀ event ∈ events, (event.links.map (·.chain)).Nodup) (chain : ChainId) :
    chainMembers chain events = firstMembers chain events := by
  unfold chainMembers firstMembers
  induction events with
  | nil => rfl
  | cons event rest ih =>
      rw [List.flatMap_cons, List.filterMap_cons,
        Event.membersIn_eq_firstIn (distinct event List.mem_cons_self),
        ih fun other member => distinct other (List.mem_cons_of_mem _ member)]
      cases event.firstIn chain <;> rfl

theorem length_firstMembers (chain : ChainId) (events : List Event) :
    (firstMembers chain events).length = (events.filter (·.joins chain)).length := by
  induction events with
  | nil => rfl
  | cons event rest ih =>
      have membership := event.isSome_linkIn chain
      unfold firstMembers at ih ⊢
      cases first : event.linkIn chain with
      | none =>
          rw [first, Option.isSome_none] at membership
          simpa [Event.firstIn, first, ← membership] using ih
      | some link =>
          rw [first, Option.isSome_some] at membership
          simpa [Event.firstIn, first, ← membership] using ih

@[simp] theorem chainMembers_append (chain : ChainId) (first second : List Event) :
    chainMembers chain (first ++ second) = chainMembers chain first ++ chainMembers chain second :=
  List.flatMap_append

@[simp] theorem firstMembers_append (chain : ChainId) (first second : List Event) :
    firstMembers chain (first ++ second) = firstMembers chain first ++ firstMembers chain second :=
  List.filterMap_append

end Chancela
