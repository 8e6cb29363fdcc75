import Chancela.Crates.Reference
import Chancela.Ledger.Append

/-! # The head commits to the history

The hash preimage of an event can be read back: fixed-width fields, texts closed by
a separator they do not contain, and a sorted run of link records
(`Chancela.Event.preimage_inj`). Where SHA-256 separates the preimages of two
verified logs, equal heads therefore mean equal histories.
-/

namespace Chancela

open HashChain Framing

def SeparatorFree (text : String) : Prop := fieldSep ∉ Text.utf8 text

instance (text : String) : Decidable (SeparatorFree text) :=
  inferInstanceAs (Decidable (¬_ ∈ _))

/-- A link whose chain text holds no separator and whose position is a `u64`. -/
def ChainLink.Framed (link : ChainLink) : Prop :=
  SeparatorFree link.chain.canonical ∧ link.seq < 2 ^ 64

instance (link : ChainLink) : Decidable link.Framed := inferInstanceAs (Decidable (_ ∧ _))

/-- Eight bytes determine a `u64`. -/
theorem toBeBytes_splits {α : Type} (number : α → Nat) :
    Splits {value | number value < 2 ^ 64} number fun value => toBeBytes (number value) :=
  Splits.of_fixedWidth 8 (fun _ _ => length_bigEndian 8 _)
    (fun _ fits _ fits' same => bigEndian_inj fits fits' same)

theorem digest_splits {α : Type} (domain : Set α) (digest : α → Digest) :
    Splits domain digest fun value => (digest value).toList :=
  Splits.of_fixedWidth 32 (fun _ _ => length_digest _)
    (fun _ _ _ _ same => Vector.toList_inj.mp same)

theorem text_splits {α : Type} (text : α → String) :
    Splits {value | SeparatorFree (text value)} text
      fun value => Text.utf8 (text value) ++ [fieldSep] :=
  Splits.of_delimited fieldSep (fun _ free => free)
    (fun _ _ _ _ same => Text.utf8_injective same)

theorem linkBytes_splits : Splits {link | ChainLink.Framed link} id linkBytes := by
  have parts := ((text_splits fun link : ChainLink => link.chain.canonical).mono
      (fun _ framed => framed.1)).append
    (((toBeBytes_splits ChainLink.seq).mono fun _ framed => framed.2).append
      ((digest_splits {link | ChainLink.Framed link} ChainLink.prevHash).append
        (Splits.const _ [recordSep])))
  intro first framed second framed' rest rest' same
  obtain ⟨views, rests⟩ := parts first framed second framed' rest rest' same
  simp only [Prod.mk.injEq, and_true] at views
  obtain ⟨chains, positions, links⟩ := views
  refine ⟨?_, rests⟩
  cases first
  cases second
  simp only [id_eq, ChainLink.mk.injEq]
  exact ⟨ChainId.canonical_injective chains, positions, links⟩

theorem links_perm {left right : List ChainLink} (leftFramed : ∀ link ∈ left, link.Framed)
    (rightFramed : ∀ link ∈ right, link.Framed)
    (same : (sortLinks left).flatMap linkBytes = (sortLinks right).flatMap linkBytes) :
    left.Perm right := by
  have sorted := linkBytes_splits.flatMap (fun link _ => by simp [linkBytes])
    (fun link member => leftFramed link ((List.mem_insertionSort _).mp member))
    (fun link member => rightFramed link ((List.mem_insertionSort _).mp member)) same
  rw [List.map_id, List.map_id] at sorted
  have leftSorted : (sortLinks left).Perm left := List.perm_insertionSort _ _
  have rightSorted : (sortLinks right).Perm right := List.perm_insertionSort _ _
  have middle : sortLinks left = sortLinks right := sorted
  rw [middle] at leftSorted
  exact leftSorted.symm.trans rightSorted

section Framed

variable [Crates]

/-- An event whose texts hold no separator, whose timestamp RFC 3339 expresses and
whose positions are `u64`s. -/
structure Event.Framed (event : Event) : Prop where
  actor : SeparatorFree event.actor
  scope : SeparatorFree event.scope
  kind : SeparatorFree event.kind
  links : ∀ link ∈ event.links, link.Framed
  timestamp : (formatRfc3339 event.timestamp).isSome = true
  seq : event.seq < 2 ^ 64

/-- Two events with the same content and linkage: every field but identity and
justification, the links in any order. -/
structure Event.SameRecord (first second : Event) : Prop where
  seq : first.seq = second.seq
  actor : first.actor = second.actor
  scope : first.scope = second.scope
  kind : first.kind = second.kind
  timestamp : formatRfc3339 first.timestamp = formatRfc3339 second.timestamp
  payloadDigest : first.payloadDigest = second.payloadDigest
  prevHash : first.prevHash = second.prevHash
  links : first.links.Perm second.links
  hash : first.hash = second.hash

theorem timestampText_of_isSome {instant : OffsetDateTime}
    (formats : (formatRfc3339 instant).isSome = true) :
    formatRfc3339 instant = some (timestampText instant) := by
  obtain ⟨text, formatted⟩ := Option.isSome_iff_exists.mp formats
  rw [timestampText, formatted]
  rfl

/-- **The preimage is unambiguous.** Framed events with the same preimage agree on
every hashed field. -/
theorem Event.preimage_inj {first second : Event} (framed : first.Framed)
    (framed' : second.Framed)
    (same : first.preimage first.prevHash = second.preimage second.prevHash) :
    first.prevHash = second.prevHash ∧ first.seq = second.seq ∧ first.actor = second.actor ∧
      first.scope = second.scope ∧ first.kind = second.kind ∧
        formatRfc3339 first.timestamp = formatRfc3339 second.timestamp ∧
          first.payloadDigest = second.payloadDigest ∧ first.links.Perm second.links := by
  have instants : ∀ event : Event, event.Framed → SeparatorFree (timestampText event.timestamp) :=
    fun event framed => not_mem_utf8_rfc3339 (timestampText_of_isSome framed.timestamp) (by decide)
  unfold Event.preimage Chancela.preimage at same
  -- The fields are taken off the front one by one.
  obtain ⟨prevHash, same⟩ :=
    digest_splits {event | Event.Framed event} Event.prevHash first framed second framed' _ _ same
  obtain ⟨seq, same⟩ := toBeBytes_splits Event.seq first framed.seq second framed'.seq _ _ same
  obtain ⟨actor, same⟩ := text_splits Event.actor first framed.actor second framed'.actor _ _ same
  obtain ⟨scope, same⟩ := text_splits Event.scope first framed.scope second framed'.scope _ _ same
  obtain ⟨kind, same⟩ := text_splits Event.kind first framed.kind second framed'.kind _ _ same
  obtain ⟨instant, same⟩ := text_splits (fun event : Event => timestampText event.timestamp)
    first (instants first framed) second (instants second framed') _ _ same
  obtain ⟨payloadDigest, same⟩ := digest_splits {event | Event.Framed event} Event.payloadDigest
    first framed second framed' _ _ same
  obtain ⟨-, same⟩ := Splits.const {event | Event.Framed event} [recordSep]
    first framed second framed' _ _ same
  refine ⟨prevHash, seq, actor, scope, kind, ?_, payloadDigest,
    links_perm framed.links framed'.links same⟩
  rw [timestampText_of_isSome framed.timestamp, timestampText_of_isSome framed'.timestamp]
  exact congrArg some instant

theorem Event.sameRecord_of_hash {first second : Event} (framed : first.Framed)
    (framed' : second.Framed) (hashed : first.SelfHashed) (hashed' : second.SelfHashed)
    (injective : sha256 (first.preimage first.prevHash) = sha256 (second.preimage second.prevHash) →
      first.preimage first.prevHash = second.preimage second.prevHash)
    (same : first.hash = second.hash) : first.SameRecord second := by
  have digests : sha256 (first.preimage first.prevHash) =
      sha256 (second.preimage second.prevHash) :=
    (hashed.trans same).trans hashed'.symm
  obtain ⟨prevHash, seq, actor, scope, kind, timestamp, payloadDigest, links⟩ :=
    Event.preimage_inj framed framed' (injective digests)
  exact ⟨seq, actor, scope, kind, timestamp, payloadDigest, prevHash, links, same⟩

def preimages (events : List Event) : Set (List UInt8) :=
  {bytes | ∃ event ∈ events, event.preimage event.prevHash = bytes}

/-- **Tamper evidence.** Two verified logs with the same head, over whose preimages
SHA-256 is injective, hold the same records in the same order. -/
theorem Ledger.sameRecords_of_head_eq (left right : List Event)
    (leftFramed : ∀ event ∈ left, event.Framed) (rightFramed : ∀ event ∈ right, event.Framed)
    (injective : Set.InjOn sha256 (preimages left ∪ preimages right))
    (leftVerified : ∃ total, verify ⟨left⟩ = .ok total)
    (rightVerified : ∃ total, verify ⟨right⟩ = .ok total)
    (heads : head ⟨left⟩ = head ⟨right⟩) :
    left.length = right.length ∧ List.Forall₂ Event.SameRecord left right := by
  obtain ⟨_, leftOk⟩ := leftVerified
  obtain ⟨_, rightOk⟩ := rightVerified
  obtain ⟨-, ⟨leftHashed, leftLinked⟩, -⟩ := verify_eq_ok_iff.mp leftOk
  obtain ⟨-, ⟨rightHashed, rightLinked⟩, -⟩ := verify_eq_ok_iff.mp rightOk
  have same : ∀ first ∈ left, ∀ second ∈ right, first.hash = second.hash →
      first.SameRecord second := by
    intro first member second member' hashes
    refine Event.sameRecord_of_hash (leftFramed first member) (rightFramed second member')
      (leftHashed first member) (rightHashed second member') (fun digests => ?_) hashes
    exact injective (.inl ⟨first, member, rfl⟩) (.inr ⟨second, member', rfl⟩) digests
  have hashes : left.map Event.hash = right.map Event.hash := by
    have spines : (spineMembers left).map Member.hash = (spineMembers right).map Member.hash := ?_
    · rw [spineMembers, spineMembers, List.map_map, List.map_map] at spines
      exact spines
    refine Linked.hashes_eq ?_ leftLinked rightLinked ?_
    · intro first member second member' hash
      obtain ⟨event, inside, rfl⟩ := List.mem_map.mp member
      obtain ⟨event', inside', rfl⟩ := List.mem_map.mp member'
      have record := same event inside event' inside' hash
      exact ⟨record.seq, record.prevHash⟩
    · simp only [spineMembers, List.getLast?_map, Option.map_map]
      exact heads
  have pointwise : List.Forall₂ Event.SameRecord left right := by
    clear leftFramed rightFramed injective leftOk rightOk leftHashed rightHashed leftLinked
      rightLinked heads
    induction left generalizing right with
    | nil =>
        cases right with
        | nil => exact .nil
        | cons event rest => cases hashes
    | cons event rest ih =>
        cases right with
        | nil => cases hashes
        | cons event' rest' =>
            obtain ⟨first, others⟩ := List.cons.inj hashes
            exact .cons (same event List.mem_cons_self event' List.mem_cons_self first)
              (ih rest' (fun one member other member' =>
                same one (List.mem_cons_of_mem _ member) other (List.mem_cons_of_mem _ member'))
                others)
  exact ⟨pointwise.length_eq, pointwise⟩

end Framed

section Runs

open scoped Reference

/-- A log of one event, with the given identity and justification. -/
def settingsLog (id : Uuid) (justification : Option String) : List Event :=
  (Ledger.new.appendAt { settingsCall with id := id, justification := justification }).events

theorem settingsLog_threaded (id : Uuid) (justification : Option String) :
    Threaded (settingsLog id justification) := by
  rw [settingsLog, Ledger.events_appendAt]
  apply Threaded.nil.extend
  intro chain joined _
  have only : memberships "settings" "settings.updated" = [.application] := by decide +kernel
  have named : chain ∈ memberships "settings" "settings.updated" := joined
  rw [only, List.mem_singleton] at named
  rw [named]
  rfl

theorem settingsLog_framed (id : Uuid) (justification : Option String) :
    ∀ event ∈ settingsLog id justification, event.Framed := by
  intro event member
  rw [List.mem_singleton.mp member]
  refine ⟨?_, ?_, ?_, ?_, ?_, ?_⟩
  · change SeparatorFree "amelia"
    decide +kernel
  · change SeparatorFree "settings"
    decide +kernel
  · change SeparatorFree "settings.updated"
    decide +kernel
  · have framed : ∀ link ∈ nextLinks Ledger.new.chainHeads "settings" "settings.updated",
        link.Framed := by
      decide +kernel
    rw [Ledger.links_appendedEvent]
    exact framed
  · change (formatRfc3339 settingsCall.timestamp).isSome = true
    decide +kernel
  · change 0 < 2 ^ 64
    decide

/-- Two logs that differ in an identity and a justification share their head and
their records. -/
theorem Ledger.sameRecords_of_head_eq_settingsLog :
    settingsLog ⟨1#128⟩ none ≠ settingsLog ⟨2#128⟩ (some "import") ∧
      List.Forall₂ Event.SameRecord (settingsLog ⟨1#128⟩ none)
        (settingsLog ⟨2#128⟩ (some "import")) := by
  constructor
  · intro same
    have ids : (⟨1#128⟩ : Uuid) = ⟨2#128⟩ := congrArg Event.id (List.cons.inj same).1
    exact absurd ids (by decide)
  · refine (sameRecords_of_head_eq (settingsLog ⟨1#128⟩ none)
      (settingsLog ⟨2#128⟩ (some "import")) (settingsLog_framed _ _) (settingsLog_framed _ _) ?_
      ⟨_, (settingsLog_threaded _ _).verify_eq⟩ ⟨_, (settingsLog_threaded _ _).verify_eq⟩ rfl).2
    -- Both logs have the same single preimage.
    rintro first member second member' -
    obtain ⟨event, inside, rfl⟩ | ⟨event, inside, rfl⟩ := member <;>
      obtain ⟨event', inside', rfl⟩ | ⟨event', inside', rfl⟩ := member' <;>
      rw [List.mem_singleton.mp inside, List.mem_singleton.mp inside'] <;> rfl

end Runs

end Chancela
