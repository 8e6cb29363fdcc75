import Chancela.Foundation.OrderedMap
import Chancela.Ledger.Append

/-! # Re-anchoring

`reanchor` rebuilds the linkage and the hash of every event of a broken log from its
content and appends an event that discloses the rebuild. The rebuilt log is what
appending the same contents one after the other would have written
(`Chancela.rebuild_eq_foldl`), so it verifies exactly when the content respects the
genesis kinds (`Chancela.verify_reanchored_iff`).
-/

namespace Chancela

open HashChain Outcome

/-- Why `reanchor` refuses. -/
inductive ReanchorError where
  | alreadyValid
  | emptyReason
  | verificationFailed (error : LedgerError)
deriving DecidableEq, Repr

instance : Serialize ChainId := ⟨fun chain => some (.str chain.canonical)⟩

instance : Serialize ReanchorSegment where
  serialize segment := Json.struct [
    Json.field "chain" segment.chain,
    Json.field "from_chain_seq" segment.fromChainSeq,
    Json.field "to_chain_seq" segment.toChainSeq]

/-- The links of the rebuilt events whose hash is not the one they had before. -/
def changedLinks (oldHashes : List Digest) (events : List Event) : List ChainLink :=
  events.zipIdx.flatMap fun indexed =>
    if oldHashes[indexed.2]? = some indexed.1.hash then [] else indexed.1.links

/-- The chains with a changed member and the chain positions the changes span. -/
def affectedSegments (oldHashes : List Digest) (events : List Event) : List ReanchorSegment :=
  (OrderedMap.ranges ((changedLinks oldHashes events).map fun link => (link.chain, link.seq))).map
    fun entry => ⟨entry.1, entry.2.1, entry.2.2⟩

section Rebuild

variable [Crates]

/-- The rebuild loop of `reanchor`. -/
def rebuildEvents : Nat → Digest → (ChainId → Tip Digest) → List Event → List Event
  | _, _, _, [] => []
  | index, globalPrev, heads, event :: rest =>
      let rebuilt := thread index globalPrev heads event
      rebuilt :: rebuildEvents (index + 1) rebuilt.hash
        (recordLinks heads rebuilt.hash rebuilt.links) rest

def rebuild (events : List Event) : List Event := rebuildEvents 0 zeroDigest (fun _ => none) events

instance : Serialize ReanchorRecord where
  serialize record := Json.struct [
    Json.field "actor" record.actor,
    Json.field "at" record.at_,
    Json.field "reason" record.reason,
    Json.field "affected" record.affected,
    Json.field "original_global_head" record.originalGlobalHead,
    Json.field "new_global_head" record.newGlobalHead,
    Json.field "pre_reanchor_digest" record.preReanchorDigest]

/-- `serde_json::to_string` of a record; an instant RFC 3339 cannot express in its
`at` field is an error. -/
def ReanchorRecord.toText (record : ReanchorRecord) : Option String :=
  (serialize record).map jsonToString

namespace Ledger

/-- The record of a rebuild that ends in the given head. -/
def reanchorRecord (ledger : Ledger) (actor reason : String) (at_ : OffsetDateTime)
    (newGlobalHead : Digest) : ReanchorRecord where
  actor := actor
  at_ := at_
  reason := reason
  affected := affectedSegments (ledger.events.map (·.hash)) (rebuild ledger.events)
  originalGlobalHead := ledger.head
  newGlobalHead := newGlobalHead
  preReanchorDigest := sha256 ((ledger.events.map (·.hash)).flatMap (·.toList))

/-- The disclosure `reanchor` appends. -/
def disclosure (actor : String) (at_ : OffsetDateTime) (json : String) (id : Uuid) :
    AppendCall where
  actor := actor
  scope := recoveryScope
  kind := reanchorEventKind
  justification := some json
  payload := Text.utf8 json
  id := id
  timestamp := at_

/-- `Ledger::reanchor`: the outcome and the ledger after the call, with the identity
the disclosure draws. No outcome is a panic: the rebuilt log has no head, or the
record does not serialize. -/
def reanchor (ledger : Ledger) (actor reason : String) (at_ : OffsetDateTime) (id : Uuid) :
    Option (Except ReanchorError ReanchorRecord) × Ledger :=
  if Text.isBlank reason then (some (.error .emptyReason), ledger)
  else match ledger.verify with
    | .ok _ => (some (.error .alreadyValid), ledger)
    | .error _ =>
        let rebuilt : Ledger := ⟨rebuild ledger.events⟩
        match rebuilt.head with
        | none => (none, rebuilt)
        | some newGlobalHead =>
            let record := ledger.reanchorRecord actor reason at_ newGlobalHead
            match record.toText with
            | none => (none, rebuilt)
            | some json =>
                let appended := rebuilt.appendAt (disclosure actor at_ json id)
                match appended.verify with
                | .ok _ => (some (.ok record), appended)
                | .error fault => (some (.error (.verificationFailed fault)), appended)

end Ledger

/-- The first event to join a chain has the kind the chain requires. -/
def GenesisKindsRespected (events : List Event) : Prop :=
  ∀ chain first,
    events.find? (fun event => decide (chain ∈ memberships event.scope event.kind)) = some first →
      chain.founds first.kind = true

theorem rebuildEvents_eq (events done : List Event) :
    done ++ rebuildEvents done.length (globalPrev done) (Ledger.chainHeads ⟨done⟩) events =
      events.foldl extend done := by
  induction events generalizing done with
  | nil => exact List.append_nil _
  | cons event rest ih =>
      rw [List.foldl_cons, ← ih (extend done event)]
      have heads : Ledger.chainHeads ⟨extend done event⟩ =
          recordLinks (Ledger.chainHeads ⟨done⟩)
            (thread done.length (globalPrev done) (Ledger.chainHeads ⟨done⟩) event).hash
            (thread done.length (globalPrev done) (Ledger.chainHeads ⟨done⟩) event).links := by
        simp only [Ledger.chainHeads, extend, List.foldl_append, List.foldl_cons, List.foldl_nil]
      have length : (extend done event).length = done.length + 1 := by
        simp [extend]
      have last : globalPrev (extend done event) =
          (thread done.length (globalPrev done) (Ledger.chainHeads ⟨done⟩) event).hash :=
        globalPrev_concat _ _
      rw [heads, length, last, rebuildEvents]
      conv_rhs => rw [extend, List.append_assoc, List.singleton_append]

theorem rebuild_eq_foldl (events : List Event) : rebuild events = events.foldl extend [] :=
  rebuildEvents_eq events []

/-- Events with the same content; linkage and hash may differ. -/
structure Event.SameContent (first second : Event) : Prop where
  id : first.id = second.id
  actor : first.actor = second.actor
  scope : first.scope = second.scope
  kind : first.kind = second.kind
  timestamp : first.timestamp = second.timestamp
  justification : first.justification = second.justification
  payloadDigest : first.payloadDigest = second.payloadDigest

theorem rebuildEvents_sameContent (events : List Event) (index : Nat) (globalPrev : Digest)
    (heads : ChainId → Tip Digest) :
    List.Forall₂ Event.SameContent events (rebuildEvents index globalPrev heads events) := by
  induction events generalizing index globalPrev heads with
  | nil => exact .nil
  | cons event rest ih => exact .cons ⟨rfl, rfl, rfl, rfl, rfl, rfl, rfl⟩ (ih ..)

theorem spineSound_foldl_extend {done : List Event} (sound : SpineSound done)
    (events : List Event) : SpineSound (events.foldl extend done) := by
  induction events generalizing done with
  | nil => exact sound
  | cons event rest ih => exact ih (spineSound_extend sound event)

theorem chains_foldl_extend {done : List Event}
    (chains : ∀ event ∈ done, event.links.map (·.chain) = memberships event.scope event.kind)
    (events : List Event) :
    ∀ event ∈ events.foldl extend done,
      event.links.map (·.chain) = memberships event.scope event.kind := by
  induction events generalizing done with
  | nil => exact chains
  | cons event rest ih =>
      apply ih
      intro other member
      rcases List.mem_append.mp member with earlier | last
      · exact chains other earlier
      · rw [List.mem_singleton.mp last]
        exact chains_thread

theorem linked_foldl_extend_iff {chain : ChainId} {events done : List Event} :
    Linked zeroDigest none (chainMembers chain (events.foldl extend done)) ↔
      Linked zeroDigest none (chainMembers chain done) ∧
        (chainMembers chain done = [] → ∀ first,
          events.find? (fun event => decide (chain ∈ memberships event.scope event.kind)) =
            some first → chain.founds first.kind = true) := by
  induction events generalizing done with
  | nil => simp
  | cons event rest ih =>
      have members : chainMembers chain (extend done event) = chainMembers chain done ++
          (thread done.length (globalPrev done) (Ledger.chainHeads ⟨done⟩) event).membersIn
            chain := by
        rw [extend, chainMembers_append]
        simp [chainMembers]
      rw [membersIn_thread] at members
      rw [List.foldl_cons, ih, linked_extend_iff, members, List.find?_cons]
      by_cases joined : chain ∈ memberships event.scope event.kind
      · simp only [joined, if_true, decide_true, Option.some.injEq, forall_eq', true_implies,
          List.append_eq_nil_iff, List.cons_ne_nil, and_false, false_implies, and_true]
      · simp only [joined, if_false, decide_false, List.append_nil, false_implies, and_true]

theorem memberships_recovery (kind : String) : memberships recoveryScope kind = [.application] := by
  have notUuid : parseUuid recoveryScope = false := by
    rw [← Bool.not_eq_true]
    intro parsed
    have lengths := Crates.parseUuid_length recoveryScope parsed
    revert lengths
    decide
  have tenant : segmentValue recoveryScope "tenant:" = none := by decide
  have entity : segmentValue recoveryScope "entity:" = none := by decide
  have book : segmentValue recoveryScope "book:" = none := by decide
  rw [memberships, unsortedMemberships, tenant, entity, book]
  simp [notUuid]

/-- **A re-anchored log verifies** exactly when its content respects the genesis
kinds; the disclosure founds no chain that requires one. -/
theorem verify_reanchored_iff (events : List Event) (actor : String) (at_ : OffsetDateTime)
    (json : String) (id : Uuid) :
    (∃ total, (Ledger.appendAt ⟨rebuild events⟩ (Ledger.disclosure actor at_ json id)).verify =
        .ok total) ↔ GenesisKindsRespected events := by
  have spine : SpineSound (rebuild events) := by
    rw [rebuild_eq_foldl]
    exact spineSound_foldl_extend Threaded.nil.spine events
  simp only [Ledger.verify_eq_ok_iff, exists_eq_left, Ledger.events_appendAt]
  rw [and_iff_right (spineSound_extend spine _)]
  apply forall_congr'
  intro chain
  have disclosed : chain ∈ memberships recoveryScope reanchorEventKind →
      chain.founds reanchorEventKind = true := by
    rw [memberships_recovery, List.mem_singleton]
    rintro rfl
    rfl
  rw [linked_extend_iff, rebuild_eq_foldl, linked_foldl_extend_iff]
  constructor
  · rintro ⟨⟨-, founding⟩, -⟩
    exact founding rfl
  · intro respected
    exact ⟨⟨linked_nil _ _, fun _ => respected⟩, fun joined _ => disclosed joined⟩

theorem threaded_reanchored {events : List Event} (respected : GenesisKindsRespected events)
    (actor : String) (at_ : OffsetDateTime) (json : String) (id : Uuid) :
    Threaded (Ledger.appendAt ⟨rebuild events⟩ (Ledger.disclosure actor at_ json id)).events := by
  obtain ⟨total, verified⟩ := (verify_reanchored_iff events actor at_ json id).mpr respected
  obtain ⟨-, spine, linked⟩ := Ledger.verify_eq_ok_iff.mp verified
  refine ⟨spine, linked, fun event member => ?_⟩
  have none : ∀ event ∈ ([] : List Event),
      event.links.map (·.chain) = memberships event.scope event.kind :=
    fun _ absent => (by cases absent)
  rw [Ledger.events_appendAt] at member
  rcases List.mem_append.mp member with earlier | last
  · rw [rebuild_eq_foldl] at earlier
    exact chains_foldl_extend none events event earlier
  · rw [List.mem_singleton.mp last]
    exact chains_thread

theorem length_rebuild (events : List Event) : (rebuild events).length = events.length :=
  (rebuildEvents_sameContent events 0 zeroDigest fun _ => none).length_eq.symm

/-- The positions in a chain of the members whose hash a rebuild changed. -/
def ChangedSeqs (before after : List Event) (chain : ChainId) : Set Nat :=
  {seq | ∃ (index : Nat) (old new : Event), before[index]? = some old ∧
    after[index]? = some new ∧ old.hash ≠ new.hash ∧
      ∃ link ∈ new.links, link.chain = chain ∧ link.seq = seq}

omit [Crates] in
theorem valuesAt_changedLinks {before after : List Event} (lengths : after.length = before.length)
    (chain : ChainId) :
    OrderedMap.valuesAt ((changedLinks (before.map (·.hash)) after).map
        fun link => (link.chain, link.seq)) chain = ChangedSeqs before after chain := by
  ext seq
  simp only [OrderedMap.valuesAt, changedLinks, ChangedSeqs, Set.mem_ofPred_eq, List.mem_map,
    List.mem_flatMap, Prod.mk.injEq]
  constructor
  · rintro ⟨link, ⟨⟨new, index⟩, inside, carried⟩, named, position⟩
    have found : after[index]? = some new := List.mem_zipIdx_iff_getElem?.mp inside
    split at carried
    · cases carried
    · next changed =>
        have bound : index < before.length := by
          rw [← lengths]
          exact (List.getElem?_eq_some_iff.mp found).1
        have present : before[index]? = some before[index] := List.getElem?_eq_getElem bound
        refine ⟨index, before[index], new, present, found, fun same => changed ?_,
          link, carried, named, position⟩
        rw [List.getElem?_map, present, Option.map_some, same]
  · rintro ⟨index, old, new, present, found, changed, link, carried, named, position⟩
    refine ⟨link, ⟨(new, index), List.mem_zipIdx_iff_getElem?.mpr found, ?_⟩, named, position⟩
    rw [List.getElem?_map, present, Option.map_some, if_neg]
    · exact carried
    · exact fun same => changed (Option.some.inj same)

omit [Crates] in
theorem mem_affectedSegments_iff {before after : List Event}
    (lengths : after.length = before.length) {segment : ReanchorSegment} :
    segment ∈ affectedSegments (before.map (·.hash)) after ↔
      IsLeast (ChangedSeqs before after segment.chain) segment.fromChainSeq ∧
        IsGreatest (ChangedSeqs before after segment.chain) segment.toChainSeq := by
  have entries : segment ∈ affectedSegments (before.map (·.hash)) after ↔
      (segment.chain, segment.fromChainSeq, segment.toChainSeq) ∈
        OrderedMap.ranges ((changedLinks (before.map (·.hash)) after).map
          fun link => (link.chain, link.seq)) := by
    simp only [affectedSegments, List.mem_map]
    constructor
    · rintro ⟨⟨chain, least, greatest⟩, inside, rfl⟩
      exact inside
    · intro inside
      exact ⟨_, inside, rfl⟩
  rw [entries, OrderedMap.mem_iff_lookup (OrderedMap.sorted_ranges _),
    OrderedMap.lookup_ranges_eq_some_iff, valuesAt_changedLinks lengths]

omit [Crates] in
theorem affectedSegments_nodup (oldHashes : List Digest) (events : List Event) :
    ((affectedSegments oldHashes events).map (·.chain)).Nodup := by
  rw [affectedSegments, List.map_map]
  exact List.pairwise_map.mpr ((OrderedMap.sorted_ranges _).imp fun below => below.ne)

omit [Crates] in
theorem changedSeqs_append {before rebuilt : List Event} (lengths : rebuilt.length = before.length)
    (later : List Event) (chain : ChainId) :
    ChangedSeqs before (rebuilt ++ later) chain = ChangedSeqs before rebuilt chain := by
  ext seq
  simp only [ChangedSeqs, Set.mem_ofPred_eq]
  refine exists_congr fun index => exists_congr fun old => exists_congr fun new =>
    and_congr_right fun present => ?_
  have bound : index < rebuilt.length := by
    rw [lengths]
    exact (List.getElem?_eq_some_iff.mp present).1
  rw [List.getElem?_append_left bound]

theorem ReanchorRecord.toText_eq_none_iff {record : ReanchorRecord} :
    record.toText = none ↔ formatRfc3339 record.at_ = none := by
  rw [toText, Option.map_eq_none_iff]
  show Json.struct _ = none ↔ _
  cases record.originalGlobalHead <;>
    simp [Json.struct_eq_none_iff, Json.field, serialize, serializeItems_eq_none_iff]

theorem Ledger.exists_head_rebuild {ledger : Ledger}
    (broken : ∀ total, ledger.verify ≠ .ok total) :
    ∃ newGlobalHead, head ⟨rebuild ledger.events⟩ = some newGlobalHead := by
  have occupied : ledger.events ≠ [] := by
    intro empty
    apply broken 0
    apply verify_eq_ok_iff.mpr
    rw [empty]
    exact ⟨rfl, Threaded.nil.spine, Threaded.nil.linked⟩
  have rebuilt : rebuild ledger.events ≠ [] := by
    rw [← List.length_pos_iff, length_rebuild, List.length_pos_iff]
    exact occupied
  rw [head, List.getLast?_eq_getLast_of_ne_nil rebuilt]
  exact ⟨_, rfl⟩

section BrokenLog

variable {ledger : Ledger} {actor reason : String} {at_ : OffsetDateTime} (id : Uuid)
  {newGlobalHead : Digest} {json : String} (reasoned : Text.isBlank reason = false)
  (broken : ∀ total, ledger.verify ≠ .ok total)
  (headIs : Ledger.head ⟨rebuild ledger.events⟩ = some newGlobalHead)

include reasoned broken headIs

/-- **The call on a broken log**: a rebuild, a disclosure and a last verification. -/
theorem Ledger.reanchor_of_broken
    (written : (ledger.reanchorRecord actor reason at_ newGlobalHead).toText = some json) :
    ledger.reanchor actor reason at_ id =
      (match (appendAt ⟨rebuild ledger.events⟩ (disclosure actor at_ json id)).verify with
        | .ok _ => some (.ok (ledger.reanchorRecord actor reason at_ newGlobalHead))
        | .error fault => some (.error (.verificationFailed fault)),
      appendAt ⟨rebuild ledger.events⟩ (disclosure actor at_ json id)) := by
  rw [reanchor, if_neg (by rw [reasoned]; exact Bool.false_ne_true)]
  cases outcome : ledger.verify with
  | ok total => exact (broken total outcome).elim
  | error fault =>
      simp only [headIs, written]
      split <;> rfl

theorem Ledger.reanchor_of_unwritten
    (unwritten : (ledger.reanchorRecord actor reason at_ newGlobalHead).toText = none) :
    ledger.reanchor actor reason at_ id = (none, ⟨rebuild ledger.events⟩) := by
  rw [reanchor, if_neg (by rw [reasoned]; exact Bool.false_ne_true)]
  cases outcome : ledger.verify with
  | ok total => exact (broken total outcome).elim
  | error fault => simp only [headIs, unwritten]

theorem Ledger.reanchor_of_respected
    (written : (ledger.reanchorRecord actor reason at_ newGlobalHead).toText = some json)
    (respected : GenesisKindsRespected ledger.events) :
    ledger.reanchor actor reason at_ id =
      (some (.ok (ledger.reanchorRecord actor reason at_ newGlobalHead)),
        appendAt ⟨rebuild ledger.events⟩ (disclosure actor at_ json id)) := by
  obtain ⟨total, verified⟩ :=
    (verify_reanchored_iff ledger.events actor at_ json id).mpr respected
  rw [reanchor_of_broken id reasoned broken headIs written, verified]

theorem Ledger.reanchor_of_not_respected
    (written : (ledger.reanchorRecord actor reason at_ newGlobalHead).toText = some json)
    (wrong : ¬GenesisKindsRespected ledger.events) :
    ∃ fault, (ledger.reanchor actor reason at_ id).1 = some (.error (.verificationFailed fault)) ∧
      (ledger.reanchor actor reason at_ id).2.events.length = ledger.events.length + 1 := by
  rw [reanchor_of_broken id reasoned broken headIs written]
  cases outcome : (appendAt ⟨rebuild ledger.events⟩ (disclosure actor at_ json id)).verify with
  | ok total =>
      exact (wrong
        ((verify_reanchored_iff ledger.events actor at_ json id).mp ⟨total, outcome⟩)).elim
  | error fault =>
      refine ⟨fault, rfl, ?_⟩
      rw [appendAt, List.length_append, length_rebuild, List.length_singleton]

end BrokenLog

/-- The record serializes and its text parses back to it. -/
def ReanchorRecord.RoundTrips [RecordParser] (record : ReanchorRecord) : Prop :=
  ∃ json, record.toText = some json ∧ parseRecord json = some record

/-- What a re-anchored ledger owes to the log it was rebuilt from. -/
structure Repaired [RecordParser] (before : List Event) (record : ReanchorRecord)
    (after : Ledger) : Prop where
  length : after.events.length = before.length + 1
  verified : after.verify = .ok (before.length + 1)
  healthy : after.integrityReport.healthy = true
  content : ∃ rebuilt disclosure, after.events = rebuilt ++ [disclosure] ∧
    List.Forall₂ Event.SameContent before rebuilt ∧
      disclosure.kind = reanchorEventKind ∧ disclosure.scope = recoveryScope
  disclosed : after.reanchoredSegments.getLast? = some record
  affected : ∀ segment, segment ∈ record.affected ↔
    IsLeast (ChangedSeqs before after.events segment.chain) segment.fromChainSeq ∧
      IsGreatest (ChangedSeqs before after.events segment.chain) segment.toChainSeq
  namedOnce : (record.affected.map (·.chain)).Nodup

theorem Ledger.reanchoredSegments_disclosure [RecordParser] {rebuilt : Ledger} {actor json : String}
    {at_ : OffsetDateTime} {id : Uuid} {record : ReanchorRecord}
    (parses : parseRecord json = some record) :
    (rebuilt.appendAt (disclosure actor at_ json id)).reanchoredSegments.getLast? =
    some record := by
  have last : (rebuilt.appendAt (disclosure actor at_ json id)).reanchoredSegments =
      rebuilt.reanchoredSegments ++ [record] := by
    rw [reanchoredSegments, appendAt, List.filter_append, List.filterMap_append]
    apply congrArg
    simp [appendedEvent, disclosure, parses]
  rw [last]
  simp

/-- **Re-anchoring repairs.** A broken log whose content respects the genesis kinds,
with a reason and a record that round-trips, is rebuilt into a ledger every verifier
accepts; content is kept, the rebuild is disclosed with exactly the ranges that
changed, and a second call is refused. -/
theorem Ledger.reanchor_repairs [RecordParser] (events : List Event) (actor reason : String)
    (at_ : OffsetDateTime) (id : Uuid) (broken : ∀ total, verify ⟨events⟩ ≠ .ok total)
    (respected : GenesisKindsRespected events) (reasoned : Text.isBlank reason = false)
    (roundTrips : ∀ newGlobalHead, head ⟨rebuild events⟩ = some newGlobalHead →
      (reanchorRecord ⟨events⟩ actor reason at_ newGlobalHead).RoundTrips) :
    ∃ record after,
      reanchor ⟨events⟩ actor reason at_ id = (some (.ok record), after) ∧
        Repaired events record after ∧
        ∀ actor' reason' at' id', Text.isBlank reason' = false →
          after.reanchor actor' reason' at' id' = (some (.error .alreadyValid), after) := by
  obtain ⟨newGlobalHead, headIs⟩ := @exists_head_rebuild _ ⟨events⟩ broken
  obtain ⟨json, written, parses⟩ := roundTrips newGlobalHead headIs
  have threaded := threaded_reanchored respected actor at_ json id
  have call := reanchor_of_respected id reasoned broken headIs written respected
  generalize afterIs : appendAt ⟨rebuild events⟩ (disclosure actor at_ json id) = after
  rw [afterIs] at threaded call
  have verified : after.verify = .ok after.events.length := threaded.verify_eq
  have appended : after.events = rebuild events ++
      [appendedEvent ⟨rebuild events⟩ (disclosure actor at_ json id)] := by
    rw [← afterIs]
    rfl
  have length : after.events.length = events.length + 1 := by
    rw [appended, List.length_append, length_rebuild, List.length_singleton]
  refine ⟨reanchorRecord ⟨events⟩ actor reason at_ newGlobalHead, after, ?_, ?_, ?_⟩
  · exact call
  · refine ⟨length, length ▸ verified, threaded.healthy, ?_, ?_, fun segment => ?_, ?_⟩
    · exact ⟨_, _, appended, rebuildEvents_sameContent .., rfl, rfl⟩
    · rw [← afterIs]
      exact reanchoredSegments_disclosure parses
    · rw [appended, changedSeqs_append (length_rebuild events)]
      exact mem_affectedSegments_iff (length_rebuild events)
    · exact affectedSegments_nodup _ _
  · intro actor' reason' at' id' reasoned'
    rw [reanchor, if_neg (by rw [reasoned']; exact Bool.false_ne_true), verified]

/-- **When a refused re-anchor leaves the log as it was**: for a blank reason, for a
log that verifies, for content that respects the genesis kinds, which is never
refused after the rebuild, and for an instant that cannot be written, on which the
call does not return. -/
theorem Ledger.reanchor_error_unchanged_iff (ledger : Ledger) (actor reason : String)
    (at_ : OffsetDateTime) (id : Uuid) :
    (∀ fault, (ledger.reanchor actor reason at_ id).1 = some (.error fault) →
        (ledger.reanchor actor reason at_ id).2.events = ledger.events) ↔
      Text.isBlank reason = true ∨ (∃ total, ledger.verify = .ok total) ∨
        GenesisKindsRespected ledger.events ∨ formatRfc3339 at_ = none := by
  by_cases blank : Text.isBlank reason = true
  · refine ⟨fun _ => .inl blank, fun _ fault _ => ?_⟩
    rw [reanchor, if_pos blank]
  rw [or_iff_right blank]
  have reasoned : Text.isBlank reason = false := Bool.not_eq_true _ ▸ blank
  by_cases valid : ∃ total, ledger.verify = .ok total
  · refine ⟨fun _ => .inl valid, fun _ fault _ => ?_⟩
    obtain ⟨total, verified⟩ := valid
    rw [reanchor, if_neg blank, verified]
  rw [or_iff_right valid]
  have broken : ∀ total, ledger.verify ≠ .ok total := fun total verified => valid ⟨total, verified⟩
  obtain ⟨newGlobalHead, headIs⟩ := exists_head_rebuild broken
  cases written : (ledger.reanchorRecord actor reason at_ newGlobalHead).toText with
  | none =>
      refine ⟨fun _ => .inr (ReanchorRecord.toText_eq_none_iff.mp written), fun _ fault failed =>
        ?_⟩
      rw [reanchor_of_unwritten id reasoned broken headIs written] at failed
      cases failed
  | some json =>
      have formats : formatRfc3339 at_ ≠ none := fun unformatted => by
        rw [ReanchorRecord.toText_eq_none_iff.mpr unformatted] at written
        cases written
      rw [or_iff_left formats]
      by_cases respected : GenesisKindsRespected ledger.events
      · refine ⟨fun _ => respected, fun _ fault failed => ?_⟩
        rw [reanchor_of_respected id reasoned broken headIs written respected] at failed
        cases failed
      · obtain ⟨fault, failed, length⟩ :=
          reanchor_of_not_respected id reasoned broken headIs written respected
        refine ⟨fun unchanged => ?_, fun held => (respected held).elim⟩
        rw [unchanged _ failed] at length
        omega

theorem Ledger.seq_of_verify_singleton {event : Event} {total : Nat}
    (verified : verify ⟨[event]⟩ = .ok total) : event.seq = 0 :=
  ((verify_eq_ok_iff.mp verified).2.1.2).1.1

theorem Ledger.verify_appendAt_new {call : AppendCall} {chain : ChainId}
    (joined : chain ∈ memberships call.scope call.kind) (wrong : chain.founds call.kind = false)
    (total : Nat) : (new.appendAt call).verify ≠ .ok total := by
  intro verified
  have linked := (verify_eq_ok_iff.mp verified).2.2 chain
  rw [events_appendAt, linked_extend_iff] at linked
  have founds : chain.founds call.kind = true := linked.2 joined rfl
  rw [wrong] at founds
  cases founds

theorem Ledger.not_genesisKindsRespected_new {call : AppendCall} {chain : ChainId}
    (joined : chain ∈ memberships call.scope call.kind) (wrong : chain.founds call.kind = false) :
    ¬GenesisKindsRespected (new.appendAt call).events := by
  intro respected
  have founds : chain.founds call.kind = true :=
    respected chain _ (List.find?_cons_of_pos (decide_eq_true joined))
  rw [wrong] at founds
  cases founds

end Rebuild

section Runs

open scoped Reference

def misnumbered : Ledger :=
  ⟨(Ledger.new.appendAt settingsCall).events.map fun event => { event with seq := 7 }⟩

/-- A log of one event, appended without validation to a book that was not opened. -/
def unopenedBook : Ledger := Ledger.new.appendAt unopenedBookCall

def recoveryInstant : OffsetDateTime := ⟨2026, 1, 3, 0, 0, 0, 0, 0⟩

/-- The record of the rebuild of `misnumbered`. -/
def misnumberedRecord : ReanchorRecord :=
  misnumbered.reanchorRecord "amelia" "restore" recoveryInstant
    ((Ledger.head ⟨rebuild misnumbered.events⟩).getD zeroDigest)

/-- The parser on the text of that record. -/
@[reducible] def misnumberedParser : RecordParser :=
  ⟨fun text => if misnumberedRecord.toText = some text then some misnumberedRecord else none⟩

theorem toText_ne_none (record : ReanchorRecord) (instant : record.at_ = recoveryInstant) :
    ∃ json, record.toText = some json := by
  apply Option.ne_none_iff_exists'.mp
  intro unwritten
  rw [ReanchorRecord.toText_eq_none_iff, instant] at unwritten
  revert unwritten
  decide +kernel

/-- A misnumbered log is repaired. -/
theorem Ledger.reanchor_repairs_misnumbered :
    ∃ record after,
      misnumbered.reanchor "amelia" "restore" recoveryInstant ⟨3#128⟩ = (some (.ok record), after) ∧
        @Repaired _ misnumberedParser misnumbered.events record after := by
  let _ : RecordParser := misnumberedParser
  have broken : ∀ total, misnumbered.verify ≠ .ok total := by
    intro total verified
    have position : 7 = 0 := seq_of_verify_singleton verified
    cases position
  have respected : GenesisKindsRespected misnumbered.events := by
    intro chain first found
    have joined := List.find?_some found
    rw [List.mem_singleton.mp (List.mem_of_find?_eq_some found)] at joined ⊢
    have only : memberships "settings" "settings.updated" = [.application] := by decide +kernel
    have named : chain ∈ memberships "settings" "settings.updated" := of_decide_eq_true joined
    rw [only, List.mem_singleton] at named
    rw [named]
    rfl
  obtain ⟨record, after, call, repaired, -⟩ :=
    reanchor_repairs misnumbered.events "amelia" "restore" recoveryInstant ⟨3#128⟩ broken respected
      (by decide) (by
        intro newGlobalHead headIs
        have same : reanchorRecord ⟨misnumbered.events⟩ "amelia" "restore" recoveryInstant
            newGlobalHead = misnumberedRecord := by
          rw [misnumberedRecord, headIs, Option.getD_some]
        rw [same]
        obtain ⟨json, written⟩ := toText_ne_none misnumberedRecord rfl
        exact ⟨json, written, if_pos written⟩)
  exact ⟨record, after, call, repaired⟩

/-- The refusal of a log whose first book event does not open the book comes after
its hashes are gone. -/
theorem Ledger.reanchor_rewrites_unopenedBook :
    ¬∀ fault,
      (unopenedBook.reanchor "amelia" "restore" recoveryInstant ⟨3#128⟩).1 = some (.error fault) →
        (unopenedBook.reanchor "amelia" "restore" recoveryInstant ⟨3#128⟩).2.events =
          unopenedBook.events := by
  have joined : ChainId.book "b1" ∈ memberships "entity:e1/book:b1/act:a1" "act.sealed" := by
    decide +kernel
  have broken : ∀ total, unopenedBook.verify ≠ .ok total := verify_appendAt_new joined (by decide)
  have wrong : ¬GenesisKindsRespected unopenedBook.events :=
    not_genesisKindsRespected_new joined (by decide)
  obtain ⟨newGlobalHead, headIs⟩ := exists_head_rebuild broken
  obtain ⟨json, written⟩ := toText_ne_none
    (unopenedBook.reanchorRecord "amelia" "restore" recoveryInstant newGlobalHead) rfl
  obtain ⟨fault, failed, length⟩ :=
    reanchor_of_not_respected ⟨3#128⟩ (by decide) broken headIs written wrong
  intro unchanged
  rw [unchanged _ failed] at length
  omega

end Runs

end Chancela
