import Chancela.Core.Seal
import Mathlib.Data.Prod.Lex
import Mathlib.Order.WithBot

/-! # Act fixity

Stored acts are held to the digests the ledger froze when they were sealed.
`verify_act_fixity` gives one act a verdict, and `ActFixityReport::build` collects
the verdicts of all acts with the numbering defects of their books. A report is
healthy when no verdict is broken and no number is held twice
(`Chancela.ActFixityReport.healthy_build_iff`).
-/

namespace Chancela

/-- `SealAnchors`: the digests the seal events froze, by sequence number. -/
structure SealAnchors where
  bySeq : Nat → Option Digest

namespace SealAnchors

/-- `SealAnchors::from_iter`; a later entry replaces an earlier one. -/
def fromPairs (pairs : List (Nat × Digest)) : SealAnchors :=
  ⟨pairs.foldl (fun bySeq pair => Function.update bySeq pair.1 (some pair.2)) fun _ => none⟩

def fromEvents (events : List Event) : SealAnchors :=
  fromPairs ((events.filter fun event => event.kind == sealEventKind).map fun event =>
    (event.seq, event.payloadDigest))

def fromLedger (ledger : Ledger) : SealAnchors := fromEvents ledger.events

def digestAt (anchors : SealAnchors) (seq : Nat) : Option Digest := anchors.bySeq seq

theorem fromPairs_concat (pairs : List (Nat × Digest)) (seq : Nat) (digest : Digest) :
    (fromPairs (pairs ++ [(seq, digest)])).digestAt =
      Function.update (fromPairs pairs).digestAt seq (some digest) := by
  simp only [fromPairs, List.foldl_append, List.foldl_cons, List.foldl_nil]
  rfl

theorem mem_of_digestAt_fromPairs {pairs : List (Nat × Digest)} {seq : Nat} {digest : Digest}
    (anchored : (fromPairs pairs).digestAt seq = some digest) : (seq, digest) ∈ pairs := by
  induction pairs using List.reverseRecOn with
  | nil => cases anchored
  | append_singleton before pair ih =>
      obtain ⟨other, held⟩ := pair
      rw [fromPairs_concat] at anchored
      by_cases named : seq = other
      · subst named
        rw [Function.update_self, Option.some.injEq] at anchored
        simp [anchored]
      · rw [Function.update_of_ne named] at anchored
        exact List.mem_append_left _ (ih anchored)

theorem digestAt_fromPairs_ne_none {pairs : List (Nat × Digest)} {seq : Nat} {digest : Digest}
    (member : (seq, digest) ∈ pairs) : (fromPairs pairs).digestAt seq ≠ none := by
  induction pairs using List.reverseRecOn with
  | nil => cases member
  | append_singleton before pair ih =>
      obtain ⟨other, held⟩ := pair
      rw [fromPairs_concat]
      by_cases named : seq = other
      · simp [named]
      · rw [Function.update_of_ne named]
        apply ih
        simpa [named] using member

theorem exists_event_of_digestAt {ledger : Ledger} {seq : Nat} {digest : Digest}
    (anchored : (fromLedger ledger).digestAt seq = some digest) :
    ∃ event ∈ ledger.events, event.kind = sealEventKind ∧ event.seq = seq ∧
      event.payloadDigest = digest := by
  obtain ⟨event, kept, same⟩ := List.mem_map.mp (mem_of_digestAt_fromPairs anchored)
  obtain ⟨member, kind⟩ := List.mem_filter.mp kept
  obtain ⟨rfl, rfl⟩ := Prod.mk.inj same
  exact ⟨event, member, beq_iff_eq.mp kind, rfl, rfl⟩

end SealAnchors

/-- Every event of the ledger has its position as its sequence number. -/
def Ledger.Numbered (ledger : Ledger) : Prop :=
  ∀ (index : Nat) (event : Event), ledger.events[index]? = some event → event.seq = index

theorem Ledger.numbered_new : Ledger.new.Numbered := by
  intro index event present
  cases present

theorem Ledger.Numbered.appendAt [Crates] {ledger : Ledger} (numbered : ledger.Numbered)
    (call : AppendCall) : (ledger.appendAt call).Numbered := by
  intro index event present
  rcases Nat.lt_or_ge index ledger.events.length with inside | outside
  · apply numbered
    rwa [Ledger.appendAt, List.getElem?_append_left inside] at present
  · rw [Ledger.appendAt, List.getElem?_append_right outside, List.getElem?_singleton] at present
    split at present
    · obtain rfl := Option.some.inj present
      show ledger.events.length = index
      omega
    · cases present

theorem Ledger.Numbered.digestAt_eq {ledger : Ledger} (numbered : ledger.Numbered) {index : Nat}
    {event : Event} (present : ledger.events[index]? = some event)
    (kind : event.kind = sealEventKind) :
    (SealAnchors.fromLedger ledger).digestAt index = some event.payloadDigest := by
  have listed : (index, event.payloadDigest) ∈
      (ledger.events.filter fun event => event.kind == sealEventKind).map fun event =>
        (event.seq, event.payloadDigest) := by
    refine List.mem_map.mpr ⟨event, List.mem_filter.mpr ?_, ?_⟩
    · exact ⟨List.mem_of_getElem? present, beq_iff_eq.mpr kind⟩
    · rw [numbered index event present]
  obtain ⟨digest, anchored⟩ :=
    Option.ne_none_iff_exists'.mp (SealAnchors.digestAt_fromPairs_ne_none listed)
  have anchor : (SealAnchors.fromLedger ledger).digestAt index = some digest := anchored
  obtain ⟨other, member, -, seq, same⟩ := SealAnchors.exists_event_of_digestAt anchor
  obtain ⟨position, found⟩ := List.mem_iff_getElem?.mp member
  have here : position = index := (numbered position other found).symm.trans seq
  rw [here, present, Option.some.injEq] at found
  rw [anchor, ← same, found]

theorem Ledger.getElem?_appendAt [Crates] (ledger : Ledger) (call : AppendCall) :
    (ledger.appendAt call).events[ledger.events.length]? = some (ledger.appendedEvent call) := by
  rw [Ledger.appendAt, List.getElem?_append_right (Nat.le_refl _), Nat.sub_self]
  rfl

theorem Ledger.Numbered.digestAt_appended [Crates] {ledger later : Ledger}
    (numbered : later.Numbered) {call : AppendCall}
    (grown : (ledger.appendAt call).events <+: later.events) (kind : call.kind = sealEventKind) :
    (SealAnchors.fromLedger later).digestAt ledger.events.length = some (digest call.payload) := by
  have appended : later.events[ledger.events.length]? = some (ledger.appendedEvent call) := by
    obtain ⟨rest, whole⟩ := grown
    have inside := (List.getElem?_eq_some_iff.mp (ledger.getElem?_appendAt call)).1
    rw [← whole, List.getElem?_append_left inside, ledger.getElem?_appendAt call]
  exact numbered.digestAt_eq appended kind

/-- The verdict on one stored act. -/
inductive ActFixity where
  | unsealed
  | verified
  | mismatch (expected actual : String)
  | ledgerAnchorMismatch (ledger row : String) (recomputed : Option String)
  | sealEventMissing (sealEventSeq : Option Nat)
  | missingPayloadDigest
  | ataNumberMismatch (sealed : Nat) (stored : Option Nat)
  | unverifiable (reason : String)
deriving DecidableEq

def ActFixity.isBroken : ActFixity → Bool
  | .mismatch _ _ => true
  | .ataNumberMismatch _ _ => true
  | .ledgerAnchorMismatch _ _ _ => true
  | .sealEventMissing _ => true
  | .missingPayloadDigest => true
  | .unsealed => false
  | .verified => false
  | .unverifiable _ => false

def ActFixity.isUnverifiable : ActFixity → Bool
  | .unverifiable _ => true
  | _ => false

section Verdict

variable [Crates]

/-- The end of `verify_act_fixity`: the recomputed digest against the anchor. -/
def compareDigest (act : Act) (anchor : Digest) : ActFixity :=
  match sealedActDigest act with
  | some actual => if actual = anchor then .verified else .mismatch (hex32 anchor) (hex32 actual)
  | none => .unverifiable "seal_preimage_not_serializable"

def verifyActFixity (act : Act) (anchors : SealAnchors) : ActFixity :=
  match act.payloadDigest with
  | none => if act.isSealed then .missingPayloadDigest else .unsealed
  | some rowDigest =>
      match act.sealEventSeq.bind anchors.digestAt with
      | none => .sealEventMissing act.sealEventSeq
      | some anchor =>
          if anchor ≠ rowDigest then
            .ledgerAnchorMismatch (hex32 anchor) (hex32 rowDigest)
              ((sealedActDigest act).map hex32)
          else match act.sealMetadata with
            | none => .unverifiable "sealed_act_has_no_seal_metadata"
            | some metadata =>
                match metadata.ataNumber with
                | some sealedNumber =>
                    if act.ataNumber ≠ some sealedNumber then
                      .ataNumberMismatch sealedNumber act.ataNumber
                    else compareDigest act anchor
                | none => compareDigest act anchor

end Verdict

/-- An act that did not verify. -/
structure ActFixityFinding where
  actId : String
  bookId : String
  ataNumber : Option Nat
  fixity : ActFixity
deriving DecidableEq

/-- The order of the findings: by book, number and act; an absent number first. -/
def ActFixityFinding.key (finding : ActFixityFinding) : String ×ₗ WithBot Nat ×ₗ String :=
  toLex (finding.bookId, toLex (finding.ataNumber, finding.actId))

structure BookAtaSequenceFinding where
  bookId : String
  issue : AtaSequenceIssue
deriving DecidableEq

structure ActFixityReport where
  healthy : Bool
  sealedChecked : Nat
  verified : Nat
  broken : Nat
  unverifiable : Nat
  findings : List ActFixityFinding
  ataSequence : List BookAtaSequenceFinding
deriving DecidableEq

namespace ActFixityReport

/-- `ActFixityReport::default`: nothing sealed, nothing altered. -/
def empty : ActFixityReport := ⟨true, 0, 0, 0, 0, [], []⟩

/-- One act of the loop of `build`. -/
def recordAct (report : ActFixityReport) (act : Act) (fixity : ActFixity) : ActFixityReport :=
  let finding : ActFixityFinding := ⟨act.id.display, act.bookId.display, act.ataNumber, fixity⟩
  match fixity with
  | .unsealed => report
  | .verified =>
      { report with
        sealedChecked := report.sealedChecked + 1
        verified := report.verified + 1 }
  | .unverifiable _ =>
      { report with
        sealedChecked := report.sealedChecked + 1
        unverifiable := report.unverifiable + 1
        findings := report.findings ++ [finding] }
  | _ =>
      { report with
        sealedChecked := report.sealedChecked + 1
        broken := report.broken + 1
        healthy := false
        findings := report.findings ++ [finding] }

/-- One numbering defect of the loop of `build`. -/
def recordIssue (book : Book) (report : ActFixityReport) (issue : AtaSequenceIssue) :
    ActFixityReport :=
  { report with
    healthy := if issue.isUniquenessViolation then false else report.healthy
    ataSequence := report.ataSequence ++ [⟨book.id.display, issue⟩] }

def build [Crates] (acts : List Act) (books : List Book) (anchors : SealAnchors) :
    ActFixityReport :=
  let checked := acts.foldl (fun report act => report.recordAct act (verifyActFixity act anchors))
    empty
  let ordered := { checked with
    findings := checked.findings.insertionSort fun first second => first.key ≤ second.key }
  let numbered := books.foldl (fun report book =>
    (book.checkAtaSequence acts).foldl (recordIssue book) report) ordered
  { numbered with
    ataSequence := numbered.ataSequence.insertionSort fun first second =>
      first.bookId ≤ second.bookId }

def fullyVerified (report : ActFixityReport) : Bool :=
  report.healthy && report.unverifiable == 0

section Build

theorem recordAct_spec (report : ActFixityReport) (act : Act) (fixity : ActFixity) :
    (report.recordAct act fixity).healthy = (report.healthy && !fixity.isBroken) ∧
      (report.recordAct act fixity).sealedChecked =
        report.sealedChecked + (if fixity = .unsealed then 0 else 1) ∧
      (report.recordAct act fixity).unverifiable =
        report.unverifiable + (if fixity.isUnverifiable then 1 else 0) ∧
      (report.recordAct act fixity).ataSequence = report.ataSequence := by
  cases fixity <;> simp [recordAct, ActFixity.isBroken, ActFixity.isUnverifiable]

theorem foldl_recordAct_spec (verdict : Act → ActFixity) (acts : List Act)
    (report : ActFixityReport) :
    let checked := acts.foldl (fun report act => report.recordAct act (verdict act)) report
    checked.healthy = (report.healthy && acts.all fun act => !(verdict act).isBroken) ∧
      checked.sealedChecked =
        report.sealedChecked + acts.countP (fun act => verdict act ≠ .unsealed) ∧
      checked.unverifiable =
        report.unverifiable + acts.countP (fun act => (verdict act).isUnverifiable) ∧
      checked.ataSequence = report.ataSequence := by
  induction acts generalizing report with
  | nil => simp
  | cons act rest ih =>
      obtain ⟨healthy, sealedChecked, unverifiable, ataSequence⟩ :=
        report.recordAct_spec act (verdict act)
      obtain ⟨healthy', sealedChecked', unverifiable', ataSequence'⟩ :=
        ih (report.recordAct act (verdict act))
      refine ⟨?_, ?_, ?_, ?_⟩
      · rw [List.foldl_cons, healthy', healthy, List.all_cons, Bool.and_assoc]
      · rw [List.foldl_cons, sealedChecked', sealedChecked, List.countP_cons]
        by_cases unsealed : verdict act = .unsealed
        · simp [unsealed]
        · simp [unsealed]
          omega
      · rw [List.foldl_cons, unverifiable', unverifiable, List.countP_cons]
        omega
      · rw [List.foldl_cons, ataSequence', ataSequence]

theorem foldl_recordIssue_spec (book : Book) (issues : List AtaSequenceIssue)
    (report : ActFixityReport) :
    let recorded := issues.foldl (recordIssue book) report
    recorded.healthy = (report.healthy && issues.all fun issue => !issue.isUniquenessViolation) ∧
      recorded.sealedChecked = report.sealedChecked ∧
      recorded.unverifiable = report.unverifiable ∧
      recorded.ataSequence = report.ataSequence ++ issues.map (⟨book.id.display, ·⟩) := by
  induction issues generalizing report with
  | nil => simp
  | cons issue rest ih =>
      obtain ⟨healthy, sealedChecked, unverifiable, ataSequence⟩ :=
        ih (recordIssue book report issue)
      refine ⟨?_, sealedChecked, unverifiable, ?_⟩
      · rw [List.foldl_cons, healthy, recordIssue, List.all_cons]
        cases issue.isUniquenessViolation <;> simp
      · rw [List.foldl_cons, ataSequence, recordIssue]
        simp

theorem foldl_books_spec (acts : List Act) (books : List Book) (report : ActFixityReport) :
    let numbered := books.foldl (fun report book =>
      (book.checkAtaSequence acts).foldl (recordIssue book) report) report
    numbered.healthy = (report.healthy && books.all fun book =>
        (book.checkAtaSequence acts).all fun issue => !issue.isUniquenessViolation) ∧
      numbered.sealedChecked = report.sealedChecked ∧
      numbered.unverifiable = report.unverifiable ∧
      numbered.ataSequence = report.ataSequence ++ books.flatMap fun book =>
        (book.checkAtaSequence acts).map (⟨book.id.display, ·⟩) := by
  induction books generalizing report with
  | nil => simp
  | cons book rest ih =>
      obtain ⟨healthy, sealedChecked, unverifiable, ataSequence⟩ :=
        foldl_recordIssue_spec book (book.checkAtaSequence acts) report
      obtain ⟨healthy', sealedChecked', unverifiable', ataSequence'⟩ :=
        ih ((book.checkAtaSequence acts).foldl (recordIssue book) report)
      refine ⟨?_, ?_, ?_, ?_⟩
      · rw [List.foldl_cons, healthy', healthy, List.all_cons, Bool.and_assoc]
      · rw [List.foldl_cons, sealedChecked', sealedChecked]
      · rw [List.foldl_cons, unverifiable', unverifiable]
      · rw [List.foldl_cons, ataSequence', ataSequence, List.flatMap_cons, List.append_assoc]

variable [Crates] {acts : List Act} {books : List Book} {anchors : SealAnchors}

/-- **When a report is healthy**: no verdict is broken and no number is held
twice. -/
theorem healthy_build_iff :
    (build acts books anchors).healthy = true ↔
      (∀ act ∈ acts, (verifyActFixity act anchors).isBroken = false) ∧
        ∀ book ∈ books, (book.heldNumbers acts).Nodup := by
  have checked := (foldl_recordAct_spec (verifyActFixity · anchors) acts empty).1
  simp only [build]
  rw [(foldl_books_spec acts books _).1, checked]
  simp [empty, Book.noUniquenessViolation_iff]

theorem sealedChecked_build :
    (build acts books anchors).sealedChecked =
      acts.countP fun act => verifyActFixity act anchors ≠ .unsealed := by
  have checked := (foldl_recordAct_spec (verifyActFixity · anchors) acts empty).2.1
  simp only [build]
  rw [(foldl_books_spec acts books _).2.1]
  simpa [empty] using checked

theorem unverifiable_build :
    (build acts books anchors).unverifiable =
      acts.countP fun act => (verifyActFixity act anchors).isUnverifiable := by
  have checked := (foldl_recordAct_spec (verifyActFixity · anchors) acts empty).2.2.1
  simp only [build]
  rw [(foldl_books_spec acts books _).2.2.1]
  simpa [empty] using checked

theorem ataSequence_build_eq_nil_iff :
    (build acts books anchors).ataSequence = [] ↔
      ∀ book ∈ books, book.checkAtaSequence acts = [] := by
  have checked := (foldl_recordAct_spec (verifyActFixity · anchors) acts empty).2.2.2
  simp only [build]
  rw [← List.length_eq_zero_iff, List.length_insertionSort, List.length_eq_zero_iff,
    (foldl_books_spec acts books _).2.2.2, checked]
  simp [empty]

theorem fullyVerified_build_iff :
    (build acts books anchors).fullyVerified = true ↔
      (build acts books anchors).healthy = true ∧
        ∀ act ∈ acts, (verifyActFixity act anchors).isUnverifiable = false := by
  simp [fullyVerified, unverifiable_build, List.countP_eq_zero]

end Build

end ActFixityReport

section Verdict

variable [Crates]

/-- The branches of `verify_act_fixity` and what leads into each. -/
inductive Verdict (act : Act) (anchors : SealAnchors) : ActFixity → Prop where
  | unsealed (row : act.payloadDigest = none) (state : act.isSealed = false) :
      Verdict act anchors .unsealed
  | missingPayloadDigest (row : act.payloadDigest = none) (state : act.isSealed = true) :
      Verdict act anchors .missingPayloadDigest
  | sealEventMissing {rowDigest : Digest} (row : act.payloadDigest = some rowDigest)
      (absent : act.sealEventSeq.bind anchors.digestAt = none) :
      Verdict act anchors (.sealEventMissing act.sealEventSeq)
  | ledgerAnchorMismatch {rowDigest anchor : Digest} (row : act.payloadDigest = some rowDigest)
      (anchored : act.sealEventSeq.bind anchors.digestAt = some anchor)
      (differ : anchor ≠ rowDigest) (recomputed : Option String) :
      Verdict act anchors (.ledgerAnchorMismatch (hex32 anchor) (hex32 rowDigest) recomputed)
  | ataNumberMismatch {metadata : SealMetadata} {number : Nat}
      (bound : act.sealMetadata = some metadata) (sealed : metadata.ataNumber = some number)
      (differ : act.ataNumber ≠ some number) :
      Verdict act anchors (.ataNumberMismatch number act.ataNumber)
  | mismatch {anchor actual : Digest} (content : sealedActDigest act = some actual)
      (differ : actual ≠ anchor) :
      Verdict act anchors (.mismatch (hex32 anchor) (hex32 actual))
  | verified {anchor : Digest} {metadata : SealMetadata} (row : act.payloadDigest = some anchor)
      (anchored : act.sealEventSeq.bind anchors.digestAt = some anchor)
      (bound : act.sealMetadata = some metadata)
      (numbered : ∀ number, metadata.ataNumber = some number → act.ataNumber = some number)
      (content : sealedActDigest act = some anchor) :
      Verdict act anchors .verified
  | unverifiable (lost : sealedActDigest act = none) (reason : String) :
      Verdict act anchors (.unverifiable reason)

theorem sealedActDigest_of_metadata_none {act : Act} (absent : act.sealMetadata = none) :
    sealedActDigest act = none := by
  simp [sealedActDigest, absent]

theorem compareDigest_verdict {act : Act} {anchors : SealAnchors} {anchor : Digest}
    {metadata : SealMetadata} (row : act.payloadDigest = some anchor)
    (anchored : act.sealEventSeq.bind anchors.digestAt = some anchor)
    (bound : act.sealMetadata = some metadata)
    (numbered : ∀ number, metadata.ataNumber = some number → act.ataNumber = some number) :
    Verdict act anchors (compareDigest act anchor) := by
  unfold compareDigest
  split
  · rename_i actual content
    split
    · rename_i same
      exact .verified row anchored bound numbered (content.trans (congrArg some same))
    · exact .mismatch content ‹_›
  · exact .unverifiable ‹_› _

/-- **What a verdict means.** -/
theorem verifyActFixity_verdict (act : Act) (anchors : SealAnchors) :
    Verdict act anchors (verifyActFixity act anchors) := by
  unfold verifyActFixity
  split
  · rename_i row
    split
    · exact .missingPayloadDigest row ‹_›
    · exact .unsealed row (Bool.eq_false_iff.mpr ‹_›)
  rename_i rowDigest row
  split
  · exact .sealEventMissing row ‹_›
  rename_i anchor anchored
  split
  · exact .ledgerAnchorMismatch row anchored ‹_› _
  rename_i same
  rw [← not_not.mp same] at row
  split
  · exact .unverifiable (sealedActDigest_of_metadata_none ‹_›) _
  rename_i metadata bound
  split
  · rename_i number sealed
    split
    · exact .ataNumberMismatch bound sealed ‹_›
    · rename_i agrees
      apply compareDigest_verdict row anchored bound
      intro other stored
      rw [not_not.mp agrees, ← sealed, stored]
  · rename_i unnumbered
    apply compareDigest_verdict row anchored bound
    intro other stored
    rw [unnumbered] at stored
    cases stored

variable {act : Act} {anchors : SealAnchors}

theorem verifyActFixity_eq_unsealed_iff :
    verifyActFixity act anchors = .unsealed ↔
      act.payloadDigest = none ∧ act.isSealed = false := by
  constructor
  · intro unsealed
    have verdict := verifyActFixity_verdict act anchors
    rw [unsealed] at verdict
    cases verdict with
    | unsealed row state => exact ⟨row, state⟩
  · intro ⟨row, state⟩
    simp [verifyActFixity, row, state]

theorem verifyActFixity_eq_verified_iff :
    verifyActFixity act anchors = .verified ↔
      ∃ anchor metadata, act.payloadDigest = some anchor ∧
        act.sealEventSeq.bind anchors.digestAt = some anchor ∧
        act.sealMetadata = some metadata ∧
        (∀ number, metadata.ataNumber = some number → act.ataNumber = some number) ∧
        sealedActDigest act = some anchor := by
  constructor
  · intro verified
    have verdict := verifyActFixity_verdict act anchors
    rw [verified] at verdict
    cases verdict with
    | verified row anchored bound numbered content =>
        exact ⟨_, _, row, anchored, bound, numbered, content⟩
  · intro ⟨anchor, metadata, row, anchored, bound, numbered, content⟩
    cases stored : metadata.ataNumber with
    | none => simp [verifyActFixity, compareDigest, row, anchored, bound, content, stored]
    | some number =>
        simp [verifyActFixity, compareDigest, row, anchored, bound, content, stored,
          numbered number stored]

theorem verified_or_unverifiable (notBroken : (verifyActFixity act anchors).isBroken = false)
    (notUnsealed : verifyActFixity act anchors ≠ .unsealed) :
    verifyActFixity act anchors = .verified ∨
      (verifyActFixity act anchors).isUnverifiable = true ∧ sealedActDigest act = none := by
  have verdict := verifyActFixity_verdict act anchors
  generalize verifyActFixity act anchors = fixity at *
  cases verdict with
  | unsealed => exact (notUnsealed rfl).elim
  | missingPayloadDigest | sealEventMissing | ledgerAnchorMismatch | ataNumberMismatch |
    mismatch => cases notBroken
  | verified => exact .inl rfl
  | unverifiable lost => exact .inr ⟨rfl, lost⟩

end Verdict

end Chancela
