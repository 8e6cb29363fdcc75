import Chancela.Api.Acts
import Chancela.Crates.UtcText
import Chancela.Foundation.Neighbours
import Chancela.Foundation.Selection
import Mathlib.Data.Prod.Lex
import Mathlib.Order.WithBot

/-! # The timeline of sealed acts

The chronology of an entity has a node for each of its final acts and an edge from each to the
next one of its book. The acts stand in one list, by date, number, book and identity, and an
edge is drawn between neighbours of this list only: an act of another book between two of a book
takes their edge away, and a date against the numbering turns it round
(`Chancela.ActTimeline.book_sequences_iff`).
-/

namespace Chancela

/-- The month and the day of the month of a day counted from the first of a month on. -/
def monthAndDay (year : Int) : Nat → Nat → Nat → Nat × Nat
  | 0, month, day => (month, day)
  | left + 1, month, day =>
      if day ≤ daysInMonth year month then (month, day)
      else monthAndDay year left (month + 1) (day - daysInMonth year month)

/-- `format_date`: `[year]-[month]-[day]`. -/
def formatDate (date : Date) : String :=
  let civil := monthAndDay date.year 11 1 date.ordinal
  String.ofList ((if date.year < 0 then ['-'] else []) ++
    (Reference.padded 4 date.year.natAbs ++ '-' :: (Reference.padded 2 civil.1 ++
      '-' :: Reference.padded 2 civil.2)))

structure SealedActSourceView where
  kind : String
  actId : String
  bookId : String
  ataNumber : Option Nat
  payloadDigest : Option String
  sealEventSeq : Option Nat
deriving DecidableEq

structure SealedActProjectionEventView where
  date : Option String
  kind : String
  description : String
  actId : String
  bookId : String
  ataNumber : Option Nat
  actState : String
  source : SealedActSourceView
deriving DecidableEq

structure SealedActProjectionGraphNodeView where
  id : String
  label : String
  kind : String
  source : SealedActSourceView
deriving DecidableEq

structure SealedActProjectionGraphEdgeView where
  id : String
  from_ : String
  to_ : String
  label : String
  kind : String
  source : SealedActSourceView
deriving DecidableEq

structure SealedActProjectionGraphView where
  nodes : List SealedActProjectionGraphNodeView
  edges : List SealedActProjectionGraphEdgeView
deriving DecidableEq

structure SealedActProjectionView where
  events : List SealedActProjectionEventView
  graph : SealedActProjectionGraphView
  provenance : List SealedActSourceView
  legalValidityClaimed : Bool
  authorityCertifiedClaimed : Bool
deriving DecidableEq

namespace ActTimeline

open Neighbours Selection

def actSortKey (act : Act) : WithBot String ×ₗ WithBot Nat ×ₗ String ×ₗ String :=
  toLex ((act.meetingDate.map formatDate : WithBot String),
    toLex ((act.ataNumber : WithBot Nat), toLex (act.bookId.display, act.id.display)))

def actRank (act : Act) : (WithBot String ×ₗ WithBot Nat ×ₗ String ×ₗ String) ×ₗ String :=
  toLex (actSortKey act, act.id.display)

def sealedActSource (act : Act) : SealedActSourceView where
  kind := "sealed_act"
  actId := act.id.display
  bookId := act.bookId.display
  ataNumber := act.ataNumber
  payloadDigest := act.payloadDigest.map hex32
  sealEventSeq := act.sealEventSeq

def actNodeId (id : ActId) : String := "act:" ++ id.display

def actNodeLabel (act : Act) : String :=
  match act.ataNumber with
  | some number => s!"Ata n.º {number}"
  | none => "Act " ++ act.id.display

/-- The number of an ata in a description, if it has one. -/
def numberText (act : Act) : String :=
  match act.ataNumber with
  | some number => s!" n.º {number}"
  | none => ""

def sealedActEvent (act : Act) : SealedActProjectionEventView where
  date := act.meetingDate.map formatDate
  kind := "SealedAct"
  description := act.state.debug ++ " ata" ++ numberText act ++
    (if Text.trim act.title = "" then "" else ": " ++ Text.trim act.title)
  actId := act.id.display
  bookId := act.bookId.display
  ataNumber := act.ataNumber
  actState := act.state.debug
  source := sealedActSource act

def correctionEvent (act : Act) (retified : ActId) : SealedActProjectionEventView where
  date := act.meetingDate.map formatDate
  kind := "Correction"
  description := "Ata" ++ numberText act ++ " rectifies act " ++ retified.display
  actId := act.id.display
  bookId := act.bookId.display
  ataNumber := act.ataNumber
  actState := act.state.debug
  source := sealedActSource act

def actNode (act : Act) : SealedActProjectionGraphNodeView where
  id := actNodeId act.id
  label := actNodeLabel act
  kind := "sealed_act"
  source := sealedActSource act

def correctionEdge (act : Act) (retified : ActId) : SealedActProjectionGraphEdgeView where
  id := "correction:" ++ act.id.display ++ ":" ++ retified.display
  from_ := actNodeId act.id
  to_ := actNodeId retified
  label := "retifies"
  kind := "correction"
  source := sealedActSource act

def sequenceEdge (previous current : Act) : SealedActProjectionGraphEdgeView where
  id := "book-sequence:" ++ previous.id.display ++ ":" ++ current.id.display
  from_ := actNodeId previous.id
  to_ := actNodeId current.id
  label := "same book sequence"
  kind := "book_sequence"
  source := sealedActSource current

section Projection

variable (entityId : EntityId) (books : Table fun book : FiledBook => book.id)
  (acts : Table Act.id)

def ownedBooks : List BookId :=
  sortBy Uuid.display ((books.values.filter (·.entityId = entityId)).map fun book => book.id)

/-- The final acts of an entity's books, in the order of the timeline. -/
def projectedActs : List Act :=
  sortBy actRank (acts.values.filter fun act =>
    (ownedBooks entityId books).contains act.bookId && act.isSealed)

def windowEdge (projected : List ActId) (window : Act × Act) :
    Option SealedActProjectionGraphEdgeView :=
  if window.1.bookId ≠ window.2.bookId then none
  else if !projected.contains window.1.id || !projected.contains window.2.id then none
  else some (sequenceEdge window.1 window.2)

def buildSealedActProjection : Option SealedActProjectionView :=
  let projected := projectedActs entityId books acts
  if projected.isEmpty then none
  else
    let projectedIds := projected.map Act.id
    some {
      events := projected.flatMap fun act =>
        sealedActEvent act :: (act.retifies.map (correctionEvent act)).toList
      graph := {
        nodes := projected.map actNode
        edges := (projected.filterMap fun act => act.retifies.map (correctionEdge act)) ++
          (pairs projected).filterMap (windowEdge projectedIds) }
      provenance := projected.map sealedActSource
      legalValidityClaimed := false
      authorityCertifiedClaimed := false }

def nodes : List SealedActProjectionGraphNodeView :=
  ((buildSealedActProjection entityId books acts).map fun view => view.graph.nodes).getD []

/-- The `book_sequence` edges of a book. -/
def bookSequence (bookId : BookId) : List SealedActProjectionGraphEdgeView :=
  (((buildSealedActProjection entityId books acts).map fun view => view.graph.edges).getD []).filter
    fun edge => edge.kind = "book_sequence" && edge.source.bookId = bookId.display

def finalActs : List Act :=
  acts.values.filter fun act =>
    (books.get act.bookId).any (·.entityId = entityId) && act.isSealed

def sequenceOf (bookId : BookId) : List Act :=
  sortBy (fun act => act.ataNumber.getD 0) (acts.values.filter fun act =>
    act.bookId = bookId && act.isSealed)

/-- The final acts of a book are numbered, no two alike. -/
def Numbered : Prop :=
  ∀ act ∈ finalActs entityId books acts, act.ataNumber.isSome ∧
    ∀ other ∈ finalActs entityId books acts, act.bookId = other.bookId →
      act.ataNumber = other.ataNumber → act = other

/-- Consecutive acts of a book stand in their order in the timeline, with no other between. -/
def Unbroken : Prop :=
  ∀ book ∈ books.values, book.entityId = entityId → ∀ pair ∈ pairs (sequenceOf acts book.id),
    actRank pair.1 < actRank pair.2 ∧ ∀ other ∈ finalActs entityId books acts,
      ¬(actRank pair.1 < actRank other ∧ actRank other < actRank pair.2)

end Projection

section Sequences

variable {entityId : EntityId} {books : Table fun book : FiledBook => book.id}
  {acts : Table Act.id} {act other : Act}

theorem contains_ownedBooks (bookId : BookId) : (ownedBooks entityId books).contains bookId =
    (books.get bookId).any (·.entityId = entityId) := by
  rw [Bool.eq_iff_iff, List.contains_iff_mem, ownedBooks, (sortBy_perm _ _).mem_iff, List.mem_map,
    Option.any_eq_true]
  constructor
  · rintro ⟨book, member, rfl⟩
    obtain ⟨listed, owned⟩ := List.mem_filter.mp member
    exact ⟨book, Table.mem_values.mp listed, owned⟩
  · rintro ⟨book, found, owned⟩
    have named := @Table.key_of_get _ _ _ (fun book : FiledBook => book.id) _ _ _ found
    exact ⟨book, List.mem_filter.mpr ⟨Table.mem_values_of_get found, owned⟩, named⟩

theorem projectedActs_eq :
    projectedActs entityId books acts = sortBy actRank (finalActs entityId books acts) := by
  unfold projectedActs finalActs
  simp only [contains_ownedBooks]

theorem mem_projectedActs :
    act ∈ projectedActs entityId books acts ↔ act ∈ finalActs entityId books acts := by
  rw [projectedActs_eq]
  exact (sortBy_perm _ _).mem_iff

theorem eq_of_id (member : act ∈ acts.values) (member' : other ∈ acts.values)
    (same : act.id = other.id) : act = other := by
  have found := Table.mem_values.mp member
  rw [same, Table.mem_values.mp member'] at found
  exact (Option.some.inj found).symm

theorem nodup_finalActs : (finalActs entityId books acts).Nodup :=
  Table.nodup_map_values.of_map.filter _

theorem mem_values_of_final (final : act ∈ finalActs entityId books acts) : act ∈ acts.values :=
  (List.mem_filter.mp final).1

theorem actNodeId_injective : Function.Injective actNodeId := by
  intro first second same
  have texts := congrArg String.toList same
  unfold actNodeId at texts
  rw [String.toList_append, String.toList_append] at texts
  exact Uuid.display_injective (String.toList_inj.mp (List.append_cancel_left texts))

theorem id_eq_of_actRank (same : actRank act = actRank other) : act.id = other.id := by
  unfold actRank at same
  rw [toLex_inj, Prod.mk.injEq] at same
  exact Uuid.display_injective same.2

theorem strict_projectedActs : Strict actRank (projectedActs entityId books acts) := by
  have apart : ∀ first ∈ finalActs entityId books acts, ∀ second ∈ finalActs entityId books acts,
      actRank first = actRank second → first = second := fun first here second here' same =>
    eq_of_id (mem_values_of_final here) (mem_values_of_final here') (id_eq_of_actRank same)
  rw [projectedActs_eq]
  exact pairwise_lt_sortBy nodup_finalActs apart

/-- **One node for each final act.** -/
theorem nodes_perm :
    (nodes entityId books acts).Perm ((finalActs entityId books acts).map actNode) := by
  have whole : nodes entityId books acts = (projectedActs entityId books acts).map actNode := by
    unfold nodes buildSealedActProjection
    dsimp only
    cases projectedActs entityId books acts <;> rfl
  rw [whole, projectedActs_eq]
  exact (sortBy_perm _ _).map actNode

theorem filterMap_eq_map_filter {α β : Type} {pick : α → Option β} {keep : α → Bool}
    {image : α → β} {items : List α}
    (same : ∀ item ∈ items, pick item = if keep item then some (image item) else none) :
    items.filterMap pick = (items.filter keep).map image := by
  induction items with
  | nil => rfl
  | cons item rest ih =>
      have later := ih fun other member => same other (List.mem_cons_of_mem _ member)
      have first := same item List.mem_cons_self
      cases kept : keep item with
      | true =>
          rw [kept, if_pos rfl] at first
          rw [List.filterMap_cons_some first, List.filter_cons_of_pos kept, List.map_cons, later]
      | false =>
          rw [kept] at first
          rw [List.filterMap_cons_none first, List.filter_cons_of_neg (by rw [kept]; decide), later]

theorem bookSequence_eq (bookId : BookId) : bookSequence entityId books acts bookId =
    ((pairs (projectedActs entityId books acts)).filter fun pair =>
      pair.1.bookId = bookId && pair.2.bookId = bookId).map fun pair =>
        sequenceEdge pair.1 pair.2 := by
  unfold bookSequence buildSealedActProjection
  dsimp only
  generalize projectedActs entityId books acts = projected
  cases empty : projected.isEmpty with
  | true =>
      rw [List.isEmpty_iff.mp empty]
      rfl
  | false =>
      simp only [Bool.false_eq_true, ↓reduceIte, Option.map_some, Option.getD_some,
        List.filter_append]
      have corrections : (projected.filterMap fun act =>
          act.retifies.map (correctionEdge act)).filter
            (fun edge => edge.kind = "book_sequence" && edge.source.bookId = bookId.display) =
              [] := by
        rw [List.filter_eq_nil_iff]
        intro edge member
        obtain ⟨act, -, made⟩ := List.mem_filterMap.mp member
        obtain ⟨retified, -, rfl⟩ := Option.map_eq_some_iff.mp made
        simp [correctionEdge]
      rw [corrections, List.nil_append, List.filter_filterMap]
      refine filterMap_eq_map_filter fun pair member => ?_
      obtain ⟨one, two⟩ := mem_of_mem_pairs member
      have listed : (projected.map Act.id).contains pair.1.id = true :=
        List.contains_iff_mem.mpr (List.mem_map_of_mem one)
      have listed' : (projected.map Act.id).contains pair.2.id = true :=
        List.contains_iff_mem.mpr (List.mem_map_of_mem two)
      have display : ∀ id : BookId, (id.display = bookId.display) = (id = bookId) := fun id =>
        propext Uuid.display_injective.eq_iff
      unfold windowEdge
      rw [listed, listed']
      by_cases same : pair.1.bookId = pair.2.bookId
      · by_cases own : pair.2.bookId = bookId <;>
          simp [same, own, display, sequenceEdge, sealedActSource, Option.filter]
      · have apart :
            (decide (pair.1.bookId = bookId) && decide (pair.2.bookId = bookId)) = false := by
          rw [Bool.and_eq_false_iff, decide_eq_false_iff_not, decide_eq_false_iff_not]
          exact not_and_or.mp fun both => same (both.1.trans both.2.symm)
        rw [if_pos same, apart]
        rfl

theorem mem_finalActs : act ∈ finalActs entityId books acts ↔
    act ∈ acts.values ∧ (∃ book, books.get act.bookId = some book ∧ book.entityId = entityId) ∧
      act.isSealed = true := by
  unfold finalActs
  rw [List.mem_filter, Bool.and_eq_true, Option.any_eq_true]
  simp only [decide_eq_true_eq]

theorem mem_sequenceOf {bookId : BookId} : act ∈ sequenceOf acts bookId ↔
    act ∈ acts.values ∧ act.bookId = bookId ∧ act.isSealed = true := by
  unfold sequenceOf
  rw [(sortBy_perm _ _).mem_iff, List.mem_filter, Bool.and_eq_true, decide_eq_true_iff]

theorem mem_sequenceOf_iff {book : FiledBook} (listed : book ∈ books.values)
    (owned : book.entityId = entityId) : act ∈ sequenceOf acts book.id ↔
      act ∈ finalActs entityId books acts ∧ act.bookId = book.id := by
  rw [mem_sequenceOf, mem_finalActs]
  constructor
  · rintro ⟨member, same, final⟩
    exact ⟨⟨member, ⟨book, same ▸ Table.mem_values.mp listed, owned⟩, final⟩, same⟩
  · rintro ⟨⟨member, -, final⟩, same⟩
    exact ⟨member, same, final⟩

theorem strict_sequenceOf (numbered : Numbered entityId books acts) {book : FiledBook}
    (listed : book ∈ books.values) (owned : book.entityId = entityId) :
    Strict (fun act => act.ataNumber.getD 0) (sequenceOf acts book.id) := by
  have final : ∀ act, act ∈ acts.values.filter (fun act => act.bookId = book.id && act.isSealed) →
      act ∈ finalActs entityId books acts ∧ act.bookId = book.id := fun act member =>
    (mem_sequenceOf_iff listed owned).mp ((sortBy_perm _ _).mem_iff.mpr member)
  refine pairwise_lt_sortBy (Table.nodup_map_values.of_map.filter _) ?_
  intro first here second here' same
  obtain ⟨one, sameBook⟩ := final first here
  obtain ⟨two, sameBook'⟩ := final second here'
  obtain ⟨number, found⟩ := Option.isSome_iff_exists.mp (numbered first one).1
  obtain ⟨number', found'⟩ := Option.isSome_iff_exists.mp (numbered second two).1
  refine (numbered first one).2 second two (sameBook.trans sameBook'.symm) ?_
  rw [found, found'] at same ⊢
  exact congrArg some same

theorem bookSequence_perm_iff (numbered : Numbered entityId books acts) {book : FiledBook}
    (listed : book ∈ books.values) (owned : book.entityId = entityId) :
    (bookSequence entityId books acts book.id).Perm
        ((pairs (sequenceOf acts book.id)).map fun pair => sequenceEdge pair.1 pair.2) ↔
      ∀ pair ∈ pairs (sequenceOf acts book.id),
        pair ∈ pairs (projectedActs entityId books acts) := by
  have inside : ∀ act ∈ sequenceOf acts book.id, act ∈ projectedActs entityId books acts :=
    fun act member => mem_projectedActs.mpr ((mem_sequenceOf_iff listed owned).mp member).1
  have kept : ∀ pair ∈ pairs (projectedActs entityId books acts),
      (decide (pair.1.bookId = book.id) && decide (pair.2.bookId = book.id)) = true ↔
        pair.1 ∈ sequenceOf acts book.id ∧ pair.2 ∈ sequenceOf acts book.id := by
    intro pair member
    obtain ⟨one, two⟩ := mem_of_mem_pairs member
    rw [mem_sequenceOf_iff listed owned, mem_sequenceOf_iff listed owned, Bool.and_eq_true,
      decide_eq_true_iff, decide_eq_true_iff, and_iff_right (mem_projectedActs.mp one),
      and_iff_right (mem_projectedActs.mp two)]
  have neighbours := filter_pairs_perm_iff strict_projectedActs
    (strict_sequenceOf numbered listed owned) inside kept
  rw [bookSequence_eq, ← neighbours]
  constructor
  · intro same
    refine neighbours.mpr fun pair member => ?_
    -- The edge tells the two acts.
    obtain ⟨other, chosen, edge⟩ :=
      List.mem_map.mp (same.mem_iff.mpr (List.mem_map_of_mem member))
    have present := (List.mem_filter.mp chosen).1
    obtain ⟨one, two⟩ := mem_of_mem_pairs member
    obtain ⟨one', two'⟩ := mem_of_mem_pairs present
    have value : ∀ act ∈ projectedActs entityId books acts, act ∈ acts.values := fun act here =>
      mem_values_of_final (mem_projectedActs.mp here)
    unfold sequenceEdge at edge
    injection edge with _ from_ to_ _ _ _
    have first := eq_of_id (value _ one') (value _ (inside _ one)) (actNodeId_injective from_)
    have second := eq_of_id (value _ two') (value _ (inside _ two)) (actNodeId_injective to_)
    rwa [← Prod.ext first second]
  · exact fun same => same.map _

/-- **The edges of every book are those from each of its final acts to the next one by number just
where consecutive acts of a book stand in their order in the timeline, with nothing between.** -/
theorem book_sequences_iff : (nodes entityId books acts).Perm
      ((finalActs entityId books acts).map actNode) ∧
    (Numbered entityId books acts →
      ((∀ book ∈ books.values, book.entityId = entityId →
        (bookSequence entityId books acts book.id).Perm
          ((pairs (sequenceOf acts book.id)).map fun pair => sequenceEdge pair.1 pair.2)) ↔
        Unbroken entityId books acts)) := by
  refine ⟨nodes_perm, fun numbered => ?_⟩
  refine forall₃_congr fun book listed owned => ?_
  rw [bookSequence_perm_iff numbered listed owned]
  refine forall₂_congr fun pair member => ?_
  obtain ⟨one, two⟩ := mem_of_mem_pairs member
  have final := (mem_sequenceOf_iff listed owned).mp one
  have final' := (mem_sequenceOf_iff listed owned).mp two
  have next : pair ∈ pairs (projectedActs entityId books acts) ↔
      Next actRank (projectedActs entityId books acts) pair.1 pair.2 :=
    mem_pairs_iff strict_projectedActs
  rw [next]
  unfold Next
  rw [and_iff_right (mem_projectedActs.mpr final.1), and_iff_right (mem_projectedActs.mpr final'.1)]
  simp only [mem_projectedActs]

end Sequences

section Interleaved

def bookOfEntity (id : Nat) : FiledBook :=
  { Book.new ⟨BitVec.ofNat 128 id⟩ with entityId := ⟨0⟩, legalHold := none }

def ataOf (id book number : Nat) : Act :=
  { Act.newDraft ⟨BitVec.ofNat 128 id⟩ ⟨BitVec.ofNat 128 book⟩ "Aprovação de contas" .physical with
    state := .sealed, ataNumber := some number }

/-- Two books, with acts numbered 1 and 2 in the one and 1 in the other. -/
def twoBooks : Table fun book : FiledBook => book.id := .fromIter [bookOfEntity 1, bookOfEntity 2]

def threeActs : Table Act.id := .fromIter [ataOf 1 1 1, ataOf 2 2 1, ataOf 3 1 2]

theorem finalActs_threeActs : finalActs ⟨0⟩ twoBooks threeActs =
      [ataOf 3 1 2, ataOf 2 2 1, ataOf 1 1 1] ∧
    sequenceOf threeActs (bookOfEntity 1).id = [ataOf 1 1 1, ataOf 3 1 2] ∧
    bookOfEntity 1 ∈ twoBooks.values := by
  decide +kernel

theorem between_threeActs : actRank (ataOf 1 1 1) < actRank (ataOf 2 2 1) ∧
    actRank (ataOf 2 2 1) < actRank (ataOf 3 1 2) := by
  decide +kernel

/-- The act of another book takes the only edge of a book away. -/
theorem book_sequence_interrupted : ¬∀ (entityId : EntityId)
    (books : Table fun book : FiledBook => book.id) (acts : Table Act.id),
    Numbered entityId books acts → ∀ book ∈ books.values, book.entityId = entityId →
      (bookSequence entityId books acts book.id).Perm
        ((pairs (sequenceOf acts book.id)).map fun pair => sequenceEdge pair.1 pair.2) := by
  intro holds
  obtain ⟨final, sequence, listed⟩ := finalActs_threeActs
  have numbered : Numbered ⟨0⟩ twoBooks threeActs := by
    unfold Numbered
    rw [final]
    decide +kernel
  have edges := holds ⟨0⟩ twoBooks threeActs numbered (bookOfEntity 1) listed rfl
  have adjacent := (bookSequence_perm_iff numbered listed rfl).mp edges
    (ataOf 1 1 1, ataOf 3 1 2) (by rw [sequence]; exact List.mem_singleton_self _)
  obtain ⟨-, -, -, clear⟩ := (mem_pairs_iff strict_projectedActs).mp adjacent
  have between : ataOf 2 2 1 ∈ projectedActs ⟨0⟩ twoBooks threeActs := by
    rw [mem_projectedActs, final]
    exact List.mem_cons_of_mem _ List.mem_cons_self
  exact clear _ between between_threeActs

end Interleaved

end ActTimeline

end Chancela
