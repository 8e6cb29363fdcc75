import Chancela.Foundation.OrderedMap
import Chancela.Foundation.Selection
import Chancela.Search.Document
import Mathlib.Data.List.MinMax
import Mathlib.Data.Prod.Lex
import Mathlib.Order.OrderDual

/-! # Facets

Facet maps count the values of a field over the matched documents. Discovery bounds the
number of keys: a full map gives up the entry of least count and hands its count on
(`incrementWith`). Counts are then cleared and recomputed over the retained keys
(`incrementSelectedWith`), so that what is returned is exact for the documents of the
second pass (`Chancela.Search.SearchFacets.mem_counts_recount`).
-/

namespace Chancela.Search

structure LabeledFacetCount where
  label : String
  count : Nat
deriving DecidableEq, Repr

/-- The values of a facet map: a count, alone or with a display label. -/
class FacetValue (V : Type) where
  /-- A value from its label and its count. -/
  make : String → Nat → V
  count : V → Nat
  setCount : V → Nat → V
  /-- The text that orders entries of one count, given the key. -/
  label : String → V → String
  count_setCount : ∀ value n, count (setCount value n) = n

instance : FacetValue Nat where
  make _ count := count
  count := id
  setCount _ count := count
  label key _ := key
  count_setCount _ _ := rfl

instance : FacetValue LabeledFacetCount where
  make := LabeledFacetCount.mk
  count := LabeledFacetCount.count
  setCount value count := { value with count }
  label _ := LabeledFacetCount.label
  count_setCount _ _ := rfl

open FacetValue (make count setCount label)

/-- A `BTreeMap` from keys to facet values, its entries in key order. -/
abbrev FacetMap (V : Type) := List (String × V)

section Maps

variable {V : Type} [FacetValue V]

/-- The order in which a full map gives entries up: least count, then greatest label, then
greatest key. -/
def evictionRank (entry : String × V) : Nat ×ₗ Stringᵒᵈ ×ₗ Stringᵒᵈ :=
  toLex (count entry.2, toLex (OrderDual.toDual (label entry.1 entry.2), OrderDual.toDual entry.1))

/-- The order in which entries are returned: greatest count, then least label, then least
key. -/
def displayRank (entry : String × V) : Natᵒᵈ ×ₗ String ×ₗ String :=
  toLex (OrderDual.toDual (count entry.2), toLex (label entry.1 entry.2, entry.1))

/-- `get_mut` on a key and one more on its count; keys are distinct. -/
def incrementAt (key : String) (map : FacetMap V) : FacetMap V :=
  map.map fun entry =>
    if entry.1 = key then (entry.1, setCount entry.2 (count entry.2 + 1)) else entry

/-- The bounded count of `increment` and `increment_labeled`, with whether an entry was
given up. -/
def incrementWith (map : FacetMap V) (value shown : Option String) (capacity : Nat) :
    FacetMap V × Bool :=
  match value.filter fun value => !Text.isBlank value with
  | none => (map, false)
  | some key =>
      if (OrderedMap.lookup key map).isSome then (incrementAt key map, false)
      else
        let label := (shown.filter fun shown => !Text.isBlank shown).getD key
        if capacity ≤ map.length then
          match map.argmin evictionRank with
          | none => (map, true)
          | some victim =>
              (OrderedMap.upsert key (fun _ => make label (count victim.2 + 1))
                (map.filter (·.1 ≠ victim.1)), true)
        else (OrderedMap.upsert key (fun _ => make label 1) map, false)

/-- The count of `increment_selected` and `increment_labeled_selected`. -/
def incrementSelectedWith (map : FacetMap V) (value : Option String) : FacetMap V :=
  match value with
  | none => map
  | some key => incrementAt key map

/-- `reset_selected_counts` on one map. -/
def resetWith (map : FacetMap V) : FacetMap V := map.map fun entry => (entry.1, setCount entry.2 0)

/-- `truncate_facet` and `truncate_labeled_facet`. -/
def truncateWith (map : FacetMap V) (limit : Nat) : FacetMap V :=
  if map.length ≤ limit then map
  else ((Selection.sortBy displayRank map).take limit).foldl
    (fun map entry => OrderedMap.upsert entry.1 (fun _ => entry.2) map) []

def FacetMap.counts (map : FacetMap V) : List (String × Nat) :=
  map.map fun entry => (entry.1, count entry.2)

theorem counts_incrementSelectedWith (map : FacetMap V) (value : Option String) :
    FacetMap.counts (incrementSelectedWith map value) =
      (FacetMap.counts map).map fun entry =>
        (entry.1, entry.2 + if value = some entry.1 then 1 else 0) := by
  cases value with
  | none => simp [incrementSelectedWith, FacetMap.counts]
  | some key =>
      rw [incrementSelectedWith, incrementAt, FacetMap.counts, FacetMap.counts, List.map_map,
        List.map_map]
      apply List.map_congr_left
      intro entry _
      by_cases named : entry.1 = key
      · simp [named, FacetValue.count_setCount]
      · simp [named, Ne.symm named]

theorem counts_resetWith (map : FacetMap V) :
    FacetMap.counts (resetWith map) = (FacetMap.counts map).map fun entry => (entry.1, 0) := by
  simp [FacetMap.counts, resetWith, FacetValue.count_setCount]

omit [FacetValue V] in
theorem mem_of_mem_upsert {map : FacetMap V} {key : String} {value : V} {entry : String × V}
    (member : entry ∈ OrderedMap.upsert key (fun _ => value) map) :
    entry = (key, value) ∨ entry ∈ map := by
  induction map with
  | nil => exact .inl (List.mem_singleton.mp member)
  | cons head rest ih =>
      rw [OrderedMap.upsert] at member
      split at member
      · exact (List.mem_cons.mp member).imp_right (List.mem_cons_of_mem _)
      · split at member
        · exact List.mem_cons.mp member
        · rcases List.mem_cons.mp member with here | later
          · exact .inr (here ▸ List.mem_cons_self)
          · exact (ih later).imp_right (List.mem_cons_of_mem _)

theorem mem_of_mem_truncateWith {map : FacetMap V} {limit : Nat} {entry : String × V}
    (member : entry ∈ truncateWith map limit) : entry ∈ map := by
  rw [truncateWith] at member
  split at member
  · exact member
  · suffices general : ∀ (chosen kept : FacetMap V), entry ∈ chosen.foldl
        (fun map entry => OrderedMap.upsert entry.1 (fun _ => entry.2) map) kept →
        entry ∈ chosen ∨ entry ∈ kept by
      rcases general _ _ member with chosen | none
      · exact (Selection.sortBy_perm displayRank map).mem_iff.mp (List.mem_of_mem_take chosen)
      · cases none
    intro chosen
    induction chosen with
    | nil => exact fun _ held => .inr held
    | cons head rest ih =>
        intro kept held
        rcases ih _ held with later | inserted
        · exact .inl (List.mem_cons_of_mem _ later)
        · rcases mem_of_mem_upsert inserted with rfl | old
          · exact .inl List.mem_cons_self
          · exact .inr old

theorem mem_counts_of_truncateWith {map : FacetMap V} {limit : Nat} {entry : String × Nat}
    (member : entry ∈ FacetMap.counts (truncateWith map limit)) : entry ∈ FacetMap.counts map := by
  obtain ⟨held, kept, rfl⟩ := List.mem_map.mp member
  exact List.mem_map_of_mem (mem_of_mem_truncateWith kept)

end Maps

def increment (map : FacetMap Nat) (value : Option String) (capacity : Nat) :
    FacetMap Nat × Bool := incrementWith map value none capacity

def incrementLabeled (map : FacetMap LabeledFacetCount) (id label : Option String)
    (capacity : Nat) : FacetMap LabeledFacetCount × Bool := incrementWith map id label capacity

def incrementSelected (map : FacetMap Nat) (value : Option String) : FacetMap Nat :=
  incrementSelectedWith map value

def incrementLabeledSelected (map : FacetMap LabeledFacetCount) (id : Option String) :
    FacetMap LabeledFacetCount := incrementSelectedWith map id

def truncateFacet (facet : FacetMap Nat) (limit : Nat) : FacetMap Nat := truncateWith facet limit

def truncateLabeledFacet (facet : FacetMap LabeledFacetCount) (limit : Nat) :
    FacetMap LabeledFacetCount := truncateWith facet limit

structure SearchFacets where
  kind : FacetMap Nat
  date : FacetMap Nat
  entity : FacetMap LabeledFacetCount
  book : FacetMap LabeledFacetCount
  author : FacetMap Nat
  law : FacetMap Nat
  status : FacetMap Nat
deriving DecidableEq, Repr

namespace SearchFacets

/-- `SearchFacets::default`. -/
def empty : SearchFacets := ⟨[], [], [], [], [], [], []⟩

def resetSelectedCounts (facets : SearchFacets) : SearchFacets where
  kind := resetWith facets.kind
  date := resetWith facets.date
  entity := resetWith facets.entity
  book := resetWith facets.book
  author := resetWith facets.author
  law := resetWith facets.law
  status := resetWith facets.status

def exceeds (facets : SearchFacets) (limit : Nat) : Bool :=
  decide (limit < facets.kind.length) || decide (limit < facets.date.length) ||
    decide (limit < facets.entity.length) || decide (limit < facets.book.length) ||
    decide (limit < facets.author.length) || decide (limit < facets.law.length) ||
    decide (limit < facets.status.length)

def truncate (facets : SearchFacets) (limit : Nat) : SearchFacets where
  kind := truncateFacet facets.kind limit
  date := truncateFacet facets.date limit
  entity := truncateLabeledFacet facets.entity limit
  book := truncateLabeledFacet facets.book limit
  author := truncateFacet facets.author limit
  law := truncateFacet facets.law limit
  status := truncateFacet facets.status limit

end SearchFacets

/-- The characters that fill exactly `size` bytes. -/
def takeBytes : Nat → List Char → Option (List Char)
  | 0, _ => some []
  | _ + 1, [] => none
  | size + 1, c :: rest =>
      if c.utf8Size ≤ size + 1 then (takeBytes (size + 1 - c.utf8Size) rest).map (c :: ·) else none

/-- `value.get(..10).unwrap_or(value)`. -/
def datePart (value : String) : String := ((takeBytes 10 value.toList).map String.ofList).getD value

/-- `add_facets`, with whether an entry was given up. -/
def addFacets (facets : SearchFacets) (document : SearchDocument) (content : SearchContentRef)
    (capacity : Nat) : SearchFacets × Bool :=
  let (kind, kindCut) := increment facets.kind (some document.kind.asStr) capacity
  let (date, dateCut) := increment facets.date (document.occurredAt.map datePart) capacity
  let (entity, entityCut) :=
    incrementLabeled facets.entity document.entityId content.entityName capacity
  let (book, bookCut) := incrementLabeled facets.book document.bookId content.bookLabel capacity
  let (author, authorCut) := increment facets.author content.author capacity
  let (law, lawCut) := increment facets.law content.law capacity
  let (status, statusCut) := increment facets.status content.status capacity
  (⟨kind, date, entity, book, author, law, status⟩,
    kindCut || dateCut || entityCut || bookCut || authorCut || lawCut || statusCut)

def addSelectedFacets (facets : SearchFacets) (document : SearchDocument)
    (content : SearchContentRef) : SearchFacets where
  kind := incrementSelected facets.kind (some document.kind.asStr)
  date := incrementSelected facets.date (document.occurredAt.map datePart)
  entity := incrementLabeledSelected facets.entity document.entityId
  book := incrementLabeledSelected facets.book document.bookId
  author := incrementSelected facets.author content.author
  law := incrementSelected facets.law content.law
  status := incrementSelected facets.status content.status

theorem addFacets_visible [Unicode] (facets : SearchFacets) (document : SearchDocument)
    (access : SearchAccess) (capacity : Nat) :
    addFacets facets document ((IndexedDocument.new document).projection access).2 capacity =
      addFacets facets (document.visible access) (.public (document.visible access)) capacity := by
  rcases IndexedDocument.projection_new_cases document access with ⟨shown, seen⟩ | ⟨_, shown, seen⟩
  all_goals
    rw [shown, seen]
    rfl

theorem addSelectedFacets_visible [Unicode] (facets : SearchFacets) (document : SearchDocument)
    (access : SearchAccess) :
    addSelectedFacets facets document ((IndexedDocument.new document).projection access).2 =
      addSelectedFacets facets (document.visible access) (.public (document.visible access)) := by
  rcases IndexedDocument.projection_new_cases document access with ⟨shown, seen⟩ | ⟨_, shown, seen⟩
  all_goals
    rw [shown, seen]
    rfl

/-! ## Counts -/

/-- The facets of a page. -/
inductive FacetName where
  | kind
  | date
  | entity
  | book
  | author
  | law
  | status
deriving DecidableEq, Repr

def SearchDocument.facetValue (document : SearchDocument) : FacetName → Option String
  | .kind => some document.kind.asStr
  | .date => document.occurredAt.map datePart
  | .entity => document.entityId
  | .book => document.bookId
  | .author => document.author
  | .law => document.law
  | .status => document.status

namespace SearchFacets

def counts (facets : SearchFacets) : FacetName → List (String × Nat)
  | .kind => FacetMap.counts facets.kind
  | .date => FacetMap.counts facets.date
  | .entity => FacetMap.counts facets.entity
  | .book => FacetMap.counts facets.book
  | .author => FacetMap.counts facets.author
  | .law => FacetMap.counts facets.law
  | .status => FacetMap.counts facets.status

theorem counts_addSelectedFacets (facets : SearchFacets) (document : SearchDocument)
    (name : FacetName) :
    (addSelectedFacets facets document (.public document)).counts name =
      (facets.counts name).map fun entry =>
        (entry.1, entry.2 + if document.facetValue name = some entry.1 then 1 else 0) := by
  cases name with
  | kind => exact counts_incrementSelectedWith facets.kind (some document.kind.asStr)
  | date => exact counts_incrementSelectedWith facets.date (document.occurredAt.map datePart)
  | entity => exact counts_incrementSelectedWith facets.entity document.entityId
  | book => exact counts_incrementSelectedWith facets.book document.bookId
  | author => exact counts_incrementSelectedWith facets.author document.author
  | law => exact counts_incrementSelectedWith facets.law document.law
  | status => exact counts_incrementSelectedWith facets.status document.status

theorem counts_resetSelectedCounts (facets : SearchFacets) (name : FacetName) :
    facets.resetSelectedCounts.counts name =
      (facets.counts name).map fun entry => (entry.1, 0) := by
  cases name with
  | entity | book => exact counts_resetWith (V := LabeledFacetCount) _
  | _ => exact counts_resetWith (V := Nat) _

theorem mem_counts_of_truncate {facets : SearchFacets} {limit : Nat} {name : FacetName}
    {entry : String × Nat} (member : entry ∈ (facets.truncate limit).counts name) :
    entry ∈ facets.counts name := by
  cases name with
  | entity | book => exact mem_counts_of_truncateWith (V := LabeledFacetCount) member
  | _ => exact mem_counts_of_truncateWith (V := Nat) member

def recount (facets : SearchFacets) (documents : List SearchDocument) : SearchFacets :=
  documents.foldl (fun facets document => addSelectedFacets facets document (.public document))
    facets.resetSelectedCounts

theorem counts_foldl_addSelectedFacets (facets : SearchFacets) (documents : List SearchDocument)
    (name : FacetName) :
    (documents.foldl (fun facets document => addSelectedFacets facets document (.public document))
        facets).counts name =
      (facets.counts name).map fun entry => (entry.1,
        entry.2 + documents.countP fun document => document.facetValue name = some entry.1) := by
  induction documents generalizing facets with
  | nil => simp
  | cons document rest ih =>
      rw [List.foldl_cons, ih, counts_addSelectedFacets, List.map_map]
      apply List.map_congr_left
      intro entry _
      simp only [Function.comp_apply, List.countP_cons, decide_eq_true_eq, Prod.mk.injEq, true_and]
      omega

/-- **Recounted facets are exact.** -/
theorem mem_counts_recount {facets : SearchFacets} {documents : List SearchDocument}
    {name : FacetName} {key : String} {number : Nat}
    (member : (key, number) ∈ (facets.recount documents).counts name) :
    number = documents.countP fun document => document.facetValue name = some key := by
  rw [recount, counts_foldl_addSelectedFacets, counts_resetSelectedCounts, List.map_map] at member
  obtain ⟨entry, -, same⟩ := List.mem_map.mp member
  obtain ⟨rfl, rfl⟩ := Prod.mk.inj same
  exact Nat.zero_add _

end SearchFacets

end Chancela.Search
