import Chancela.Xades.Information

/-! # The second reader

`validate_xades` looks at a document through `roxmltree`, whose nodes lie in an arena in
document order. The elements of a document are listed here with their places; those below an
element are the block that begins with it (`Chancela.Xades.roxElements_eq_append`).
-/

namespace Chancela.Xades

/-- A node of `roxmltree`. -/
inductive RoxNode where
  | element (name : ExpandedName) (attributes : List (ExpandedName × List Char))
      (children : List RoxNode)
  | text (chars : List Char)
  | other

/-- An element with its place in document order. -/
structure RoxElement where
  index : Nat
  name : ExpandedName
  attributes : List (ExpandedName × List Char)
  children : List RoxNode

mutual

/-- The elements of a node in document order, counted from `start`. -/
def RoxNode.elements (start : Nat) : RoxNode → List RoxElement
  | .element name attributes children =>
      ⟨start, name, attributes, children⟩ :: roxElements (start + 1) children
  | _ => []

def roxElements (start : Nat) : List RoxNode → List RoxElement
  | [] => []
  | node :: rest =>
      node.elements start ++ roxElements (start + (node.elements start).length) rest

end

/-- The elements among these nodes themselves, counted from `start`. -/
def roxChildren (start : Nat) : List RoxNode → List RoxElement
  | [] => []
  | .element name attributes children :: rest =>
      ⟨start, name, attributes, children⟩ ::
        roxChildren (start + 1 + (roxElements (start + 1) children).length) rest
  | _ :: rest => roxChildren start rest

namespace RoxElement

variable (element : RoxElement)

def hasTagName (uri : List Char) (localName : String) : Bool :=
  element.name = ⟨uri, localName.toList⟩

/-- `Node::attribute`, for a name in no namespace. -/
def attributeValue (name : String) : Option (List Char) :=
  (element.attributes.find? fun entry => entry.1 = ⟨[], name.toList⟩).map Prod.snd

/-- `Node::descendants`, the element itself included. -/
def descendants : List RoxElement := element :: roxElements (element.index + 1) element.children

/-- `Node::children`. -/
def childElements : List RoxElement := roxChildren (element.index + 1) element.children

/-- `Node::text`: the text an element begins with. -/
def text : Option (List Char) :=
  match element.children with
  | .text chars :: _ => some chars
  | _ => none

end RoxElement

/-- An element as both readers see it. -/
structure Counterpart (element : RoxElement) (located : Located) : Prop where
  localName : element.name.localName = located.data.localName
  values : ∀ name : String, element.attributeValue name =
    (located.data.attrs.find? fun attr => attr.nsPrefix = none ∧ attr.localName = name.toList).map
      AttrData.value

/-- `roxmltree::Document::parse`. -/
class Roxmltree [QuickXml] where
  /-- The nodes of a document, or the message of the first error. -/
  document : List Char → Except String (List RoxNode)
  /-- A document both readers accept has the same elements in the same order for both. -/
  counterparts : ∀ xml nodes dom, document xml = .ok nodes → parse xml = .ok dom →
    List.Forall₂ Counterpart (roxElements 0 nodes) dom.elements

/-! ## Document order -/

mutual

theorem map_index_elements : (node : RoxNode) → (start : Nat) →
    (node.elements start).map RoxElement.index =
      List.range' start (node.elements start).length
  | .element name attributes children, start => by
      rw [RoxNode.elements, List.map_cons, map_index_roxElements children, List.length_cons,
        List.range'_succ]
  | .text chars, start => rfl
  | .other, start => rfl

theorem map_index_roxElements : (nodes : List RoxNode) → (start : Nat) →
    (roxElements start nodes).map RoxElement.index =
      List.range' start (roxElements start nodes).length
  | [], _ => rfl
  | node :: rest, start => by
      rw [roxElements, List.map_append, map_index_elements node, map_index_roxElements rest,
        List.length_append]
      exact List.range'_append_1

end

mutual

theorem elements_eq_append : (node : RoxNode) → (start : Nat) → ∀ element ∈ node.elements start,
    ∃ front back, node.elements start = front ++ (element.descendants ++ back) ∧
      start + front.length = element.index
  | .element name attributes children, start, element, member => by
      rw [RoxNode.elements] at member ⊢
      rcases List.mem_cons.mp member with rfl | inside
      · exact ⟨[], [], by simp [RoxElement.descendants], rfl⟩
      · obtain ⟨front, back, split, place⟩ :=
          roxElements_eq_append children (start + 1) element inside
        refine ⟨⟨start, name, attributes, children⟩ :: front, back, ?_, ?_⟩
        · rw [split, List.cons_append]
        · rw [List.length_cons]
          omega

/-- **The elements below an element are a block of the document.** -/
theorem roxElements_eq_append : (nodes : List RoxNode) → (start : Nat) →
    ∀ element ∈ roxElements start nodes,
    ∃ front back, roxElements start nodes = front ++ (element.descendants ++ back) ∧
      start + front.length = element.index
  | node :: rest, start, element, member => by
      rw [roxElements] at member ⊢
      rcases List.mem_append.mp member with here | later
      · obtain ⟨front, back, split, place⟩ := elements_eq_append node start element here
        refine ⟨front, back ++ roxElements (start + (node.elements start).length) rest, ?_, place⟩
        have grouped := congrArg
          (· ++ roxElements (start + (node.elements start).length) rest) split
        simpa using grouped
      · obtain ⟨front, back, split, place⟩ := roxElements_eq_append rest _ element later
        refine ⟨node.elements start ++ front, back, ?_, ?_⟩
        · rw [split, List.append_assoc]
        · rw [List.length_append]
          omega

end

variable {nodes : List RoxNode}

theorem index_of_getElem? {place : Nat} {element : RoxElement}
    (found : (roxElements 0 nodes)[place]? = some element) : element.index = place := by
  have indexed : ((roxElements 0 nodes).map RoxElement.index)[place]? = some element.index := by
    rw [List.getElem?_map, found]
    rfl
  rw [map_index_roxElements] at indexed
  obtain ⟨bound, value⟩ := List.getElem?_eq_some_iff.mp indexed
  rw [List.getElem_range'] at value
  omega

theorem getElem?_index {element : RoxElement} (member : element ∈ roxElements 0 nodes) :
    (roxElements 0 nodes)[element.index]? = some element := by
  obtain ⟨place, found⟩ := List.mem_iff_getElem?.mp member
  rw [index_of_getElem? found, found]

theorem mem_roxElements_of_mem_roxChildren : (nodes : List RoxNode) → (start : Nat) →
    ∀ element ∈ roxChildren start nodes, element ∈ roxElements start nodes
  | .element name attributes children :: rest, start, element, member => by
      rw [roxElements, RoxNode.elements, List.cons_append]
      rcases List.mem_cons.mp member with rfl | later
      · exact List.mem_cons_self
      · refine List.mem_cons_of_mem _ (List.mem_append_right _ ?_)
        have inside := mem_roxElements_of_mem_roxChildren rest _ element later
        rwa [List.length_cons, Nat.add_comm _ 1, ← Nat.add_assoc]
  | .text chars :: rest, start, element, member =>
      mem_roxElements_of_mem_roxChildren rest start element member
  | .other :: rest, start, element, member =>
      mem_roxElements_of_mem_roxChildren rest start element member

theorem mem_of_mem_descendants {element inner : RoxElement} (member : element ∈ roxElements 0 nodes)
    (inside : inner ∈ element.descendants) : inner ∈ roxElements 0 nodes := by
  obtain ⟨front, back, split, -⟩ := roxElements_eq_append nodes 0 element member
  rw [split]
  exact List.mem_append_right _ (List.mem_append_left _ inside)

theorem mem_of_mem_childElements {element child : RoxElement}
    (member : element ∈ roxElements 0 nodes) (below : child ∈ element.childElements) :
    child ∈ roxElements 0 nodes :=
  mem_of_mem_descendants member
    (List.mem_cons_of_mem _ (mem_roxElements_of_mem_roxChildren _ _ child below))

theorem index_le_of_mem_descendants {element inner : RoxElement}
    (inside : inner ∈ element.descendants) : element.index ≤ inner.index := by
  rcases List.mem_cons.mp inside with rfl | below
  · exact Nat.le_refl _
  · have indexed : inner.index ∈
        (roxElements (element.index + 1) element.children).map RoxElement.index :=
      List.mem_map_of_mem below
    rw [map_index_roxElements, List.mem_range'_1] at indexed
    omega

theorem find?_descendants_iff {element : RoxElement} (member : element ∈ roxElements 0 nodes)
    (wanted : RoxElement → Bool) (below : element.descendants.any wanted = true) :
    (∃ found, element.descendants.find? wanted = some found ∧
      (roxElements 0 nodes).find? wanted = some found) ↔
      ∀ other ∈ roxElements 0 nodes, wanted other = true → element.index ≤ other.index := by
  obtain ⟨front, back, split, place⟩ := roxElements_eq_append nodes 0 element member
  have placed : ∀ (position : Nat) (other : RoxElement), front[position]? = some other →
      other.index = position ∧ position < element.index := by
    intro position other found
    have bound := (List.getElem?_eq_some_iff.mp found).1
    have whole : (roxElements 0 nodes)[position]? = some other := by
      rw [split, List.getElem?_append_left bound, found]
    exact ⟨index_of_getElem? whole, by omega⟩
  constructor
  · rintro ⟨found, below, first⟩ other listed holds
    by_contra before
    have inside := List.mem_of_find?_eq_some below
    -- An earlier one would have been found instead.
    have inFront : front[other.index]? = some other := by
      have whole := getElem?_index listed
      rwa [split, List.getElem?_append_left (by omega)] at whole
    obtain ⟨early, earlier⟩ : ∃ early, front.find? wanted = some early := by
      rw [← Option.isSome_iff_exists, List.find?_isSome]
      exact ⟨other, List.mem_iff_getElem?.mpr ⟨_, inFront⟩, holds⟩
    rw [split, List.find?_append, earlier, Option.some_or] at first
    obtain rfl := Option.some.inj first
    obtain ⟨position, standing⟩ := List.mem_iff_getElem?.mp (List.mem_of_find?_eq_some earlier)
    obtain ⟨same, bound⟩ := placed position early standing
    have after := index_le_of_mem_descendants inside
    omega
  · intro later
    have none_ : front.find? wanted = none := by
      rw [List.find?_eq_none]
      intro other inside holds
      obtain ⟨position, standing⟩ := List.mem_iff_getElem?.mp inside
      obtain ⟨same, bound⟩ := placed position other standing
      have least := later other (split ▸ List.mem_append_left _ inside) holds
      omega
    obtain ⟨first, found⟩ : ∃ first, element.descendants.find? wanted = some first := by
      rw [← Option.isSome_iff_exists, List.find?_isSome]
      exact List.any_eq_true.mp below
    refine ⟨first, found, ?_⟩
    rw [split, List.find?_append, none_, List.find?_append, found]
    rfl

mutual

theorem map_elements_shift {α : Type} (f : RoxElement → α)
    (unplaced : ∀ element index, f { element with index } = f element) :
    (node : RoxNode) → (first second : Nat) →
    (node.elements first).map f = (node.elements second).map f
  | .element name attributes children, first, second => by
      rw [RoxNode.elements, RoxNode.elements, List.map_cons, List.map_cons,
        map_roxElements_shift f unplaced children (first + 1) (second + 1)]
      exact congrArg (· :: _) (unplaced ⟨second, name, attributes, children⟩ first)
  | .text _, _, _ => rfl
  | .other, _, _ => rfl

theorem map_roxElements_shift {α : Type} (f : RoxElement → α)
    (unplaced : ∀ element index, f { element with index } = f element) :
    (nodes : List RoxNode) → (first second : Nat) →
    (roxElements first nodes).map f = (roxElements second nodes).map f
  | [], _, _ => rfl
  | node :: rest, first, second => by
      rw [roxElements, roxElements, List.map_append, List.map_append,
        map_elements_shift f unplaced node first second]
      exact congrArg (_ ++ ·) (map_roxElements_shift f unplaced rest _ _)

end

namespace TreeReader

/-! ## A reader of the tree

The second reader as one over the tree of the first: names with their namespaces, adjacent text
joined, and no attribute under a prefix that is not bound.
-/

def joinText (chars : List Char) : List RoxNode → List RoxNode
  | .text more :: rest => .text (chars ++ more) :: rest
  | nodes => if chars = [] then nodes else .text chars :: nodes

mutual

def roxNode (scope : Scope) : Node → RoxNode
  | .element data children =>
      let newScope := scope.declare data.nsDecls
      .element (data.expandedName newScope)
        (data.attrs.map fun attr => (attr.expandedName newScope, attr.value))
        (roxNodes newScope children)
  | .text chars => .text chars
  | _ => .other

def roxNodes (scope : Scope) : List Node → List RoxNode
  | [] => []
  | .text chars :: rest => joinText chars (roxNodes scope rest)
  | node :: rest => roxNode scope node :: roxNodes scope rest

end

def isBound (located : Located) : Bool :=
  located.data.attrs.all fun attr =>
    attr.nsPrefix = none ∨ attrNsUri attr (located.scope.declare located.data.nsDecls) ≠ []

theorem roxElements_joinText (start : Nat) (chars : List Char) (nodes : List RoxNode) :
    roxElements start (joinText chars nodes) = roxElements start nodes := by
  rw [joinText.eq_def]
  split
  · rfl
  · split <;> rfl

theorem find?_attributes {scope : Scope} {attrs : List AttrData}
    (bound : ∀ attr ∈ attrs, attr.nsPrefix = none ∨ attrNsUri attr scope ≠ []) (name : List Char) :
    ((attrs.map fun attr => (attr.expandedName scope, attr.value)).find?
      fun entry => entry.1 = ⟨[], name⟩).map Prod.snd =
      (attrs.find? fun attr => attr.nsPrefix = none ∧ attr.localName = name).map
        AttrData.value := by
  induction attrs with
  | nil => rfl
  | cons attr rest ih =>
      have later := ih fun other member => bound other (List.mem_cons_of_mem _ member)
      have same : attr.expandedName scope = ⟨[], name⟩ ↔
          attr.nsPrefix = none ∧ attr.localName = name := by
        rw [AttrData.expandedName, ExpandedName.mk.injEq]
        refine and_congr_left fun _ => ⟨fun empty => ?_, fun unprefixed => ?_⟩
        · exact (bound attr List.mem_cons_self).resolve_right fun bound => bound empty
        · rw [attrNsUri, unprefixed]
      rw [List.map_cons, List.find?_cons, List.find?_cons]
      simp only [same]
      split
      · rfl
      · exact later

theorem counterpart_roxNode (start : Nat) (scope : Scope) (data : ElementData)
    (children : List Node) (nodes : List RoxNode)
    (bound : isBound ⟨scope, data, children⟩ = true) :
    Counterpart ⟨start, data.expandedName (scope.declare data.nsDecls),
      data.attrs.map fun attr => (attr.expandedName (scope.declare data.nsDecls), attr.value),
      nodes⟩ ⟨scope, data, children⟩ where
  localName := rfl
  values name := find?_attributes (by simpa [isBound] using bound) name.toList

mutual

theorem counterparts_roxNode : (node : Node) → (scope : Scope) → (start : Nat) →
    (∀ element ∈ located scope node, isBound element = true) →
    List.Forall₂ Counterpart ((roxNode scope node).elements start) (located scope node)
  | .element data children, scope, start, bound => by
      rw [roxNode, RoxNode.elements, located]
      rw [located] at bound
      refine .cons (counterpart_roxNode start scope data children _ (bound _ List.mem_cons_self)) ?_
      exact counterparts_roxNodes children _ _ fun element member =>
        bound element (List.mem_cons_of_mem _ member)
  | .text _, _, _, _ => .nil
  | .comment _, _, _, _ => .nil
  | .pi _ _, _, _, _ => .nil

theorem counterparts_roxNodes : (nodes : List Node) → (scope : Scope) → (start : Nat) →
    (∀ element ∈ locatedIn scope nodes, isBound element = true) →
    List.Forall₂ Counterpart (roxElements start (roxNodes scope nodes)) (locatedIn scope nodes)
  | [], _, _, _ => .nil
  | node :: rest, scope, start, bound => by
      rw [locatedIn] at bound
      have later := fun start => counterparts_roxNodes rest scope start fun element member =>
        bound element (List.mem_append_right _ member)
      have whole : List.Forall₂ Counterpart
          (roxElements start (roxNode scope node :: roxNodes scope rest))
          (locatedIn scope (node :: rest)) := by
        rw [roxElements, locatedIn]
        refine List.rel_append (counterparts_roxNode node scope start fun element member =>
          bound element (List.mem_append_left _ member)) (later _)
      cases node with
      | text chars =>
          rw [roxNodes, roxElements_joinText]
          exact later start
      | element data children => exact whole
      | comment raw => exact whole
      | pi target data => exact whole

end

scoped instance roxmltree [QuickXml] : Roxmltree where
  document xml :=
    match parse xml with
    | .error _ => .error "syntax error"
    | .ok dom =>
        if dom.elements.all isBound then .ok (roxNodes [] dom.topLevel)
        else .error "unknown namespace"
  counterparts xml nodes dom read parsed := by
    rw [parsed] at read
    simp only at read
    split at read
    · next bound =>
        cases read
        exact counterparts_roxNodes dom.topLevel [] 0 (List.all_eq_true.mp bound)
    · cases read

end TreeReader

end Chancela.Xades
