import Chancela.Xades.Information

/-! # Canonical text determines the document

Canonicalization of a whole document and of an element by its `Id`, read back: the text says
what the tree says, and canonicalizing it again changes nothing.
-/

namespace Chancela.Xades

open Markup OrderedMap

section Documents

variable {options : C14nOptions}

/-- The canonical top level: the root, and a line for each node beside it. -/
def canonTopLevel (options : C14nOptions) : Bool → List Item → List Item
  | _, [] => []
  | _, .element data children :: rest =>
      canonItem options [] [] (.element data children) ++ canonTopLevel options true rest
  | seenRoot, .comment raw :: rest =>
      (if options.algorithm.withComments then
        (if seenRoot then [.char '\n'] else []) ++ .comment raw ::
          (if seenRoot then [] else [.char '\n'])
        else []) ++ canonTopLevel options seenRoot rest
  | seenRoot, .pi target data :: rest =>
      (if seenRoot then [.char '\n'] else []) ++ .pi target data ::
        (if seenRoot then [] else [.char '\n']) ++ canonTopLevel options seenRoot rest
  | seenRoot, .char _ :: rest => canonTopLevel options seenRoot rest

attribute [local grind =] canonTopLevel

theorem canonTopLevel_chars (seenRoot : Bool) (chars : List Char) (rest : List Item) :
    canonTopLevel options seenRoot (chars.map .char ++ rest) =
      canonTopLevel options seenRoot rest := by
  induction chars with
  | nil => rfl
  | cons c chars ih => exact ih

theorem emitTopLevel_eq (whole : ∀ data, options.skip data = false) (seenRoot : Bool)
    (nodes : List Node) :
    emitTopLevel options seenRoot nodes =
      spell (piecesOf (canonTopLevel options seenRoot (flattenAll nodes))) := by
  induction nodes generalizing seenRoot with
  | nil => rfl
  | cons node rest ih =>
      cases node with
      | text chars => rw [emitTopLevel, flattenAll, flatten, canonTopLevel_chars, ih]
      | element data children =>
          rw [emitTopLevel, flattenAll, flatten, List.singleton_append, canonTopLevel,
            piecesOf_append, spell_append, ← ih,
            emit_eq options [] [] (.element data children) (whole data), flatten,
            canonItems_cons whole, canonItems, List.append_nil]
      | comment raw =>
          rw [emitTopLevel, flattenAll, flatten, List.singleton_append, canonTopLevel,
            piecesOf_append, spell_append, ← ih]
          congr 1
          cases options.algorithm.withComments <;> cases seenRoot <;>
            simp [piecesOf, itemPieces, spell, Piece.spell, charPiece, emitComment]
      | pi target data =>
          rw [emitTopLevel, flattenAll, flatten, List.singleton_append, canonTopLevel,
            piecesOf_append, spell_append, ← ih]
          congr 1
          cases seenRoot <;>
            simp [piecesOf, itemPieces, spell, Piece.spell, charPiece, emitPi, piRaw]

theorem readable_canonTopLevel (whole : ∀ data, options.skip data = false) (seenRoot : Bool)
    (items : List Item) (wellFormed : AllNamespaceWellFormed [] items) :
    ReadableAll (canonTopLevel options seenRoot items) := by
  have start : Rendering options [] [] :=
    Rendering.start options List.Pairwise.nil fun _ _ found => nomatch found
  induction items generalizing seenRoot with
  | nil => trivial
  | cons item rest ih =>
      obtain ⟨first, later⟩ := wellFormed
      cases item with
      | char c => exact ih seenRoot later
      | element data children =>
          exact readableAll_append.mpr ⟨readable_canonItem whole _ [] [] start first, ih true later⟩
      | comment raw =>
          refine readableAll_append.mpr ⟨?_, ih seenRoot later⟩
          have here : ReadableComment raw := first
          cases options.algorithm.withComments <;> cases seenRoot <;>
            simp [ReadableAll, Item.Readable, here]
      | pi target data =>
          refine readableAll_append.mpr ⟨?_, ih seenRoot later⟩
          have here : ReadablePi target data := first
          cases seenRoot <;> simp [ReadableAll, Item.Readable, here]

theorem infoAll_canonTopLevel (whole : ∀ data, options.skip data = false) (seenRoot : Bool)
    (items : List Item) (wellFormed : AllNamespaceWellFormed [] items) :
    infoAll options.algorithm.withComments []
        ((canonTopLevel options seenRoot items).filter fun item => !item.isChar) =
      infoAll options.algorithm.withComments [] (items.filter fun item => !item.isChar) := by
  have start : Rendering options [] [] :=
    Rendering.start options List.Pairwise.nil fun _ _ found => nomatch found
  induction items generalizing seenRoot with
  | nil => rfl
  | cons item rest ih =>
      obtain ⟨first, later⟩ := wellFormed
      cases item with
      | char c => exact ih seenRoot later
      | element data children =>
          have same := infoAll_canonItem whole (.element data children) [] [] start first
          rw [canonTopLevel, List.filter_append, infoAll_append, ih true later]
          exact congrArg (· ++ _) same
      | comment raw =>
          rw [canonTopLevel, List.filter_append, infoAll_append, ih seenRoot later]
          cases options.algorithm.withComments <;> cases seenRoot <;>
            simp [Item.isChar, infoAll, itemInfo]
      | pi target data =>
          rw [canonTopLevel, List.filter_append, infoAll_append, ih seenRoot later]
          cases seenRoot <;> simp [Item.isChar, infoAll, itemInfo]

theorem canonTopLevel_canonTopLevel (whole : ∀ data, options.skip data = false) (seenRoot : Bool)
    (items : List Item) (wellFormed : AllNamespaceWellFormed [] items) :
    canonTopLevel options seenRoot (canonTopLevel options seenRoot items) =
      canonTopLevel options seenRoot items := by
  have start : Rendering options [] [] :=
    Rendering.start options List.Pairwise.nil fun _ _ found => nomatch found
  induction items generalizing seenRoot with
  | nil => rfl
  | cons item rest ih =>
      obtain ⟨first, later⟩ := wellFormed
      cases item with
      | char c => exact ih seenRoot later
      | element data children =>
          have same := canonItems_canonItem whole (.element data children) [] [] start first
          rw [canonItem, canonItems_cons whole, canonItems, List.append_nil] at same
          rw [canonTopLevel, canonItem, List.singleton_append, canonTopLevel, ih true later, same]
          rfl
      | comment raw =>
          cases kept : options.algorithm.withComments <;> cases seenRoot <;>
            simp [canonTopLevel, kept, ih _ later]
      | pi target data =>
          cases seenRoot <;> simp [canonTopLevel, ih _ later]

theorem any_isElement_canonTopLevel (options : C14nOptions) (seenRoot : Bool) (items : List Item) :
    (canonTopLevel options seenRoot items).any Item.isElement = items.any Item.isElement := by
  induction items generalizing seenRoot with
  | nil => rfl
  | cons item rest ih =>
      cases item with
      | char c => exact ih seenRoot
      | element data children => simp [canonTopLevel, canonItem, Item.isElement]
      | comment raw =>
          cases kept : options.algorithm.withComments <;> cases seenRoot <;>
            simp [canonTopLevel, kept, Item.isElement, ih]
      | pi target data =>
          cases seenRoot <;> simp [canonTopLevel, Item.isElement, ih]

theorem getLast?_append_ne {front back : List Item} {last : Item}
    (tail : back.getLast? ≠ some last) (lead : back = [] → front.getLast? ≠ some last) :
    (front ++ back).getLast? ≠ some last := by
  rw [List.getLast?_append]
  cases ended : back.getLast? with
  | none => exact lead (List.getLast?_eq_none_iff.mp ended)
  | some item =>
      rw [ended] at tail
      exact tail

theorem getLast?_canonTopLevel (seenRoot : Bool) (items : List Item)
    (rooted : seenRoot = true ∨ items.any Item.isElement = true) (c : Char) :
    (canonTopLevel options seenRoot items).getLast? ≠ some (.char c) := by
  induction items generalizing seenRoot with
  | nil => simp [canonTopLevel]
  | cons item rest ih =>
      -- Before the root, the root is still to come.
      have lead : ∀ front : List Item, (seenRoot = true → front.getLast? ≠ some (.char c)) →
          (seenRoot = true ∨ rest.any Item.isElement = true) →
          (front ++ canonTopLevel options seenRoot rest).getLast? ≠ some (.char c) := by
        intro front closed later
        refine getLast?_append_ne (ih seenRoot later) fun empty => ?_
        rcases later with seen | coming
        · exact closed seen
        · rw [← any_isElement_canonTopLevel options seenRoot, empty] at coming
          cases coming
      cases item with
      | char d => exact ih seenRoot rooted
      | element data children =>
          exact getLast?_append_ne (ih true (.inl rfl)) fun _ => by simp [canonItem]
      | comment raw =>
          refine lead _ ?_ rooted
          rintro rfl
          split <;> simp
      | pi target data =>
          refine lead _ ?_ rooted
          rintro rfl
          simp

end Documents

/-! ## Elements by their Id -/

/-- An element with its scope, in a tree of items. -/
structure LocatedItem where
  scope : Scope
  data : ElementData
  children : List Item

def Located.item (element : Located) : LocatedItem :=
  ⟨element.scope, element.data, flattenAll element.children⟩

mutual

def locatedItem (scope : Scope) : Item → List LocatedItem
  | .element data children =>
      ⟨scope, data, children⟩ :: locatedItems (scope.declare data.nsDecls) children
  | _ => []

def locatedItems (scope : Scope) : List Item → List LocatedItem
  | [] => []
  | item :: rest => locatedItem scope item ++ locatedItems scope rest

end

attribute [local grind =] locatedItem locatedItems

theorem locatedItems_append (scope : Scope) (front back : List Item) :
    locatedItems scope (front ++ back) = locatedItems scope front ++ locatedItems scope back := by
  induction front with
  | nil => rfl
  | cons item rest ih => simp [locatedItems, ih]

theorem locatedItems_chars (scope : Scope) (chars : List Char) :
    locatedItems scope (chars.map .char) = [] := by
  induction chars with
  | nil => rfl
  | cons c rest ih => exact ih

mutual

theorem map_item_located : (node : Node) → (scope : Scope) →
    (located scope node).map Located.item = locatedItems scope (flatten node)
  | .text chars, scope => (locatedItems_chars scope chars).symm
  | .comment raw, scope => rfl
  | .pi target data, scope => rfl
  | .element data children, scope => by
      simp [located, flatten, locatedItems, locatedItem, Located.item,
        map_item_locatedIn children]

theorem map_item_locatedIn : (nodes : List Node) → (scope : Scope) →
    (locatedIn scope nodes).map Located.item = locatedItems scope (flattenAll nodes)
  | [], _ => rfl
  | node :: rest, scope => by
      rw [locatedIn, flattenAll, List.map_append, locatedItems_append, map_item_located node,
        map_item_locatedIn rest]

end

mutual

theorem located_sublist : (node : Node) → (scope : Scope) → ∀ element ∈ located scope node,
    (located element.scope (.element element.data element.children)).Sublist (located scope node)
  | .element data children, scope, element, member => by
      rw [located] at member
      rcases List.mem_cons.mp member with rfl | inside
      · exact List.Sublist.refl _
      · exact (locatedIn_sublist children _ element inside).cons _

theorem locatedIn_sublist : (nodes : List Node) → (scope : Scope) →
    ∀ element ∈ locatedIn scope nodes,
    (located element.scope (.element element.data element.children)).Sublist
      (locatedIn scope nodes)
  | node :: rest, scope, element, member => by
      rw [locatedIn] at member
      rcases List.mem_append.mp member with here | later
      · exact (located_sublist node scope element here).trans (List.sublist_append_left _ _)
      · exact (locatedIn_sublist rest scope element later).trans (List.sublist_append_right _ _)

end

/-- An element where canonicalization can start. -/
structure LocatedItem.WellPlaced (element : LocatedItem) : Prop where
  sorted : Sorted element.scope
  named : ∀ name uri, element.scope.get name = some uri → name ≠ [] → IsNcName name
  wellFormed : (Item.element element.data element.children).NamespaceWellFormed element.scope

mutual

theorem wellPlaced_locatedItem : (item : Item) → (scope : Scope) → Sorted scope →
    (∀ name uri, scope.get name = some uri → name ≠ [] → IsNcName name) →
    item.NamespaceWellFormed scope → ∀ element ∈ locatedItem scope item, element.WellPlaced
  | .element data children, scope, sorted, named, wellFormed, element, member => by
      rcases List.mem_cons.mp member with rfl | inside
      · exact ⟨sorted, named, wellFormed⟩
      · obtain ⟨own, inner⟩ := wellFormed
        exact wellPlaced_locatedItems children _ (sorted_declare sorted _)
          (named_declare sorted named own.toReadable) inner element inside

theorem wellPlaced_locatedItems : (items : List Item) → (scope : Scope) → Sorted scope →
    (∀ name uri, scope.get name = some uri → name ≠ [] → IsNcName name) →
    AllNamespaceWellFormed scope items → ∀ element ∈ locatedItems scope items, element.WellPlaced
  | item :: rest, scope, sorted, named, ⟨first, later⟩, element, member => by
      rcases List.mem_append.mp member with here | after
      · exact wellPlaced_locatedItem item scope sorted named first element here
      · exact wellPlaced_locatedItems rest scope sorted named later element after

end

theorem carries_canonData (options : C14nOptions) (scope rendered : Scope) (data : ElementData)
    (id : List Char) : (canonData options scope rendered data).carries id = data.carries id := by
  rw [ElementData.carries, ElementData.carries, decide_eq_decide, ElementData.ids, ElementData.ids]
  exact (((Selection.sortBy_perm (attrKey scope) data.attrs).filter _).map _).mem_iff

section Carriers

variable {options : C14nOptions}

mutual

theorem carries_canonItem (whole : ∀ data, options.skip data = false) : (item : Item) →
    ∀ scope rendered start : Scope,
    ∀ element ∈ locatedItems start (canonItem options scope rendered item),
      ∃ source ∈ locatedItem scope item, ∀ id, element.data.carries id = source.data.carries id
  | .char c, _, _, _, _, member => nomatch member
  | .comment raw, _, _, _, _, member => by
      rw [canonItem] at member
      split at member <;> exact nomatch member
  | .pi target data, _, _, _, _, member => nomatch member
  | .element data children, scope, rendered, start, element, member => by
      simp only [canonItem, locatedItems, locatedItem, List.append_nil] at member
      rcases List.mem_cons.mp member with rfl | inside
      · exact ⟨_, List.mem_cons_self, fun id => carries_canonData options _ rendered data id⟩
      · obtain ⟨source, found, same⟩ := carries_canonItems whole children _ _ _ element inside
        exact ⟨source, List.mem_cons_of_mem _ found, same⟩

theorem carries_canonItems (whole : ∀ data, options.skip data = false) : (items : List Item) →
    ∀ scope rendered start : Scope,
    ∀ element ∈ locatedItems start (canonItems options scope rendered items),
      ∃ source ∈ locatedItems scope items, ∀ id, element.data.carries id = source.data.carries id
  | [], _, _, _, _, member => nomatch member
  | item :: rest, scope, rendered, start, element, member => by
      rw [canonItems_cons whole, locatedItems_append] at member
      rcases List.mem_append.mp member with here | later
      · obtain ⟨source, found, same⟩ :=
        carries_canonItem whole item scope rendered start element here
        exact ⟨source, List.mem_append_left _ found, same⟩
      · obtain ⟨source, found, same⟩ :=
          carries_canonItems whole rest scope rendered start element later
        exact ⟨source, List.mem_append_right _ found, same⟩

end

end Carriers

theorem findById_eq_some {dom : Dom} {id : List Char} {element : Located} :
    dom.findById id = .ok (some element) ↔
      (dom.elements.filter fun element => element.data.carries id) = [element] := by
  rw [Dom.findById]
  split
  · next none_ => simp [none_]
  · next found one => simp [one]
  · next none_ one =>
      simp only [reduceCtorEq, false_iff]
      intro same
      exact one element same

theorem carries_of_findById {dom : Dom} {id : List Char} {element : Located}
    (found : dom.findById id = .ok (some element)) :
    element ∈ dom.elements ∧ element.data.carries id = true ∧
      ∀ inner ∈ locatedIn (element.scope.declare element.data.nsDecls) element.children,
        inner.data.carries id = false := by
  have only := findById_eq_some.mp found
  obtain ⟨inside, carried⟩ :=
    List.mem_filter.mp (only ▸ List.mem_cons_self : element ∈ List.filter _ _)
  refine ⟨inside, carried, fun inner member => ?_⟩
  have fewer := (locatedIn_sublist dom.topLevel [] element inside).filter
    fun element => element.data.carries id
  have nothing : (locatedIn (element.scope.declare element.data.nsDecls) element.children).filter
      (fun element => element.data.carries id) = [] := by
    rw [located, List.filter_cons, if_pos carried] at fewer
    exact List.sublist_nil.mp (List.cons_sublist_cons.mp (only ▸ fewer))
  exact Bool.eq_false_iff.mpr (List.filter_eq_nil_iff.mp nothing inner member)

theorem findById_root {dom : Dom} {id : List Char} {data : ElementData} {children : List Item}
    (flat : flattenAll dom.topLevel = [.element data children]) (carried : data.carries id = true)
    (alone : ∀ inner ∈ locatedItems (Scope.declare [] data.nsDecls) children,
      inner.data.carries id = false) :
    ∃ root, dom.findById id = .ok (some root) ∧ root.item = ⟨[], data, children⟩ := by
  have elements := map_item_locatedIn dom.topLevel []
  rw [flat, locatedItems, locatedItem, locatedItems, List.append_nil] at elements
  obtain ⟨root, rest, split, rootItem, restItems⟩ := List.map_eq_cons_iff.mp elements
  have rootCarries : root.data.carries id = true := by
    have same : root.data = data := congrArg LocatedItem.data rootItem
    rw [same, carried]
  have others : rest.filter (fun element => element.data.carries id) = [] := by
    rw [List.filter_eq_nil_iff]
    intro other member
    have shown : other.item ∈ rest.map Located.item := List.mem_map_of_mem member
    rw [restItems] at shown
    rw [Bool.not_eq_true]
    exact alone other.item shown
  refine ⟨root, ?_, rootItem⟩
  rw [findById_eq_some, Dom.elements, split, List.filter_cons, if_pos rootCarries, others]

theorem wellPlaced_of_mem {dom : Dom} (wellFormed : dom.NamespaceWellFormed) {element : Located}
    (member : element ∈ dom.elements) : element.item.WellPlaced := by
  refine wellPlaced_locatedItems _ [] List.Pairwise.nil (fun _ _ found => nomatch found)
    wellFormed.items element.item ?_
  rw [← map_item_locatedIn]
  exact List.mem_map_of_mem member

theorem canonicalizeSubtree_eq (element : Located) (options : C14nOptions)
    (whole : ∀ data, options.skip data = false) :
    element.canonicalizeSubtree options =
      spell (piecesOf (canonItem options element.scope []
        (.element element.data (flattenAll element.children)))) := by
  rw [Located.canonicalizeSubtree, emit_eq options element.scope []
    (.element element.data element.children) (whole element.data), flatten, canonItems_cons whole,
    canonItems, List.append_nil]

section Entry

variable [QuickXml]

/-- A text says this, and canonicalization leaves it as it is. -/
structure Settled (comments : Bool) (canonicalize : List Char → Except XadesError (List Char))
    (text : List Char) (info : List Info) : Prop where
  saying : ∃ again, parse text = .ok again ∧ again.info comments = info
  stable : canonicalize text = .ok text

theorem Settled.unique {comments : Bool}
    {canonicalize other : List Char → Except XadesError (List Char)} {text : List Char}
    {first second : List Info} (left : Settled comments canonicalize text first)
    (right : Settled comments other text second) : first = second := by
  obtain ⟨again, read, rfl⟩ := left.saying
  obtain ⟨dom, same, rfl⟩ := right.saying
  rw [read] at same
  rw [Except.ok.inj same]

theorem settled_document {dom : Dom} (wellFormed : dom.NamespaceWellFormed)
    (algorithm : C14nAlgorithm) (prefixes : List (List Char)) :
    Settled algorithm.withComments (canonicalizeDocument · algorithm prefixes)
      (dom.canonicalizeDocument ⟨algorithm, prefixes, fun _ => false⟩)
      (dom.info algorithm.withComments) := by
  have whole : ∀ data, C14nOptions.skip ⟨algorithm, prefixes, fun _ => false⟩ data = false :=
    fun _ => rfl
  have rooted := wellFormed.rooted
  rw [← any_isElement_flattenAll] at rooted
  have text := emitTopLevel_eq whole false dom.topLevel
  rw [Dom.canonicalizeDocument, text]
  obtain ⟨again, read, flat⟩ := parse_spell
    (readable_canonTopLevel whole false _ wellFormed.items)
    (fun c => getLast?_canonTopLevel false _ (.inr rooted) c)
    ((any_isElement_canonTopLevel _ false _).trans rooted)
  constructor
  · refine ⟨again, read, ?_⟩
    rw [Dom.info, flat]
    exact infoAll_canonTopLevel whole false _ wellFormed.items
  · rw [canonicalizeDocument, read]
    change Except.ok (emitTopLevel _ false again.topLevel) = _
    rw [emitTopLevel_eq whole, flat, canonTopLevel_canonTopLevel whole false _ wellFormed.items]

theorem settled_element {dom : Dom} (wellFormed : dom.NamespaceWellFormed) {id : List Char}
    {element : Located} (found : dom.findById id = .ok (some element))
    (algorithm : C14nAlgorithm) (prefixes : List (List Char)) :
    Settled algorithm.withComments (canonicalizeElementById · id algorithm prefixes)
      (element.canonicalizeSubtree ⟨algorithm, prefixes, fun _ => false⟩)
      (element.info algorithm.withComments) := by
  have whole : ∀ data, C14nOptions.skip ⟨algorithm, prefixes, fun _ => false⟩ data = false :=
    fun _ => rfl
  obtain ⟨inside, carried, alone⟩ := carries_of_findById found
  have placed := wellPlaced_of_mem wellFormed inside
  have own : (Item.element element.data (flattenAll element.children)).NamespaceWellFormed
      element.scope := placed.wellFormed
  have rendering : Rendering ⟨algorithm, prefixes, fun _ => false⟩ element.scope [] :=
    Rendering.start _ placed.sorted placed.named
  have canonical := canonItems_canonItem whole _ element.scope [] rendering own
  rw [canonicalizeSubtree_eq element _ whole]
  obtain ⟨again, read, flat⟩ := parse_spell
    (readable_canonItem whole _ element.scope [] rendering own)
    (fun c => by simp [canonItem]) (by simp [canonItem, Item.isElement])
  constructor
  · refine ⟨again, read, ?_⟩
    rw [Dom.info, flat]
    exact infoAll_canonItem whole _ element.scope [] rendering own
  · -- In the text read back, the Id resolves to the root.
    obtain ⟨root, refound, same⟩ := findById_root flat
      ((carries_canonData _ _ _ _ id).trans carried) (by
        intro inner member
        obtain ⟨source, original, same⟩ := carries_canonItems whole _ _ _ _ inner member
        rw [← map_item_locatedIn] at original
        obtain ⟨located, locatedMember, rfl⟩ := List.mem_map.mp original
        exact (same id).trans (alone located locatedMember))
    have rewritten : root.canonicalizeSubtree ⟨algorithm, prefixes, fun _ => false⟩ =
        spell (piecesOf (canonItem ⟨algorithm, prefixes, fun _ => false⟩ element.scope []
          (.element element.data (flattenAll element.children)))) := by
      have rooted : canonItem ⟨algorithm, prefixes, fun _ => false⟩ root.item.scope []
          (.element root.item.data root.item.children) =
          canonItem ⟨algorithm, prefixes, fun _ => false⟩ element.scope []
            (.element element.data (flattenAll element.children)) := by
        rw [same]
        rw [canonItem, canonItems_cons whole, canonItems, List.append_nil] at canonical
        rw [canonItem]
        exact canonical
      rw [canonicalizeSubtree_eq root _ whole]
      exact congrArg (fun items => spell (piecesOf items)) rooted
    rw [canonicalizeElementById_of_parse read, refound, ← rewritten]
    rfl

/-- **Canonical text preserves and determines a document.** The text of a namespace-well-formed
document, and of each element an Id resolves to, is read back to a document that says the same
and that is canonicalized to the same text. Documents and elements with equal texts say the
same. -/
theorem canonicalize_determines {dom : Dom} (wellFormed : dom.NamespaceWellFormed)
    (algorithm : C14nAlgorithm) (prefixes : List (List Char)) :
    (∀ xml, parse xml = .ok dom →
      canonicalizeDocument xml algorithm prefixes =
        .ok (dom.canonicalizeDocument ⟨algorithm, prefixes, fun _ => false⟩)) ∧
    Settled algorithm.withComments (canonicalizeDocument · algorithm prefixes)
      (dom.canonicalizeDocument ⟨algorithm, prefixes, fun _ => false⟩)
      (dom.info algorithm.withComments) ∧
    (∀ other : Dom, other.NamespaceWellFormed →
      other.canonicalizeDocument ⟨algorithm, prefixes, fun _ => false⟩ =
        dom.canonicalizeDocument ⟨algorithm, prefixes, fun _ => false⟩ →
      other.info algorithm.withComments = dom.info algorithm.withComments) ∧
    ∀ id element, dom.findById id = .ok (some element) →
      (∀ xml, parse xml = .ok dom →
        canonicalizeElementById xml id algorithm prefixes =
          .ok (element.canonicalizeSubtree ⟨algorithm, prefixes, fun _ => false⟩)) ∧
      Settled algorithm.withComments (canonicalizeElementById · id algorithm prefixes)
        (element.canonicalizeSubtree ⟨algorithm, prefixes, fun _ => false⟩)
        (element.info algorithm.withComments) ∧
      ∀ (other : Dom) (otherId : List Char) (place : Located), other.NamespaceWellFormed →
        other.findById otherId = .ok (some place) →
        place.canonicalizeSubtree ⟨algorithm, prefixes, fun _ => false⟩ =
          element.canonicalizeSubtree ⟨algorithm, prefixes, fun _ => false⟩ →
        place.info algorithm.withComments = element.info algorithm.withComments := by
  refine ⟨?_, settled_document wellFormed algorithm prefixes, ?_, ?_⟩
  · intro xml parsed
    rw [canonicalizeDocument, parsed]
    rfl
  · intro other otherFormed same
    have there := settled_document otherFormed algorithm prefixes
    rw [same] at there
    exact there.unique (settled_document wellFormed algorithm prefixes)
  · intro id element found
    refine ⟨?_, settled_element wellFormed found algorithm prefixes, ?_⟩
    · intro xml parsed
      rw [canonicalizeElementById_of_parse parsed, found]
      rfl
    · intro other otherId place otherFormed otherFound same
      have there := settled_element otherFormed otherFound algorithm prefixes
      rw [same] at there
      exact there.unique (settled_element wellFormed found algorithm prefixes)

end Entry

section Witness

open scoped Reference

/-- `<a xmlns="u" xmlns:p="v" Id="i" p:x="&lt;">t<b xmlns=""/><!--c--></a>`. -/
def mixedDocument : Dom where
  topLevel := [.element
    ⟨none, ['a'], [(none, ['u']), (some ['p'], ['v'])],
      [⟨none, ['I', 'd'], ['i']⟩, ⟨some ['p'], ['x'], ['<']⟩]⟩
    [.text ['t'], .element ⟨none, ['b'], [(none, [])], []⟩ [], .comment ['c']]]

theorem namespaceWellFormed_mixedDocument : mixedDocument.NamespaceWellFormed where
  rooted := rfl
  items := by
    have outer : ElementData.NamespaceWellFormed
        ⟨none, ['a'], [(none, ['u']), (some ['p'], ['v'])],
          [⟨none, ['I', 'd'], ['i']⟩, ⟨some ['p'], ['x'], ['<']⟩]⟩
        (Scope.declare [] [(none, ['u']), (some ['p'], ['v'])]) := by
      refine ⟨⟨(fun _ given => by cases given), by decide, ?_, ?_, by decide, by decide⟩, ?_⟩
      · simp only [List.forall_mem_cons, Option.some.injEq, forall_eq']
        exact ⟨(fun _ given => by cases given), by decide, (fun _ member => by cases member)⟩
      · simp only [List.forall_mem_cons, Option.some.injEq, forall_eq']
        exact ⟨(fun _ given => by cases given), by decide, (fun _ member => by cases member)⟩
      · intro name member nonempty _
        have named : name = ['p'] := by simpa [ElementData.visible, nonempty] using member
        exact ⟨['v'], by rw [named]; rfl, by decide⟩
    have inner : ElementData.NamespaceWellFormed ⟨none, ['b'], [(none, [])], []⟩
        (Scope.declare (Scope.declare [] [(none, ['u']), (some ['p'], ['v'])]) [(none, [])]) := by
      refine ⟨⟨(fun _ given => by cases given), by decide, ?_, (fun _ member => by cases member),
        (fun _ member => by cases member), by decide⟩, ?_⟩
      · simp only [List.forall_mem_cons]
        exact ⟨(fun _ given => by cases given), (fun _ member => by cases member)⟩
      · intro name member nonempty _
        exact absurd (by simpa [ElementData.visible] using member) nonempty
    have comment : ReadableComment ['c'] := ⟨by decide, by decide⟩
    exact ⟨⟨outer, trivial, ⟨inner, trivial⟩, comment, trivial⟩, trivial⟩

/-- A document with a default namespace that a child undeclares, and its root by its Id. -/
theorem canonicalize_determines_mixedDocument :
    mixedDocument.NamespaceWellFormed ∧
      Settled true (canonicalizeDocument · .exclusiveWithComments [])
        (mixedDocument.canonicalizeDocument ⟨.exclusiveWithComments, [], fun _ => false⟩)
        (mixedDocument.info true) ∧
      ∃ element, mixedDocument.findById ['i'] = .ok (some element) ∧
        Settled true (canonicalizeElementById · ['i'] .exclusiveWithComments [])
          (element.canonicalizeSubtree ⟨.exclusiveWithComments, [], fun _ => false⟩)
          (element.info true) := by
  obtain ⟨-, document, -, byId⟩ :=
    canonicalize_determines namespaceWellFormed_mixedDocument .exclusiveWithComments []
  exact ⟨namespaceWellFormed_mixedDocument, document, _, rfl, (byId ['i'] _ rfl).2.1⟩

end Witness

end Chancela.Xades
