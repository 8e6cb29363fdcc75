import Chancela.Xades.Namespaces
import Chancela.Xades.ReadBack
import Mathlib.Data.Multiset.Basic

/-! # The information of a document

What a document says, apart from how it is written: expanded names, the values of attributes
in no order, characters, processing instructions and, where asked for, comments. A
namespace-well-formed tree keeps it under canonicalization
(`Chancela.Xades.infoAll_canonItems`), which changes nothing the second time
(`Chancela.Xades.canonItems_canonItems`).
-/

namespace Chancela.Xades

open Markup OrderedMap

/-- A name with the namespace it is in. -/
structure ExpandedName where
  uri : List Char
  localName : List Char
deriving DecidableEq, Repr

/-- An information item. -/
inductive Info where
  | char (c : Char)
  | element (name : ExpandedName) (attributes : Multiset (ExpandedName × List Char))
      (children : List Info)
  | comment (raw : List Char)
  | pi (target data : List Char)

def namespaceOf (scope : Scope) (nsPrefix : List Char) : List Char :=
  if nsPrefix = xmlPrefix then xmlNsUri else (scope.get nsPrefix).getD []

/-- The expanded name of an element; a name without prefix is in the default namespace. -/
def ElementData.expandedName (data : ElementData) (scope : Scope) : ExpandedName :=
  ⟨namespaceOf scope (data.nsPrefix.getD []), data.localName⟩

/-- The expanded name of an attribute; a name without prefix is in no namespace. -/
def AttrData.expandedName (attr : AttrData) (scope : Scope) : ExpandedName :=
  ⟨attrNsUri attr scope, attr.localName⟩

def ElementData.attributeSet (data : ElementData) (scope : Scope) :
    Multiset (ExpandedName × List Char) :=
  Multiset.ofList (data.attrs.map fun attr => (attr.expandedName scope, attr.value))

mutual

def itemInfo (comments : Bool) (scope : Scope) : Item → List Info
  | .char c => [.char c]
  | .comment raw => if comments then [.comment raw] else []
  | .pi target data => [.pi target data]
  | .element data children =>
      let newScope := scope.declare data.nsDecls
      [.element (data.expandedName newScope) (data.attributeSet newScope)
        (infoAll comments newScope children)]

def infoAll (comments : Bool) (scope : Scope) : List Item → List Info
  | [] => []
  | item :: rest => itemInfo comments scope item ++ infoAll comments scope rest

end

theorem infoAll_append (comments : Bool) (scope : Scope) (front back : List Item) :
    infoAll comments scope (front ++ back) =
      infoAll comments scope front ++ infoAll comments scope back := by
  induction front with
  | nil => rfl
  | cons item rest ih => simp [infoAll, ih]

/-- The information of a document. White space between the top-level nodes says nothing. -/
def Dom.info (dom : Dom) (comments : Bool) : List Info :=
  infoAll comments [] ((flattenAll dom.topLevel).filter fun item => !item.isChar)

def Located.info (element : Located) (comments : Bool) : List Info :=
  itemInfo comments element.scope (.element element.data (flattenAll element.children))

/-- An element that can be written, and whose prefixes are declared. -/
structure ElementData.NamespaceWellFormed (data : ElementData) (newScope : Scope) : Prop
    extends data.Readable where
  bound : ∀ name ∈ data.visible, name ≠ [] → name ≠ xmlPrefix →
    ∃ uri, newScope.get name = some uri ∧ uri ≠ []

mutual

def Item.NamespaceWellFormed (scope : Scope) : Item → Prop
  | .char _ => True
  | .comment raw => ReadableComment raw
  | .pi target data => ReadablePi target data
  | .element data children =>
      data.NamespaceWellFormed (scope.declare data.nsDecls) ∧
        AllNamespaceWellFormed (scope.declare data.nsDecls) children

def AllNamespaceWellFormed (scope : Scope) : List Item → Prop
  | [] => True
  | item :: rest => item.NamespaceWellFormed scope ∧ AllNamespaceWellFormed scope rest

end

theorem allNamespaceWellFormed_append {scope : Scope} {front back : List Item} :
    AllNamespaceWellFormed scope (front ++ back) ↔
      AllNamespaceWellFormed scope front ∧ AllNamespaceWellFormed scope back := by
  induction front with
  | nil => simp [AllNamespaceWellFormed]
  | cons item rest ih => simp [AllNamespaceWellFormed, ih, and_assoc]

/-- A document with a root, all of whose elements are namespace well formed. -/
structure Dom.NamespaceWellFormed (dom : Dom) : Prop where
  rooted : dom.topLevel.any Node.isElement = true
  items : AllNamespaceWellFormed [] (flattenAll dom.topLevel)

/-! ## One element -/

/-- What canonicalization keeps on its way down: mappings are maps, prefixes in scope are
names, and inclusive canonicalization has written no prefix that is out of scope. -/
structure Rendering (options : C14nOptions) (scope rendered : Scope) : Prop where
  sorted : Sorted scope
  sortedRendered : Sorted rendered
  named : ∀ name uri, scope.get name = some uri → name ≠ [] → IsNcName name
  covered : options.algorithm.isExclusive = false →
    ∀ name, scope.get name = none → rendered.get name = none

theorem Rendering.start (options : C14nOptions) {scope : Scope} (sorted : Sorted scope)
    (named : ∀ name uri, scope.get name = some uri → name ≠ [] → IsNcName name) :
    Rendering options scope [] where
  sorted := sorted
  sortedRendered := List.Pairwise.nil
  named := named
  covered _ _ _ := rfl

variable {data : ElementData}

theorem named_declare {scope : Scope} (sorted : Sorted scope)
    (named : ∀ name uri, scope.get name = some uri → name ≠ [] → IsNcName name)
    (readable : data.Readable) (name uri : List Char)
    (found : (scope.declare data.nsDecls).get name = some uri) (nonempty : name ≠ []) :
    IsNcName name := by
  rcases get_declare_eq_some sorted found with before | ⟨decl, member, same, -⟩
  · exact named name uri before nonempty
  · cases given : decl.1 with
    | none =>
        rw [given] at same
        exact absurd same.symm nonempty
    | some key =>
        rw [given] at same
        exact same ▸ readable.decls decl member key given

variable {options : C14nOptions} {scope rendered : Scope}

theorem Rendering.declare (rendering : Rendering options scope rendered) (readable : data.Readable) :
    Rendering options (scope.declare data.nsDecls) rendered where
  sorted := sorted_declare rendering.sorted _
  sortedRendered := rendering.sortedRendered
  named := named_declare rendering.sorted rendering.named readable
  covered inclusive name absent :=
    rendering.covered inclusive name (get_declare_eq_none rendering.sorted absent)

/-- An element is written with prefixes in scope, with `xml`, or without one. -/
theorem written_eq_some {newScope rendered : Scope} {name uri : List Char}
    (found : written options data newScope rendered name = some uri) :
    name = [] ∨ name = xmlPrefix ∨ newScope.get name = some uri := by
  rw [written] at found
  split at found
  · split at found
    · rw [Option.map_eq_some_iff] at found
      obtain ⟨entry, rendered, rfl⟩ := found
      unfold renderPrefix at rendered
      by_cases xml : name = xmlPrefix
      · exact .inr (.inl xml)
      · simp only [if_neg xml] at rendered
        split at rendered
        · next nonempty =>
            split at rendered
            · cases rendered
              refine .inr (.inr ?_)
              cases bound : newScope.get name with
              | none =>
                  rw [bound] at nonempty
                  exact absurd rfl nonempty
              | some uri => rfl
            · cases rendered
        · split at rendered
          · next empty => exact .inl empty.1
          · cases rendered
    · cases found
  · exact .inr (.inr (Option.filter_eq_some_iff.mp found).1)

theorem Rendering.render (rendering : Rendering options scope rendered) (data : ElementData) :
    Rendering options scope (rendered.render (nsToRender options data scope rendered)) where
  sorted := rendering.sorted
  sortedRendered := sorted_render rendering.sortedRendered _
  named := rendering.named
  covered inclusive name absent := by
    rw [get_render options data rendering.sorted rendering.sortedRendered,
      rendering.covered inclusive name absent, written, inclusive]
    simp [absent]

theorem renderPrefix_again {newScope rendered next : Scope} {name : List Char}
    (left : next.get name =
      ((renderPrefix newScope rendered name).map Prod.snd).or (rendered.get name)) :
    renderPrefix next rendered name = renderPrefix newScope rendered name := by
  by_cases xml : name = xmlPrefix
  · subst xml
    by_cases new : rendered.get xmlPrefix = some ((newScope.get xmlPrefix).getD xmlNsUri)
    · have silent : renderPrefix newScope rendered xmlPrefix = none := by simp [renderPrefix, new]
      rw [silent, Option.map_none, Option.none_or, new] at left
      rw [silent]
      simp [renderPrefix, left, new]
    · have shown : renderPrefix newScope rendered xmlPrefix =
          some (xmlPrefix, (newScope.get xmlPrefix).getD xmlNsUri) := by simp [renderPrefix, new]
      rw [shown, Option.map_some, Option.some_or] at left
      rw [shown]
      simp [renderPrefix, left, new]
  · by_cases empty : (newScope.get name).getD [] = []
    · by_cases undeclared : name = [] ∧ (rendered.get []).any (· ≠ []) = true
      · obtain ⟨rfl, held⟩ := undeclared
        have shown : renderPrefix newScope rendered [] = some ([], []) := by
          rw [renderPrefix, if_neg xml, if_neg (not_not.mpr empty), if_pos ⟨rfl, held⟩]
        rw [shown, Option.map_some, Option.some_or] at left
        rw [shown, renderPrefix, if_neg xml, left, if_neg (by simp), if_pos ⟨rfl, held⟩]
      · have silent : renderPrefix newScope rendered name = none := by
          simp only [renderPrefix, xml, empty, undeclared, ↓reduceIte]
          simp
        rw [silent, Option.map_none, Option.none_or] at left
        rw [silent]
        simp only [renderPrefix, xml, left, undeclared, ↓reduceIte]
        cases held : rendered.get name with
        | none => simp
        | some uri => simp
    · by_cases new : rendered.get name = some ((newScope.get name).getD [])
      · have silent : renderPrefix newScope rendered name = none := by
          simp [renderPrefix, xml, empty, new]
        rw [silent, Option.map_none, Option.none_or, new] at left
        rw [silent]
        simp [renderPrefix, xml, left, empty, new]
      · have shown : renderPrefix newScope rendered name =
            some (name, (newScope.get name).getD []) := by
          simp [renderPrefix, xml, empty, new]
        rw [shown, Option.map_some, Option.some_or] at left
        rw [shown]
        simp [renderPrefix, xml, left, empty, new]

theorem written_again (rendering : Rendering options scope rendered) {data again : ElementData}
    (same : ∀ name, name ∈ again.visible ↔ name ∈ data.visible) (name : List Char) :
    written options again (rendered.render (nsToRender options data scope rendered)) rendered
        name = written options data scope rendered name := by
  have left := get_render options data rendering.sorted rendering.sortedRendered name
  have considered : name ∈ options.considered again ↔ name ∈ options.considered data := by
    simp [C14nOptions.considered, same]
  rw [written] at left
  rw [written, written]
  split
  · next exclusive =>
      rw [if_pos exclusive] at left
      by_cases member : name ∈ options.considered data
      · rw [if_pos member] at left
        rw [if_pos (considered.mpr member), if_pos member, renderPrefix_again left]
      · rw [if_neg (considered.not.mpr member), if_neg member]
  · next inclusive =>
      rw [if_neg inclusive] at left
      rw [left]
      cases shown : (scope.get name).filter (rendersEntry rendered name) with
      | some uri =>
          rw [Option.some_or, Option.filter_eq_some_iff]
          exact ⟨rfl, (Option.filter_eq_some_iff.mp shown).2⟩
      | none =>
          rw [Option.none_or]
          cases held : rendered.get name with
          | none => rfl
          | some uri =>
              have silent : rendersEntry rendered name uri = false := by
                rw [rendersEntry]
                split
                · next empty =>
                    rw [empty.1, empty.2] at held
                    simp [held]
                · simp [held]
              simp [silent]

theorem getD_render (rendering : Rendering options scope rendered) {name : List Char}
    (other : name ≠ xmlPrefix)
    (considered : options.algorithm.isExclusive = true → name ∈ options.considered data)
    (held : options.algorithm.isExclusive = true → name ≠ [] → (scope.get name).getD [] = [] →
      (rendered.get name).getD [] = []) :
    ((rendered.render (nsToRender options data scope rendered)).get name).getD [] =
      (scope.get name).getD [] := by
  rw [get_render options data rendering.sorted rendering.sortedRendered, written]
  by_cases exclusive : options.algorithm.isExclusive = true
  · rw [if_pos exclusive, if_pos (considered exclusive)]
    by_cases empty : (scope.get name).getD [] = []
    · by_cases default : name = []
      · subst default
        cases before : rendered.get [] with
        | none => simp [renderPrefix, other, empty, before]
        | some uri =>
            by_cases blank : uri = []
            · simp [renderPrefix, other, empty, before, blank]
            · simp [renderPrefix, other, empty, before, blank]
      · simp [renderPrefix, other, empty, default, held exclusive default empty]
    · by_cases new : rendered.get name = some ((scope.get name).getD [])
      · simp [renderPrefix, other, empty, new]
      · simp [renderPrefix, other, empty, new]
  · rw [if_neg exclusive]
    cases bound : scope.get name with
    | none =>
        rw [rendering.covered (Bool.eq_false_iff.mpr exclusive) name bound]
        rfl
    | some uri =>
        by_cases shown : rendersEntry rendered name uri = true
        · rw [Option.filter_some_pos shown]
          rfl
        · -- What is not written again is held already, or is no namespace twice.
          rw [Option.filter_some_neg (Bool.eq_false_iff.mpr shown), Option.none_or]
          rw [rendersEntry] at shown
          split at shown
          · next empty =>
              rw [empty.1, empty.2]
              cases before : rendered.get [] with
              | none => rfl
              | some other =>
                  rw [before] at shown
                  simpa using shown
          · have same : rendered.get name = some uri := by simpa using shown
            rw [same]

theorem namespaceOf_render (rendering : Rendering options scope rendered)
    (wellFormed : data.NamespaceWellFormed scope) {name : List Char} (visible : name ∈ data.visible) :
    namespaceOf (rendered.render (nsToRender options data scope rendered)) name =
      namespaceOf scope name := by
  by_cases xml : name = xmlPrefix
  · rw [namespaceOf, namespaceOf, if_pos xml, if_pos xml]
  · rw [namespaceOf, namespaceOf, if_neg xml, if_neg xml]
    apply getD_render rendering xml
    · exact fun _ => List.mem_append_left _ visible
    · intro _ nonempty empty
      obtain ⟨uri, found, given⟩ := wellFormed.bound name visible nonempty xml
      rw [found] at empty
      exact absurd empty given

theorem attrNsUri_render (rendering : Rendering options scope rendered)
    (wellFormed : data.NamespaceWellFormed scope) {attr : AttrData} (member : attr ∈ data.attrs) :
    attrNsUri attr (rendered.render (nsToRender options data scope rendered)) =
      attrNsUri attr scope := by
  cases given : attr.nsPrefix with
  | none => rw [attrNsUri, attrNsUri, given]
  | some name =>
      have visible : name ∈ data.visible :=
        List.mem_cons_of_mem _ (List.mem_filterMap.mpr ⟨attr, member, given⟩)
      have same := namespaceOf_render rendering wellFormed visible
      rw [attrNsUri, attrNsUri, given]
      exact same

theorem getD_declared (name : List Char) :
    (if name = [] then none else some name).getD [] = name := by
  split
  · next empty => exact empty.symm
  · rfl

theorem declare_canonData (options : C14nOptions) (scope rendered : Scope) (data : ElementData) :
    rendered.declare (canonData options scope rendered data).nsDecls =
      rendered.render (nsToRender options data scope rendered) := by
  rw [Scope.declare, Scope.render, canonData, List.map_map]
  congr 1
  refine (List.map_congr_left fun entry _ => ?_).trans (List.map_id _)
  exact Prod.ext (getD_declared entry.1) rfl

theorem mem_sortAttrs {scope : Scope} {attrs : List AttrData} {attr : AttrData} :
    attr ∈ sortAttrs scope attrs ↔ attr ∈ attrs :=
  (Selection.sortBy_perm _ attrs).mem_iff

theorem mem_visible_canonData (name : List Char) :
    name ∈ (canonData options scope rendered data).visible ↔ name ∈ data.visible := by
  simp [ElementData.visible, canonData, mem_sortAttrs]

theorem declName_injective : Function.Injective declName := by
  intro first second same
  rw [declName, declName] at same
  split at same
  · next empty =>
      split at same
      · next other => exact empty.trans other.symm
      · exact absurd same (by simp)
  · split at same
    · exact absurd same (by simp)
    · simpa using same

theorem ne_declName {name : List Char} (other : name ≠ xmlns ∧ ¬xmlns ++ [':'] <+: name)
    (nsPrefix : List Char) : name ≠ declName nsPrefix := by
  rintro rfl
  rw [declName] at other
  split at other
  · exact other.1 rfl
  · exact other.2 ⟨nsPrefix, by simp⟩

theorem readable_canonData (rendering : Rendering options scope rendered) (readable : data.Readable) :
    (canonData options scope rendered data).Readable where
  nsPrefix := readable.nsPrefix
  localName := readable.localName
  decls decl member name given := by
    obtain ⟨entry, inside, rfl⟩ := List.mem_map.mp member
    have nonempty : entry.1 ≠ [] := by
      intro empty
      rw [if_pos empty] at given
      cases given
    rw [if_neg nonempty] at given
    obtain rfl := Option.some.inj given
    have found : written options data scope rendered entry.1 = some entry.2 := by
      rw [← lookup_nsToRender options data rendering.sorted]
      exact (mem_iff_lookup (sorted_nsToRender options data rendering.sorted rendered)).mp inside
    rcases written_eq_some found with empty | xml | bound
    · exact absurd empty nonempty
    · rw [xml]
      exact ⟨(by decide : IsName ['x', 'm', 'l']), by decide⟩
    · exact rendering.named entry.1 entry.2 bound nonempty
  attrPrefix attr member := readable.attrPrefix attr (mem_sortAttrs.mp member)
  attrLocal attr member := readable.attrLocal attr (mem_sortAttrs.mp member)
  distinct := by
    have attrs : (data.attrs.map AttrData.qname).Nodup := by
      have all := readable.distinct
      rw [ElementData.attributes, List.map_append, List.map_map, List.map_map] at all
      exact all.of_append_right
    have names : (canonData options scope rendered data).attributes.map Prod.fst =
        (nsToRender options data scope rendered).map (fun entry => declName entry.1) ++
          (sortAttrs scope data.attrs).map AttrData.qname := by
      simp only [ElementData.attributes, canonData, List.map_append, List.map_map]
      congr 1
      exact List.map_congr_left fun entry _ => congrArg declName (getD_declared entry.1)
    rw [names]
    refine List.Nodup.append ?_ ?_ ?_
    · -- The rendered prefixes are distinct, and so are the names that declare them.
      refine List.pairwise_map.mpr
        ((sorted_nsToRender options data rendering.sorted rendered).imp ?_)
      intro first second below same
      exact below.ne (declName_injective same)
    · exact ((Selection.sortBy_perm (attrKey scope) data.attrs).map _).nodup_iff.mpr attrs
    · -- An attribute is no declaration.
      intro name declared ordinary
      obtain ⟨entry, -, rfl⟩ := List.mem_map.mp declared
      obtain ⟨attr, inside, same⟩ := List.mem_map.mp ordinary
      have member := mem_sortAttrs.mp inside
      exact ne_declName (qname_not_declares (readable.attrPrefix attr member)
        (readable.attrLocal attr member)) entry.1 same

theorem sortAttrs_again (rendering : Rendering options scope rendered)
    (wellFormed : data.NamespaceWellFormed scope) :
    sortAttrs (rendered.render (nsToRender options data scope rendered))
      (sortAttrs scope data.attrs) = sortAttrs scope data.attrs := by
  apply Selection.Ranked.sortBy_eq
  refine List.Pairwise.imp_of_mem ?_ (Selection.ranked_sortBy (attrKey scope) data.attrs)
  intro first second inFirst inSecond below
  rwa [attrKey, attrKey, attrNsUri_render rendering wellFormed (mem_sortAttrs.mp inFirst),
    attrNsUri_render rendering wellFormed (mem_sortAttrs.mp inSecond)]

theorem expandedName_canonData (rendering : Rendering options scope rendered)
    (wellFormed : data.NamespaceWellFormed scope) :
    (canonData options scope rendered data).expandedName
        (rendered.render (nsToRender options data scope rendered)) = data.expandedName scope := by
  have same := namespaceOf_render rendering wellFormed (List.mem_cons_self)
  exact congrArg (ExpandedName.mk · data.localName) same

theorem attributeSet_canonData (rendering : Rendering options scope rendered)
    (wellFormed : data.NamespaceWellFormed scope) :
    (canonData options scope rendered data).attributeSet
        (rendered.render (nsToRender options data scope rendered)) = data.attributeSet scope := by
  rw [ElementData.attributeSet, ElementData.attributeSet]
  refine Quotient.sound (List.Perm.trans ((Selection.sortBy_perm (attrKey scope) _).map _) ?_)
  refine List.Perm.of_eq (List.map_congr_left fun attr member => ?_)
  rw [AttrData.expandedName, attrNsUri_render rendering wellFormed member]
  rfl

/-! ## Whole trees -/

section Trees

variable {options : C14nOptions}

theorem skipsItem_eq_false (whole : ∀ data, options.skip data = false) (item : Item) :
    options.skipsItem item = false := by
  cases item with
  | element data children => exact whole data
  | _ => rfl

theorem canonItems_cons (whole : ∀ data, options.skip data = false) (scope rendered : Scope)
    (item : Item) (rest : List Item) :
    canonItems options scope rendered (item :: rest) =
      canonItem options scope rendered item ++ canonItems options scope rendered rest := by
  rw [canonItems, skipsItem_eq_false whole, if_neg (by simp)]

mutual

theorem readable_canonItem (whole : ∀ data, options.skip data = false) : (item : Item) →
    ∀ scope rendered, Rendering options scope rendered →
    item.NamespaceWellFormed scope → ReadableAll (canonItem options scope rendered item)
  | .char c, _, _, _, _ => ⟨trivial, trivial⟩
  | .comment raw, scope, rendered, _, wellFormed => by
      rw [canonItem]
      split
      · exact ⟨wellFormed, trivial⟩
      · trivial
  | .pi target data, _, _, _, wellFormed => ⟨wellFormed, trivial⟩
  | .element data children, scope, rendered, rendering, ⟨own, inner⟩ => by
      have here := rendering.declare own.toReadable
      exact ⟨⟨readable_canonData here own.toReadable,
        readable_canonItems whole children _ _ (here.render data) inner⟩, trivial⟩

theorem readable_canonItems (whole : ∀ data, options.skip data = false) : (items : List Item) →
    ∀ scope rendered, Rendering options scope rendered → AllNamespaceWellFormed scope items →
    ReadableAll (canonItems options scope rendered items)
  | [], _, _, _, _ => trivial
  | item :: rest, scope, rendered, rendering, ⟨first, later⟩ => by
      rw [canonItems_cons whole]
      exact readableAll_append.mpr ⟨readable_canonItem whole item scope rendered rendering first,
        readable_canonItems whole rest scope rendered rendering later⟩

end

mutual

theorem infoAll_canonItem (whole : ∀ data, options.skip data = false) : (item : Item) →
    ∀ scope rendered, Rendering options scope rendered →
    item.NamespaceWellFormed scope →
    infoAll options.algorithm.withComments rendered (canonItem options scope rendered item) =
      itemInfo options.algorithm.withComments scope item
  | .char c, _, _, _, _ => rfl
  | .comment raw, scope, rendered, _, _ => by
      rw [canonItem, itemInfo]
      split
      · next kept => simp [infoAll, itemInfo, kept]
      · rfl
  | .pi target data, _, _, _, _ => rfl
  | .element data children, scope, rendered, rendering, ⟨own, inner⟩ => by
      have here := rendering.declare own.toReadable
      simp only [canonItem, infoAll, itemInfo, List.append_nil, declare_canonData,
        expandedName_canonData here own, attributeSet_canonData here own,
        infoAll_canonItems whole children _ _ (here.render data) inner]

theorem infoAll_canonItems (whole : ∀ data, options.skip data = false) : (items : List Item) →
    ∀ scope rendered, Rendering options scope rendered → AllNamespaceWellFormed scope items →
    infoAll options.algorithm.withComments rendered (canonItems options scope rendered items) =
      infoAll options.algorithm.withComments scope items
  | [], _, _, _, _ => rfl
  | item :: rest, scope, rendered, rendering, ⟨first, later⟩ => by
      rw [canonItems_cons whole, infoAll, infoAll_append,
        infoAll_canonItem whole item scope rendered rendering first,
        infoAll_canonItems whole rest scope rendered rendering later]

end

mutual

theorem canonItems_canonItem (whole : ∀ data, options.skip data = false) : (item : Item) →
    ∀ scope rendered, Rendering options scope rendered → item.NamespaceWellFormed scope →
    canonItems options rendered rendered (canonItem options scope rendered item) =
      canonItem options scope rendered item
  | .char c, _, _, _, _ => by simp [canonItem, canonItems_cons whole, canonItems]
  | .comment raw, scope, rendered, _, _ => by
      rw [canonItem]
      split
      · next kept => rw [canonItems_cons whole, canonItem, canonItems, if_pos kept, List.append_nil]
      · rfl
  | .pi target data, _, _, _, _ => by simp [canonItem, canonItems_cons whole, canonItems]
  | .element data children, scope, rendered, rendering, ⟨own, inner⟩ => by
      have here := rendering.declare own.toReadable
      have declared : nsToRender options
          (canonData options (scope.declare data.nsDecls) rendered data)
          (rendered.render (nsToRender options data (scope.declare data.nsDecls) rendered))
          rendered = nsToRender options data (scope.declare data.nsDecls) rendered := by
        have next := sorted_render here.sortedRendered
          (nsToRender options data (scope.declare data.nsDecls) rendered)
        apply (sorted_nsToRender options _ next rendered).eq_of_lookup
          (sorted_nsToRender options data here.sorted rendered)
        intro name
        rw [lookup_nsToRender options _ next, lookup_nsToRender options data here.sorted,
          written_again here mem_visible_canonData]
      have same : canonData options
          (rendered.render (nsToRender options data (scope.declare data.nsDecls) rendered))
          rendered (canonData options (scope.declare data.nsDecls) rendered data) =
          canonData options (scope.declare data.nsDecls) rendered data := by
        have sorted := sortAttrs_again here own
        rw [canonData, declared]
        exact congrArg (fun attrs => { data with
          nsDecls := (canonData options (scope.declare data.nsDecls) rendered data).nsDecls
          attrs }) sorted
      simp only [canonItem, canonItems_cons whole, canonItems, List.append_nil, declare_canonData,
        same, declared, canonItems_canonItems whole children _ _ (here.render data) inner]

theorem canonItems_canonItems (whole : ∀ data, options.skip data = false) : (items : List Item) →
    ∀ scope rendered, Rendering options scope rendered → AllNamespaceWellFormed scope items →
    canonItems options rendered rendered (canonItems options scope rendered items) =
      canonItems options scope rendered items
  | [], _, _, _, _ => rfl
  | item :: rest, scope, rendered, rendering, ⟨first, later⟩ => by
      rw [canonItems_cons whole, canonItems_append,
        canonItems_canonItem whole item scope rendered rendering first,
        canonItems_canonItems whole rest scope rendered rendering later]

end

end Trees

end Chancela.Xades
