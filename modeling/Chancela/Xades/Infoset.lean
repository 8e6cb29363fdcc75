import Chancela.Xades.RoundTrip

/-! # What canonical text keeps

The information set of a tree with the prefixes it is written with: attributes by expanded
name, the namespaces that count at each element, characters one by one. Canonicalization keeps
it (`Chancela.Xades.infosetAll_canonItems`) and looks at nothing else, but for declarations of
the prefix `xml` (`Chancela.Xades.canonItems_of_infoset`).
-/

namespace Chancela.Xades

open Markup OrderedMap

/-- An information item, as a canonical form shows it. -/
inductive Infoset where
  | char (c : Char)
  | element (nsPrefix : Option (List Char)) (localName : List Char)
      (attributes : ExpandedName → List AttrData) (namespaces : List Char → List Char)
      (children : List Infoset)
  | comment (raw : List Char)
  | pi (target data : List Char)

/-- A prefix whose namespace counts at an element: exclusive canonicalization looks at prefixes
that are visibly used or listed. The binding of `xml` is predefined. -/
def C14nOptions.Counts (options : C14nOptions) (data : ElementData) (nsPrefix : List Char) : Prop :=
  nsPrefix ≠ xmlPrefix ∧
    (options.algorithm.isExclusive = true → nsPrefix ∈ options.considered data)

instance (options : C14nOptions) (data : ElementData) (nsPrefix : List Char) :
    Decidable (options.Counts data nsPrefix) :=
  inferInstanceAs (Decidable (_ ∧ _))

/-- The namespaces of an element that count, none under the other prefixes. -/
def C14nOptions.namespaces (options : C14nOptions) (data : ElementData) (scope : Scope)
    (nsPrefix : List Char) : List Char :=
  if options.Counts data nsPrefix then (scope.get nsPrefix).getD [] else []

/-- The attributes of an expanded name. Well-formed documents have one at most. -/
def ElementData.attributesNamed (data : ElementData) (scope : Scope) (name : ExpandedName) :
    List AttrData :=
  data.attrs.filter fun attr => attr.expandedName scope = name

mutual

def itemInfoset (options : C14nOptions) (scope : Scope) : Item → List Infoset
  | .char c => [.char c]
  | .comment raw => if options.algorithm.withComments then [.comment raw] else []
  | .pi target data => [.pi target data]
  | .element data children =>
      let newScope := scope.declare data.nsDecls
      [.element data.nsPrefix data.localName (data.attributesNamed newScope)
        (options.namespaces data newScope) (infosetAll options newScope children)]

def infosetAll (options : C14nOptions) (scope : Scope) : List Item → List Infoset
  | [] => []
  | item :: rest => itemInfoset options scope item ++ infosetAll options scope rest

end

theorem infosetAll_append (options : C14nOptions) (scope : Scope) (front back : List Item) :
    infosetAll options scope (front ++ back) =
      infosetAll options scope front ++ infosetAll options scope back := by
  induction front with
  | nil => rfl
  | cons item rest ih => simp [infosetAll, ih]

mutual

/-- A condition on each element of an item, in the scope of its content. -/
def Item.Every (holds : ElementData → Scope → Prop) (scope : Scope) : Item → Prop
  | .element data children =>
      holds data (scope.declare data.nsDecls) ∧
        EveryOf holds (scope.declare data.nsDecls) children
  | _ => True

def EveryOf (holds : ElementData → Scope → Prop) (scope : Scope) : List Item → Prop
  | [] => True
  | item :: rest => item.Every holds scope ∧ EveryOf holds scope rest

end

theorem everyOf_append {holds : ElementData → Scope → Prop} {scope : Scope}
    {front back : List Item} :
    EveryOf holds scope (front ++ back) ↔ EveryOf holds scope front ∧ EveryOf holds scope back := by
  induction front with
  | nil => simp [EveryOf]
  | cons item rest ih => simp [EveryOf, ih, and_assoc]

/-- No prefix is declared without a namespace; only the default namespace can be undeclared. -/
def ElementData.Declares (data : ElementData) : Prop :=
  ∀ decl ∈ data.nsDecls, ∀ name, decl.1 = some name → decl.2 ≠ []

/-- The element is written without a declaration of `xml`: exclusive canonicalization sees the
prefix neither used nor listed, inclusive canonicalization has no declaration of it in scope. -/
def C14nOptions.XmlSilent (options : C14nOptions) (data : ElementData) (newScope : Scope) : Prop :=
  if options.algorithm.isExclusive then xmlPrefix ∉ options.considered data
  else newScope.get xmlPrefix = none

/-- What canonicalization keeps on its way down a tree without undeclared prefixes: what is in
scope has a namespace, and nothing out of scope was written. -/
structure Faithful (options : C14nOptions) (scope rendered : Scope) : Prop
    extends Rendering options scope rendered where
  declared : ∀ name, name ≠ [] → scope.get name ≠ some []
  within : ∀ name, name ≠ [] → name ≠ xmlPrefix → scope.get name = none →
    rendered.get name = none

theorem Faithful.start (options : C14nOptions) : Faithful options [] [] where
  toRendering := Rendering.start options List.Pairwise.nil fun _ _ found => nomatch found
  declared _ _ found := nomatch found
  within _ _ _ _ := rfl

section Element

variable {options : C14nOptions} {scope rendered : Scope} {data : ElementData}

theorem Faithful.declare (faithful : Faithful options scope rendered) (readable : data.Readable)
    (declares : data.Declares) :
    Faithful options (scope.declare data.nsDecls) rendered where
  toRendering := faithful.toRendering.declare readable
  declared name nonempty found := by
    rcases get_declare_eq_some faithful.sorted found with before | ⟨decl, member, same, empty⟩
    · exact faithful.declared name nonempty before
    · cases given : decl.1 with
      | none =>
          rw [given] at same
          exact nonempty same.symm
      | some key => exact declares decl member key given empty
  within name nonempty other absent :=
    faithful.within name nonempty other (get_declare_eq_none faithful.sorted absent)

theorem Faithful.render (faithful : Faithful options scope rendered) (data : ElementData) :
    Faithful options scope (rendered.render (nsToRender options data scope rendered)) where
  toRendering := faithful.toRendering.render data
  declared := faithful.declared
  within name nonempty other absent := by
    rw [get_render options data faithful.sorted faithful.sortedRendered, Option.or_eq_none_iff]
    refine ⟨?_, faithful.within name nonempty other absent⟩
    cases found : written options data scope rendered name with
    | none => rfl
    | some uri =>
        rcases written_eq_some found with empty | xml | bound
        · exact absurd empty nonempty
        · exact absurd xml other
        · rw [absent] at bound
          cases bound

theorem Faithful.getD_rendered (faithful : Faithful options scope rendered) {name : List Char}
    (nonempty : name ≠ []) (other : name ≠ xmlPrefix) (absent : (scope.get name).getD [] = []) :
    (rendered.get name).getD [] = [] := by
  cases found : scope.get name with
  | none =>
      rw [faithful.within name nonempty other found]
      rfl
  | some uri =>
      rw [found] at absent
      have empty : uri = [] := absent
      rw [empty] at found
      exact absurd found (faithful.declared name nonempty)

theorem namespaces_canonData (faithful : Faithful options scope rendered) (data : ElementData) :
    options.namespaces (canonData options scope rendered data)
        (rendered.render (nsToRender options data scope rendered)) =
      options.namespaces data scope := by
  funext name
  have counts : options.Counts (canonData options scope rendered data) name ↔
      options.Counts data name := by
    simp [C14nOptions.Counts, C14nOptions.considered, mem_visible_canonData]
  rw [C14nOptions.namespaces, C14nOptions.namespaces]
  by_cases counted : options.Counts data name
  · rw [if_pos counted, if_pos (counts.mpr counted)]
    apply getD_render faithful.toRendering counted.1 counted.2
    exact fun _ nonempty absent => faithful.getD_rendered nonempty counted.1 absent
  · rw [if_neg counted, if_neg (counts.not.mpr counted)]

theorem expandedName_eq_iff {attr : AttrData} {name : ExpandedName} :
    attr.expandedName scope = name ↔ attrKey scope attr = toLex (name.uri, name.localName) := by
  obtain ⟨uri, localName⟩ := name
  simp [AttrData.expandedName, attrKey]

theorem attributesNamed_canonData (rendering : Rendering options scope rendered)
    (wellFormed : data.NamespaceWellFormed scope) :
    (canonData options scope rendered data).attributesNamed
        (rendered.render (nsToRender options data scope rendered)) =
      data.attributesNamed scope := by
  funext name
  have kept : (sortAttrs scope data.attrs).filter (fun attr => attr.expandedName scope = name) =
      data.attrs.filter fun attr => attr.expandedName scope = name := by
    simp only [expandedName_eq_iff, sortAttrs]
    convert Selection.filter_sortBy data.attrs (toLex (name.uri, name.localName))
  rw [ElementData.attributesNamed, ElementData.attributesNamed, ← kept]
  apply List.filter_congr
  intro attr member
  rw [AttrData.expandedName, AttrData.expandedName,
    attrNsUri_render rendering wellFormed (mem_sortAttrs.mp member)]

theorem renderPrefix_of_getD {other : Scope} {name : List Char} (plain : name ≠ xmlPrefix)
    (same : (scope.get name).getD [] = (other.get name).getD []) :
    renderPrefix scope rendered name = renderPrefix other rendered name := by
  rw [renderPrefix, renderPrefix, if_neg plain, if_neg plain]
  simp only [same]

theorem written_eq (faithful : Faithful options scope rendered) (data : ElementData)
    {name : List Char} (plain : name ≠ xmlPrefix) :
    written options data scope rendered name =
      if options.Counts data name then (renderPrefix scope rendered name).map Prod.snd
      else none := by
  rw [written]
  by_cases exclusive : options.algorithm.isExclusive = true
  · simp [C14nOptions.Counts, exclusive, plain]
  · rw [if_neg exclusive, if_pos ⟨plain, fun given => absurd given exclusive⟩, renderPrefix,
      if_neg plain]
    cases bound : scope.get name with
    | none =>
        have absent := faithful.covered (Bool.eq_false_iff.mpr exclusive) name bound
        by_cases default : name = []
        · subst default
          simp [absent]
        · simp [default]
    | some uri =>
        by_cases empty : uri = []
        · by_cases default : name = []
          · subst default empty
            simp [rendersEntry, Option.filter]
          · rw [empty] at bound
            exact absurd bound (faithful.declared name default)
        · by_cases held : rendered.get name = some uri
          · simp [rendersEntry, Option.filter, empty, held]
          · simp [rendersEntry, Option.filter, empty, held]

/-- The prefix `xml` is not written first where the element is silent about it. -/
theorem written_xml_eq_none_iff (absent : rendered.get xmlPrefix = none) :
    written options data scope rendered xmlPrefix = none ↔ options.XmlSilent data scope := by
  rw [written, C14nOptions.XmlSilent]
  split
  · by_cases considered : xmlPrefix ∈ options.considered data
    · simp [considered, renderPrefix, absent]
    · simp [considered]
  · cases bound : scope.get xmlPrefix with
    | none => simp
    | some uri =>
        have nonempty : xmlPrefix ≠ [] := List.cons_ne_nil _ _
        simp [rendersEntry, Option.filter, absent, nonempty]

/-- **The declarations of an element depend on the namespaces that count.** -/
theorem nsToRender_of_namespaces {other : Scope} (faithful : Faithful options scope rendered)
    (faithfulOther : Faithful options other rendered) {first second : ElementData}
    (visible : ∀ name, name ∈ first.visible ↔ name ∈ second.visible)
    (silent : options.XmlSilent first scope) (silentOther : options.XmlSilent second other)
    (absent : rendered.get xmlPrefix = none)
    (same : options.namespaces first scope = options.namespaces second other) :
    nsToRender options first scope rendered = nsToRender options second other rendered := by
  apply (sorted_nsToRender options first faithful.sorted rendered).eq_of_lookup
    (sorted_nsToRender options second faithfulOther.sorted rendered)
  intro name
  rw [lookup_nsToRender options first faithful.sorted,
    lookup_nsToRender options second faithfulOther.sorted]
  by_cases xml : name = xmlPrefix
  · subst xml
    rw [(written_xml_eq_none_iff absent).mpr silent,
      (written_xml_eq_none_iff absent).mpr silentOther]
  · have counts : options.Counts first name ↔ options.Counts second name := by
      simp [C14nOptions.Counts, C14nOptions.considered, visible]
    rw [written_eq faithful first xml, written_eq faithfulOther second xml]
    by_cases counted : options.Counts first name
    · have bound := congrFun same name
      rw [C14nOptions.namespaces, C14nOptions.namespaces, if_pos counted,
        if_pos (counts.mp counted)] at bound
      rw [if_pos counted, if_pos (counts.mp counted), renderPrefix_of_getD xml bound]
    · rw [if_neg counted, if_neg (counts.not.mp counted)]

theorem mem_attributesNamed {attr : AttrData} :
    attr ∈ data.attrs ↔ ∃ name, attr ∈ data.attributesNamed scope name := by
  simp [ElementData.attributesNamed]

/-- **Attributes are written in an order that depends on their expanded names.** -/
theorem sortAttrs_of_attributes {other : Scope} {first second : ElementData}
    (same : first.attributesNamed scope = second.attributesNamed other) :
    sortAttrs scope first.attrs = sortAttrs other second.attrs := by
  apply Selection.sortBy_eq_of_filter
  intro key
  have named := congrFun same ⟨(ofLex key).1, (ofLex key).2⟩
  rw [ElementData.attributesNamed, ElementData.attributesNamed] at named
  simp only [expandedName_eq_iff] at named
  convert named <;> rfl

theorem visible_of_attributes {other : Scope} {first second : ElementData}
    (nsPrefix : first.nsPrefix = second.nsPrefix)
    (same : first.attributesNamed scope = second.attributesNamed other) (name : List Char) :
    name ∈ first.visible ↔ name ∈ second.visible := by
  have attrs : ∀ attr, attr ∈ first.attrs ↔ attr ∈ second.attrs := by
    intro attr
    rw [@mem_attributesNamed scope, @mem_attributesNamed other, same]
  simp [ElementData.visible, nsPrefix, attrs]

end Element

/-- A tree where canonicalization can go on. -/
structure Clean (options : C14nOptions) (scope rendered : Scope) (items : List Item) : Prop where
  faithful : Faithful options scope rendered
  wellFormed : AllNamespaceWellFormed scope items
  declares : EveryOf (fun data _ => data.Declares) scope items

section Trees

variable {options : C14nOptions} {scope rendered : Scope}

theorem clean_append {front back : List Item} :
    Clean options scope rendered (front ++ back) ↔
      Clean options scope rendered front ∧ Clean options scope rendered back := by
  constructor
  · rintro ⟨faithful, wellFormed, declares⟩
    obtain ⟨wellFront, wellBack⟩ := allNamespaceWellFormed_append.mp wellFormed
    obtain ⟨declFront, declBack⟩ := everyOf_append.mp declares
    exact ⟨⟨faithful, wellFront, declFront⟩, ⟨faithful, wellBack, declBack⟩⟩
  · rintro ⟨front, back⟩
    exact ⟨front.faithful, allNamespaceWellFormed_append.mpr ⟨front.wellFormed, back.wellFormed⟩,
      everyOf_append.mpr ⟨front.declares, back.declares⟩⟩

theorem Clean.of_cons {item : Item} {rest : List Item}
    (clean : Clean options scope rendered (item :: rest)) :
    Clean options scope rendered [item] ∧ Clean options scope rendered rest :=
  clean_append.mp clean

theorem Clean.own {children : List Item}
    (clean : Clean options scope rendered [.element data children]) :
    data.NamespaceWellFormed (scope.declare data.nsDecls) :=
  clean.wellFormed.1.1

theorem Clean.declared {children : List Item}
    (clean : Clean options scope rendered [.element data children]) :
    Faithful options (scope.declare data.nsDecls) rendered :=
  clean.faithful.declare clean.own.toReadable clean.declares.1.1

theorem Clean.children {children : List Item}
    (clean : Clean options scope rendered [.element data children]) :
    Clean options (scope.declare data.nsDecls)
      (rendered.render (nsToRender options data (scope.declare data.nsDecls) rendered))
      children where
  faithful := clean.declared.render data
  wellFormed := clean.wellFormed.1.2
  declares := clean.declares.1.2

/-! ## Canonical items show the information set -/

mutual

theorem infosetAll_canonItem (whole : ∀ data, options.skip data = false) : (item : Item) →
    ∀ scope rendered, Clean options scope rendered [item] →
    infosetAll options rendered (canonItem options scope rendered item) =
      itemInfoset options scope item
  | .char c, _, _, _ => rfl
  | .comment raw, scope, rendered, _ => by
      rw [canonItem, itemInfoset]
      split
      · next kept => simp [infosetAll, itemInfoset, kept]
      · rfl
  | .pi target data, _, _, _ => rfl
  | .element data children, scope, rendered, clean => by
      have inner := infosetAll_canonItems whole children _ _ clean.children
      simp only [canonItem, infosetAll, itemInfoset, List.append_nil, declare_canonData,
        attributesNamed_canonData clean.declared.toRendering clean.own,
        namespaces_canonData clean.declared, inner]
      rfl

theorem infosetAll_canonItems (whole : ∀ data, options.skip data = false) : (items : List Item) →
    ∀ scope rendered, Clean options scope rendered items →
    infosetAll options rendered (canonItems options scope rendered items) =
      infosetAll options scope items
  | [], _, _, _ => rfl
  | item :: rest, scope, rendered, clean => by
      obtain ⟨here, later⟩ := clean.of_cons
      rw [canonItems_cons whole, infosetAll, infosetAll_append,
        infosetAll_canonItem whole item scope rendered here,
        infosetAll_canonItems whole rest scope rendered later]

end

/-! ## Canonical items depend on the information set -/

theorem itemInfoset_eq_nil_iff {item : Item} : itemInfoset options scope item = [] ↔
    ∃ raw, item = .comment raw ∧ options.algorithm.withComments = false := by
  cases item with
  | comment raw =>
      by_cases kept : options.algorithm.withComments = true <;> simp [itemInfoset, kept]
  | _ => simp [itemInfoset]

theorem itemInfoset_cases (options : C14nOptions) (scope : Scope) (item : Item) :
    itemInfoset options scope item = [] ∨ ∃ head, itemInfoset options scope item = [head] := by
  cases item with
  | comment raw =>
      by_cases kept : options.algorithm.withComments = true <;> simp [itemInfoset, kept]
  | _ => exact .inr ⟨_, rfl⟩

theorem canonItem_eq_nil {item : Item} (silent : itemInfoset options scope item = []) :
    canonItem options scope rendered item = [] := by
  obtain ⟨raw, rfl, dropped⟩ := itemInfoset_eq_nil_iff.mp silent
  simp [canonItem, dropped]

variable {items : List Item}

theorem canonItems_eq_nil (whole : ∀ data, options.skip data = false)
    (silent : ∀ item ∈ items, itemInfoset options scope item = []) :
    canonItems options scope rendered items = [] := by
  induction items with
  | nil => rfl
  | cons item rest ih =>
      rw [canonItems_cons whole, canonItem_eq_nil (silent item List.mem_cons_self),
        ih fun other member => silent other (List.mem_cons_of_mem _ member)]
      rfl

theorem infosetAll_eq_nil_iff :
    infosetAll options scope items = [] ↔ ∀ item ∈ items, itemInfoset options scope item = [] := by
  induction items with
  | nil => simp [infosetAll]
  | cons item rest ih => simp [infosetAll, ih]

theorem exists_of_infosetAll {head : Infoset} {tail : List Infoset}
    (said : infosetAll options scope items = head :: tail) :
    ∃ front item back, items = front ++ item :: back ∧
      (∀ other ∈ front, itemInfoset options scope other = []) ∧
      itemInfoset options scope item = [head] ∧ infosetAll options scope back = tail := by
  induction items with
  | nil => cases said
  | cons item rest ih =>
      rw [infosetAll] at said
      rcases itemInfoset_cases options scope item with silent | ⟨own, shown⟩
      · rw [silent, List.nil_append] at said
        obtain ⟨front, first, back, rfl, before, here, after⟩ := ih said
        refine ⟨item :: front, first, back, rfl, ?_, here, after⟩
        exact List.forall_mem_cons.mpr ⟨silent, before⟩
      · rw [shown, List.singleton_append] at said
        obtain ⟨rfl, rfl⟩ := List.cons.inj said
        exact ⟨[], item, rest, rfl, (fun _ member => nomatch member), shown, rfl⟩

mutual

theorem canonItem_of_infoset (whole : ∀ data, options.skip data = false) : (item : Item) →
    ∀ (other : Item) (scope place rendered : Scope), rendered.get xmlPrefix = none →
    Clean options scope rendered [item] → Clean options place rendered [other] →
    item.Every options.XmlSilent scope → other.Every options.XmlSilent place →
    itemInfoset options scope item = itemInfoset options place other →
    canonItem options scope rendered item = canonItem options place rendered other
  | .char c, other, scope, place, rendered, _, _, _, _, _, same => by
      cases other with
      | char d =>
          simp only [itemInfoset, List.cons.injEq, Infoset.char.injEq, and_true] at same
          rw [same]
          rfl
      | comment raw =>
          rw [itemInfoset, itemInfoset] at same
          split at same <;> cases same
      | _ => cases same
  | .comment raw, other, scope, place, rendered, _, _, _, _, _, same => by
      cases kept : options.algorithm.withComments with
      | false =>
          have silent : itemInfoset options scope (.comment raw) = [] := by
            simp [itemInfoset, kept]
          rw [canonItem_eq_nil silent, canonItem_eq_nil (same ▸ silent)]
      | true =>
          cases other with
          | comment text =>
              simp only [itemInfoset, kept, ↓reduceIte, List.cons.injEq, Infoset.comment.injEq,
                and_true] at same
              rw [same]
              rfl
          | _ => simp [itemInfoset, kept] at same
  | .pi target data, other, scope, place, rendered, _, _, _, _, _, same => by
      cases other with
      | pi name text =>
          simp only [itemInfoset, List.cons.injEq, Infoset.pi.injEq, and_true] at same
          rw [same.1, same.2]
          rfl
      | comment raw =>
          rw [itemInfoset, itemInfoset] at same
          split at same <;> cases same
      | _ => cases same
  | .element data children, other, scope, place, rendered, absent, clean, cleanOther, silent,
      silentOther, same => by
      cases other with
      | element second inner =>
          simp only [itemInfoset, List.cons.injEq, Infoset.element.injEq, and_true] at same
          obtain ⟨nsPrefix, localName, attributes, namespaces, said⟩ := same
          have declarations := nsToRender_of_namespaces clean.declared cleanOther.declared
            (visible_of_attributes nsPrefix attributes) silent.1 silentOther.1 absent namespaces
          have own : canonData options (scope.declare data.nsDecls) rendered data =
              canonData options (place.declare second.nsDecls) rendered second := by
            simp only [canonData, nsPrefix, localName, declarations,
              sortAttrs_of_attributes attributes]
          have below := cleanOther.children
          rw [← declarations] at below
          rw [canonItem, canonItem]
          simp only [own, ← declarations]
          rw [canonItems_of_infoset whole children inner _ _ _ ?_ clean.children below silent.2
            silentOther.2 said]
          rw [get_render options data clean.declared.sorted clean.declared.sortedRendered,
            (written_xml_eq_none_iff absent).mpr silent.1, absent]
          rfl
      | comment raw =>
          rw [itemInfoset, itemInfoset] at same
          split at same <;> cases same
      | _ => cases same

/-- **Equal information sets are written alike.** -/
theorem canonItems_of_infoset (whole : ∀ data, options.skip data = false) : (items : List Item) →
    ∀ (others : List Item) (scope place rendered : Scope), rendered.get xmlPrefix = none →
    Clean options scope rendered items → Clean options place rendered others →
    EveryOf options.XmlSilent scope items → EveryOf options.XmlSilent place others →
    infosetAll options scope items = infosetAll options place others →
    canonItems options scope rendered items = canonItems options place rendered others
  | [], others, scope, place, rendered, _, _, _, _, _, same =>
      (canonItems_eq_nil whole (infosetAll_eq_nil_iff.mp same.symm)).symm
  | item :: rest, others, scope, place, rendered, absent, clean, cleanOther, silent, silentOther,
      same => by
      obtain ⟨here, later⟩ := clean.of_cons
      rw [canonItems_cons whole]
      rw [infosetAll] at same
      rcases itemInfoset_cases options scope item with nothing | ⟨head, shown⟩
      · rw [nothing, List.nil_append] at same
        rw [canonItem_eq_nil nothing, List.nil_append]
        exact canonItems_of_infoset whole rest others scope place rendered absent later cleanOther
          silent.2 silentOther same
      · rw [shown, List.singleton_append] at same
        obtain ⟨front, first, back, rfl, before, matched, after⟩ := exists_of_infosetAll same.symm
        obtain ⟨-, cleanBack⟩ := clean_append.mp cleanOther
        obtain ⟨-, silentBack⟩ := everyOf_append.mp silentOther
        rw [canonItems_append, canonItems_eq_nil whole before, List.nil_append,
          canonItems_cons whole,
          canonItem_of_infoset whole item first scope place rendered absent here cleanBack.of_cons.1
            silent.1 silentBack.1 (shown.trans matched.symm),
          canonItems_of_infoset whole rest back scope place rendered absent later
            cleanBack.of_cons.2 silent.2 silentBack.2 after.symm]

end

/-! ## Declarations of `xml` -/

/-- No declaration binds the prefix `xml`. -/
def ElementData.DeclaresNoXml (data : ElementData) : Prop :=
  ∀ decl ∈ data.nsDecls, decl.1 ≠ some xmlPrefix

theorem declaresNoXml_canonData (faithful : Faithful options scope rendered) (data : ElementData)
    (absent : rendered.get xmlPrefix = none) :
    (canonData options scope rendered data).DeclaresNoXml ↔ options.XmlSilent data scope := by
  rw [← written_xml_eq_none_iff absent, ← lookup_nsToRender options data faithful.sorted]
  constructor
  · intro none_
    apply lookup_eq_none
    intro entry member xml
    apply none_ _ (List.mem_map_of_mem member)
    simp [xml, xmlPrefix]
  · intro absent decl member declared
    obtain ⟨entry, inside, rfl⟩ := List.mem_map.mp member
    apply ne_of_lookup_eq_none absent entry inside
    by_cases empty : entry.1 = []
    · simp [empty] at declared
    · simpa [empty] using declared

mutual

theorem every_declaresNoXml_canonItem (whole : ∀ data, options.skip data = false) : (item : Item) →
    ∀ (start scope rendered : Scope), rendered.get xmlPrefix = none →
    Clean options scope rendered [item] →
    (EveryOf (fun data _ => data.DeclaresNoXml) start (canonItem options scope rendered item) ↔
      item.Every options.XmlSilent scope)
  | .char c, _, _, _, _, _ => by simp [canonItem, EveryOf, Item.Every]
  | .comment raw, _, _, _, _, _ => by
      rw [canonItem]
      split <;> simp [EveryOf, Item.Every]
  | .pi target data, _, _, _, _, _ => by simp [canonItem, EveryOf, Item.Every]
  | .element data children, start, scope, rendered, absent, clean => by
      have own := declaresNoXml_canonData clean.declared data absent
      simp only [canonItem, EveryOf, Item.Every, and_true, own]
      apply and_congr_right
      intro silent
      apply every_declaresNoXml_canonItems whole children _ _ _ _ clean.children
      rw [get_render options data clean.declared.sorted clean.declared.sortedRendered,
        (written_xml_eq_none_iff absent).mpr silent, absent]
      rfl

/-- Canonical items declare no `xml` where the items are silent about it. -/
theorem every_declaresNoXml_canonItems (whole : ∀ data, options.skip data = false) :
    (items : List Item) → ∀ (start scope rendered : Scope), rendered.get xmlPrefix = none →
    Clean options scope rendered items →
    (EveryOf (fun data _ => data.DeclaresNoXml) start (canonItems options scope rendered items) ↔
      EveryOf options.XmlSilent scope items)
  | [], _, _, _, _, _ => Iff.rfl
  | item :: rest, start, scope, rendered, absent, clean => by
      obtain ⟨here, later⟩ := clean.of_cons
      rw [canonItems_cons whole, everyOf_append, EveryOf,
        every_declaresNoXml_canonItem whole item start scope rendered absent here,
        every_declaresNoXml_canonItems whole rest start scope rendered absent later]

end

/-! ## The top level of a document -/

/-- The information set of a document. White space between the top-level nodes says nothing. -/
def documentInfoset (options : C14nOptions) (items : List Item) : List Infoset :=
  infosetAll options [] (items.filter fun item => !item.isChar)

theorem canonTopLevel_filter (seenRoot : Bool) (items : List Item) :
    canonTopLevel options seenRoot (items.filter fun item => !item.isChar) =
      canonTopLevel options seenRoot items := by
  induction items generalizing seenRoot with
  | nil => rfl
  | cons item rest ih =>
      cases item with
      | char c => exact ih seenRoot
      | _ =>
          rw [List.filter_cons_of_pos rfl]
          simp only [canonTopLevel, ih]

theorem Clean.filter (clean : Clean options scope rendered items) (kept : Item → Bool) :
    Clean options scope rendered (items.filter kept) := by
  induction items with
  | nil => exact clean
  | cons item rest ih =>
      obtain ⟨here, later⟩ := clean.of_cons
      rw [List.filter_cons]
      split
      · exact clean_append.mpr ⟨here, ih later⟩
      · exact ih later

theorem everyOf_filter_isChar {holds : ElementData → Scope → Prop} :
    EveryOf holds scope (items.filter fun item => !item.isChar) ↔ EveryOf holds scope items := by
  induction items with
  | nil => rfl
  | cons item rest ih =>
      cases item with
      | char c => simpa [Item.isChar, EveryOf, Item.Every] using ih
      | _ =>
          rw [List.filter_cons_of_pos rfl]
          simp only [EveryOf, ih]

/-- A canonical node beside the root has a line of its own. -/
def onLine (seenRoot : Bool) : List Item → List Item
  | [] => []
  | item :: rest =>
      if item.isElement then item :: rest
      else (if seenRoot then [.char '\n'] else []) ++ item :: rest ++
        if seenRoot then [] else [.char '\n']

theorem canonTopLevel_cons {item : Item} (shown : item.isChar = false) (seenRoot : Bool)
    (rest : List Item) : canonTopLevel options seenRoot (item :: rest) =
      onLine seenRoot (canonItem options [] [] item) ++ canonTopLevel options
        (seenRoot || (canonItem options [] [] item).any Item.isElement) rest := by
  cases item with
  | char c => cases shown
  | element data children => simp [canonTopLevel, canonItem, onLine, Item.isElement]
  | comment raw =>
      by_cases kept : options.algorithm.withComments = true <;> cases seenRoot <;>
        simp [canonTopLevel, canonItem, onLine, Item.isElement, kept]
  | pi target data =>
      cases seenRoot <;> simp [canonTopLevel, canonItem, onLine, Item.isElement]

theorem canonTopLevel_silent {front : List Item}
    (silent : ∀ item ∈ front, itemInfoset options [] item = []) (seenRoot : Bool)
    (rest : List Item) :
    canonTopLevel options seenRoot (front ++ rest) = canonTopLevel options seenRoot rest := by
  induction front with
  | nil => rfl
  | cons item front ih =>
      obtain ⟨raw, rfl, dropped⟩ := itemInfoset_eq_nil_iff.mp (silent item List.mem_cons_self)
      rw [List.cons_append, canonTopLevel,
        ih fun other member => silent other (List.mem_cons_of_mem _ member)]
      simp [dropped]

theorem documentInfoset_canonTopLevel (whole : ∀ data, options.skip data = false) (seenRoot : Bool)
    (clean : Clean options [] [] items) :
    documentInfoset options (canonTopLevel options seenRoot items) =
      documentInfoset options items := by
  induction items generalizing seenRoot with
  | nil => rfl
  | cons item rest ih =>
      obtain ⟨here, later⟩ := clean.of_cons
      have split : ∀ front back, documentInfoset options (front ++ back) =
          documentInfoset options front ++ documentInfoset options back := by
        intro front back
        rw [documentInfoset, documentInfoset, documentInfoset, List.filter_append,
          infosetAll_append]
      have line : ∀ written : List Item, documentInfoset options (onLine seenRoot written) =
          documentInfoset options written := by
        intro written
        cases written with
        | nil => rfl
        | cons first others =>
            have newline : documentInfoset options [.char '\n'] = [] := rfl
            rw [onLine]
            split_ifs
            · rfl
            · rw [split, split, newline, List.nil_append]
              exact List.append_nil _
            · rw [split, split, newline, List.append_nil]
              rfl
      by_cases character : item.isChar = true
      · cases item with
        | char c => exact ih seenRoot later
        | _ => cases character
      · have own := infosetAll_canonItem whole item [] [] here
        have plain : (canonItem options [] [] item).filter (fun item => !item.isChar) =
            canonItem options [] [] item := by
          cases item with
          | char c => exact absurd rfl character
          | comment raw =>
              rw [canonItem]
              split <;> rfl
          | _ => rfl
        rw [canonTopLevel_cons (Bool.eq_false_iff.mpr character), split, ih _ later, line,
          documentInfoset, plain, own, documentInfoset, documentInfoset,
          List.filter_cons_of_pos (by simp [character]), infosetAll]

/-- **Documents with equal information sets have equal canonical forms.** -/
theorem canonTopLevel_of_infoset (whole : ∀ data, options.skip data = false) (seenRoot : Bool)
    {items others : List Item} (clean : Clean options [] [] items)
    (cleanOther : Clean options [] [] others) (silent : EveryOf options.XmlSilent [] items)
    (silentOther : EveryOf options.XmlSilent [] others)
    (same : documentInfoset options items = documentInfoset options others) :
    canonTopLevel options seenRoot items = canonTopLevel options seenRoot others := by
  rw [← canonTopLevel_filter, ← canonTopLevel_filter seenRoot others]
  rw [documentInfoset, documentInfoset] at same
  have shown : ∀ item ∈ items.filter fun item => !item.isChar, item.isChar = false := by
    intro item member
    simpa using (List.mem_filter.mp member).2
  have shownOther : ∀ item ∈ others.filter fun item => !item.isChar, item.isChar = false := by
    intro item member
    simpa using (List.mem_filter.mp member).2
  replace clean := clean.filter fun item => !item.isChar
  replace cleanOther := cleanOther.filter fun item => !item.isChar
  replace silent := everyOf_filter_isChar.mpr silent
  replace silentOther := everyOf_filter_isChar.mpr silentOther
  generalize items.filter (fun item => !item.isChar) = items at *
  generalize others.filter (fun item => !item.isChar) = others at *
  induction items generalizing seenRoot others with
  | nil =>
      have nothing := canonTopLevel_silent (infosetAll_eq_nil_iff.mp same.symm) seenRoot []
      rw [List.append_nil] at nothing
      exact nothing.symm
  | cons item rest ih =>
      obtain ⟨here, later⟩ := clean.of_cons
      obtain ⟨visible, shownRest⟩ := List.forall_mem_cons.mp shown
      rw [infosetAll] at same
      rcases itemInfoset_cases options [] item with nothing | ⟨head, said⟩
      · rw [nothing, List.nil_append] at same
        rw [← ih seenRoot shownRest later silent.2 others shownOther cleanOther silentOther same]
        exact canonTopLevel_silent (List.forall_mem_singleton.mpr nothing) seenRoot rest
      · rw [said, List.singleton_append] at same
        obtain ⟨front, first, back, rfl, before, matched, after⟩ := exists_of_infosetAll same.symm
        obtain ⟨-, cleanBack⟩ := clean_append.mp cleanOther
        obtain ⟨-, silentBack⟩ := everyOf_append.mp silentOther
        obtain ⟨visibleFirst, shownBack⟩ :=
          List.forall_mem_cons.mp (List.forall_mem_append.mp shownOther).2
        have own := canonItem_of_infoset whole item first [] [] [] rfl here cleanBack.of_cons.1
          silent.1 silentBack.1 (said.trans matched.symm)
        rw [canonTopLevel_silent before, canonTopLevel_cons visible,
          canonTopLevel_cons visibleFirst, own,
          ih _ shownRest later silent.2 back shownBack cleanBack.of_cons.2 silentBack.2 after.symm]

/-- A canonical document declares no `xml` where the document is silent about it. -/
theorem every_declaresNoXml_canonTopLevel (whole : ∀ data, options.skip data = false)
    (seenRoot : Bool) (clean : Clean options [] [] items) :
    EveryOf (fun data _ => data.DeclaresNoXml) [] (canonTopLevel options seenRoot items) ↔
      EveryOf options.XmlSilent [] items := by
  induction items generalizing seenRoot with
  | nil => rfl
  | cons item rest ih =>
      obtain ⟨here, later⟩ := clean.of_cons
      cases item with
      | char c =>
          rw [canonTopLevel, ih seenRoot later]
          simp [EveryOf, Item.Every]
      | element data children =>
          rw [canonTopLevel, everyOf_append, ih true later, EveryOf,
            every_declaresNoXml_canonItem whole _ [] [] [] rfl here]
      | comment raw =>
          rw [canonTopLevel, everyOf_append, ih seenRoot later]
          cases options.algorithm.withComments <;> cases seenRoot <;>
            simp [EveryOf, Item.Every]
      | pi target data =>
          rw [canonTopLevel, everyOf_append, ih seenRoot later]
          cases seenRoot <;> simp [EveryOf, Item.Every]

end Trees

end Chancela.Xades
