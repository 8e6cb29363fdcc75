import Chancela.Xades.Context
import Chancela.Xades.Fragment
import Chancela.Xades.XmlDsig

/-! # SignedInfo before and after embedding

The canonical `ds:SignedInfo` that a builder has signed, out of the assembled signature and out
of any document that embeds it.
-/

namespace Chancela.Xades

open Markup OrderedMap

def dsPrefix : List Char := "ds".toList

/-! ## Items of the signature namespace -/

mutual

/-- All elements are prefixed `ds`, none declares a namespace, no attribute is prefixed. -/
def Item.InDs : Item → Prop
  | .element data children =>
      data.nsPrefix = some dsPrefix ∧ data.nsDecls = [] ∧
        (∀ attr ∈ data.attrs, attr.nsPrefix = none) ∧ AllInDs children
  | _ => True

def AllInDs : List Item → Prop
  | [] => True
  | item :: rest => item.InDs ∧ AllInDs rest

end

theorem allInDs_append {front back : List Item} :
    AllInDs (front ++ back) ↔ AllInDs front ∧ AllInDs back := by
  induction front with
  | nil => simp [AllInDs]
  | cons item rest ih => simp [AllInDs, ih, and_assoc]

theorem allInDs_chars (chars : List Char) : AllInDs (chars.map .char) := by
  induction chars with
  | nil => trivial
  | cons c rest ih => exact ⟨trivial, ih⟩

mutual

/-- Only `ds` is visibly used. -/
theorem visibleIn_inDs : (item : Item) → item.InDs → ∀ name ∈ visibleIn item, name = dsPrefix
  | .char c, _, _, member => nomatch member
  | .comment raw, _, _, member => nomatch member
  | .pi target data, _, _, member => nomatch member
  | .element data children, ⟨named, _, plain, inner⟩, name, member => by
      rw [visibleIn, ElementData.visible, named] at member
      rcases List.mem_append.mp member with own | inside
      · rcases List.mem_cons.mp own with same | attributed
        · exact same
        · obtain ⟨attr, attrMember, given⟩ := List.mem_filterMap.mp attributed
          rw [plain attr attrMember] at given
          cases given
      · exact visibleInAll_inDs children inner name inside

theorem visibleInAll_inDs : (items : List Item) → AllInDs items →
    ∀ name ∈ visibleInAll items, name = dsPrefix
  | [], _, _, member => nomatch member
  | item :: rest, ⟨first, later⟩, name, member => by
      rcases List.mem_append.mp member with here | after
      · exact visibleIn_inDs item first name here
      · exact visibleInAll_inDs rest later name after

end

mutual

theorem locatedItem_inDs : (item : Item) → item.InDs → ∀ scope : Scope,
    ∀ element ∈ locatedItem scope item, element.scope = scope ∧
      (Item.element element.data element.children).InDs ∧
      ∀ other : Scope, ⟨other, element.data, element.children⟩ ∈ locatedItem other item
  | .element data children, own, scope, element, member => by
      have undeclared : ∀ scope : Scope, scope.declare data.nsDecls = scope := by
        intro scope
        rw [own.2.1]
        rfl
      simp only [locatedItem, undeclared] at member ⊢
      rcases List.mem_cons.mp member with rfl | inside
      · exact ⟨rfl, own, fun other => List.mem_cons_self⟩
      · obtain ⟨same, inner, anywhere⟩ := locatedItems_inDs children own.2.2.2 scope element inside
        exact ⟨same, inner, fun other => List.mem_cons_of_mem _ (anywhere other)⟩

theorem locatedItems_inDs : (items : List Item) → AllInDs items → ∀ scope : Scope,
    ∀ element ∈ locatedItems scope items, element.scope = scope ∧
      (Item.element element.data element.children).InDs ∧
      ∀ other : Scope, ⟨other, element.data, element.children⟩ ∈ locatedItems other items
  | item :: rest, ⟨first, later⟩, scope, element, member => by
      rcases List.mem_append.mp member with here | after
      · obtain ⟨same, inner, anywhere⟩ := locatedItem_inDs item first scope element here
        exact ⟨same, inner, fun other => List.mem_append_left _ (anywhere other)⟩
      · obtain ⟨same, inner, anywhere⟩ := locatedItems_inDs rest later scope element after
        exact ⟨same, inner, fun other => List.mem_append_right _ (anywhere other)⟩

end

def IsPlainKey (key : List Char) : Prop := key ≠ xmlns ∧ ¬xmlns ++ [':'] <+: key ∧ ':' ∉ key

instance (key : List Char) : Decidable (IsPlainKey key) :=
  inferInstanceAs (Decidable (key ≠ xmlns ∧ ¬xmlns ++ [':'] <+: key ∧ ':' ∉ key))

theorem addAttribute_plain (data : ElementData) {key : List Char} (plain : IsPlainKey key)
    (raw : List Char) :
    addAttribute data (key, raw) = (normalizeAttrValue raw).map fun value =>
      { data with attrs := data.attrs ++ [⟨none, key, value⟩] } := by
  obtain ⟨notDefault, notDecl, noColon⟩ := plain
  rw [addAttribute]
  simp only [notDefault, notDecl, ↓reduceIte, splitQname, noColon]
  rfl

theorem foldlM_addAttribute_plain (attributes : List (List Char × List Char))
    (plain : ∀ entry ∈ attributes, IsPlainKey entry.1) {data next : ElementData}
    (unprefixed : ∀ attr ∈ data.attrs, attr.nsPrefix = none)
    (added : attributes.foldlM addAttribute data = .ok next) :
    next.nsDecls = data.nsDecls ∧ ∀ attr ∈ next.attrs, attr.nsPrefix = none := by
  induction attributes generalizing data with
  | nil =>
      cases added
      exact ⟨rfl, unprefixed⟩
  | cons entry rest ih =>
      obtain ⟨key, raw⟩ := entry
      have later : ∀ entry ∈ rest, IsPlainKey entry.1 := fun entry member =>
        plain entry (List.mem_cons_of_mem _ member)
      rw [List.foldlM_cons, addAttribute_plain data (plain (key, raw) List.mem_cons_self)] at added
      cases resolved : normalizeAttrValue raw with
      | error message =>
          rw [resolved] at added
          cases added
      | ok value =>
          rw [resolved] at added
          have grown : ∀ attr ∈ data.attrs ++ [⟨none, key, value⟩], attr.nsPrefix = none := by
            intro attr member
            rcases List.mem_append.mp member with old | new
            · exact unprefixed attr old
            · rw [List.mem_singleton.mp new]
          have next : rest.foldlM addAttribute
              { data with attrs := data.attrs ++ [⟨none, key, value⟩] } = .ok next := added
          have result := ih later (by exact grown) next
          exact result

theorem foldlM_addAttribute_decls (attributes : List (List Char × List Char))
    (declares : ∀ entry ∈ attributes, xmlns ++ [':'] <+: entry.1) :
    ∃ result : Except XadesError (List (Option (List Char) × List Char)),
      (∀ data : ElementData, attributes.foldlM addAttribute data =
        result.map fun decls => { data with nsDecls := data.nsDecls ++ decls }) ∧
      ∀ decls, result = .ok decls →
        decls.map Prod.fst = attributes.map fun entry => some (entry.1.drop 6) := by
  induction attributes with
  | nil =>
      refine ⟨.ok [], fun data => by simp [Except.map, pure, Except.pure], fun decls same => ?_⟩
      cases same
      rfl
  | cons entry rest ih =>
      obtain ⟨key, raw⟩ := entry
      obtain ⟨later, folds, names⟩ := ih fun entry member =>
        declares entry (List.mem_cons_of_mem _ member)
      have lead : xmlns ++ [':'] <+: key := declares (key, raw) List.mem_cons_self
      have notDefault : key ≠ xmlns := by
        rintro rfl
        exact absurd lead (by decide)
      have first : ∀ data : ElementData, addAttribute data (key, raw) =
          (unescape raw).map fun uri =>
            { data with nsDecls := data.nsDecls ++ [(some (key.drop 6), uri)] } := by
        intro data
        rw [addAttribute]
        simp only [notDefault, lead, ↓reduceIte]
        rfl
      cases resolved : unescape raw with
      | error message =>
          refine ⟨.error message, fun data => ?_, fun decls same => by cases same⟩
          rw [List.foldlM_cons, first, resolved]
          rfl
      | ok uri =>
          refine ⟨later.map fun decls => (some (key.drop 6), uri) :: decls, fun data => ?_,
            fun decls same => ?_⟩
          · rw [List.foldlM_cons, first, resolved]
            refine (folds _).trans ?_
            cases later <;> simp [Except.map]
          · obtain ⟨others, found, rfl⟩ := ok_of_map_eq_ok same
            simp [names others found]

theorem binding_declare {decls : List (Option (List Char) × List Char)} {name : List Char}
    (declared : some name ∈ decls.map Prod.fst) {first second : Scope} (sorted : Sorted first)
    (sortedSecond : Sorted second) :
    binding (first.declare decls) name = binding (second.declare decls) name := by
  rw [binding, binding, Scope.declare, Scope.declare, Scope.get, Scope.get, lookup_overlay sorted,
    lookup_overlay sortedSecond]
  cases found : lookup name (decls.map fun decl => (decl.1.getD [], decl.2)).reverse with
  | some uri => rfl
  | none =>
      obtain ⟨decl, member, given⟩ := List.mem_map.mp declared
      have entry : (decl.1.getD [], decl.2) ∈
          (decls.map fun decl => (decl.1.getD [], decl.2)).reverse :=
        List.mem_reverse.mpr (List.mem_map_of_mem member)
      exact absurd (by rw [given]; rfl) (ne_of_lookup_eq_none found _ entry)

/-! ## Fragments of the signature namespace -/

namespace Fragment

mutual

/-- All names are prefixed `ds` and all attribute names are plain. -/
def InDs : Fragment → Prop
  | element name attributes children =>
      (splitQname name).1 = some dsPrefix ∧ (∀ entry ∈ attributes, IsPlainKey entry.1) ∧
        AllInDs children
  | text _ => True

def AllInDs : List Fragment → Prop
  | [] => True
  | fragment :: rest => InDs fragment ∧ AllInDs rest

end

mutual

theorem inDs_build : (fragment : Fragment) → fragment.InDs → ∀ items,
    fragment.normalize.build = .ok items → Xades.AllInDs items
  | text chars, _, items, built => by
      cases built
      exact allInDs_chars chars
  | element name attributes children, ⟨named, plain, inner⟩, items, built => by
      rw [normalize, build] at built
      cases own : buildElement name (attributes.map normalizeAttribute) with
      | error message =>
          rw [own] at built
          cases built
      | ok data =>
          rw [own] at built
          cases below : buildAll (normalizeAll children) with
          | error message =>
              rw [below] at built
              cases built
          | ok inside =>
              rw [below] at built
              cases built
              refine ⟨?_, trivial⟩
              rw [buildElement] at own
              split at own
              · have normalized : ∀ entry ∈ attributes.map normalizeAttribute,
                    IsPlainKey entry.1 := by
                  intro entry member
                  obtain ⟨source, sourceMember, rfl⟩ := List.mem_map.mp member
                  exact plain source sourceMember
                obtain ⟨decls, attrs⟩ := foldlM_addAttribute_plain _ normalized
                  (by simp) own
                obtain ⟨nsPrefix, -⟩ := foldlM_addAttribute_names _ own
                exact ⟨nsPrefix.trans named, decls, attrs,
                  inDs_buildAll children inner inside below⟩
              · cases own

theorem inDs_buildAll : (fragments : List Fragment) → AllInDs fragments → ∀ items,
    buildAll (normalizeAll fragments) = .ok items → Xades.AllInDs items
  | [], _, items, built => by
      cases built
      trivial
  | fragment :: rest, ⟨first, later⟩, items, built => by
      rw [normalizeAll, buildAll] at built
      cases own : fragment.normalize.build with
      | error message =>
          rw [own] at built
          cases built
      | ok front =>
          rw [own] at built
          cases below : buildAll (normalizeAll rest) with
          | error message =>
              rw [below] at built
              cases built
          | ok back =>
              rw [below] at built
              cases built
              exact allInDs_append.mpr ⟨inDs_build fragment first front own,
                inDs_buildAll rest later back below⟩

end

end Fragment

/-! ## What the builder writes -/

def Quotable (value : List Char) : Prop := '"' ∉ value ∧ '<' ∉ value

instance (value : List Char) : Decidable (Quotable value) :=
  inferInstanceAs (Decidable ('"' ∉ value ∧ '<' ∉ value))

/-- A reference whose values can stand in attributes. -/
structure DsigReference.Plain (reference : DsigReference) : Prop where
  uri : Quotable reference.uri
  id : ∀ id ∈ reference.id.toList, Quotable id
  refType : ∀ name ∈ reference.refType.toList, Quotable name
  transforms : ∀ transform ∈ reference.transforms, Quotable transform

/-- A builder whose values can stand where they are written. -/
structure XmlDsigBuilder.Plain (builder : XmlDsigBuilder) : Prop where
  signatureId : Quotable builder.signatureId
  references : ∀ reference ∈ builder.references, reference.Plain
  prefixes : ∀ entry ∈ builder.signatureNs, ∀ c ∈ entry.1, isNameChar c = true
  uris : ∀ entry ∈ builder.signatureNs, Quotable entry.2

section Builder

variable [DsigCrates]

/-- A `ds:Reference` as a fragment. -/
def DsigReference.fragment (digestUri : List Char) (reference : DsigReference) : Fragment :=
  .element "ds:Reference".toList
    (reference.id.toList.map (fun id => ("Id".toList, id)) ++ ("URI".toList, reference.uri) ::
      reference.refType.toList.map fun name => ("Type".toList, name))
    ((if reference.transforms = [] then []
      else [.element "ds:Transforms".toList [] (reference.transforms.map fun transform =>
        .element "ds:Transform".toList [("Algorithm".toList, transform)] [])]) ++
      [.element "ds:DigestMethod".toList [("Algorithm".toList, digestUri)] [],
        .element "ds:DigestValue".toList [] [.text (DsigCrates.encode reference.digest)]])

/-- The children of `ds:SignedInfo`. -/
def XmlDsigBuilder.signedInfoChildren (builder : XmlDsigBuilder) : List Fragment :=
  .element "ds:CanonicalizationMethod".toList
      [("Algorithm".toList, C14nAlgorithm.exclusiveWithoutComments.uri.toList)] [] ::
    .element "ds:SignatureMethod".toList
      [("Algorithm".toList, signatureMethodUri builder.sigAlg)] [] ::
    builder.references.map (DsigReference.fragment builder.digestAlgorithm.uri)

/-- `ds:SignedInfo` as a fragment. -/
def XmlDsigBuilder.signedInfo (builder : XmlDsigBuilder) : Fragment :=
  .element "ds:SignedInfo".toList [("Id".toList, builder.signedInfoId)] builder.signedInfoChildren

omit [DsigCrates] in
theorem elementText_eq (name : String) (attributes : List (List Char × List Char))
    (children : List Fragment) :
    elementText name attributes (spell (Fragment.piecesAll children)) =
      spell (Fragment.element name.toList attributes children).pieces := by
  rw [elementText, Fragment.pieces, spell_cons, spell_append, List.append_assoc]
  simp [spell]

omit [DsigCrates] in
theorem spell_piecesAll_map {α : Type} (f : α → Fragment) (items : List α) :
    spell (Fragment.piecesAll (items.map f)) = items.flatMap fun item => spell (f item).pieces := by
  induction items with
  | nil => rfl
  | cons item rest ih =>
      rw [List.map_cons, Fragment.piecesAll, spell_append, ih, List.flatMap_cons]

omit [DsigCrates] in
theorem spell_piecesAll_append (front back : List Fragment) :
    spell (Fragment.piecesAll (front ++ back)) =
      spell (Fragment.piecesAll front) ++ spell (Fragment.piecesAll back) := by
  induction front with
  | nil => rfl
  | cons fragment rest ih => simp [Fragment.piecesAll, spell_append, ih]

omit [DsigCrates] in
theorem spell_piecesAll_singleton (fragment : Fragment) :
    spell (Fragment.piecesAll [fragment]) = spell fragment.pieces := by
  simp [Fragment.piecesAll]

omit [DsigCrates] in
theorem spell_text (chars : List Char) : spell (Fragment.text chars).pieces = chars := by
  simp [Fragment.pieces, spell, List.flatMap_map, Piece.spell]

theorem DsigReference.xml_eq (digestUri : List Char) (reference : DsigReference) :
    reference.xml digestUri = spell (reference.fragment digestUri).pieces := by
  have value : elementText "ds:DigestValue" [] (DsigCrates.encode reference.digest) =
      spell (Fragment.element "ds:DigestValue".toList []
        [.text (DsigCrates.encode reference.digest)]).pieces := by
    rw [← elementText_eq, spell_piecesAll_singleton, spell_text]
  have method : elementText "ds:DigestMethod" [("Algorithm".toList, digestUri)] [] =
      spell (Fragment.element "ds:DigestMethod".toList [("Algorithm".toList, digestUri)]
        []).pieces := elementText_eq _ _ []
  have transforms : elementText "ds:Transforms" [] (reference.transforms.flatMap fun transform =>
      elementText "ds:Transform" [("Algorithm".toList, transform)] []) =
      spell (Fragment.element "ds:Transforms".toList [] (reference.transforms.map fun transform =>
        .element "ds:Transform".toList [("Algorithm".toList, transform)] [])).pieces := by
    rw [← elementText_eq, spell_piecesAll_map]
    exact congrArg (elementText "ds:Transforms" [])
      (List.flatMap_congr fun transform _ => elementText_eq _ _ [])
  rw [xml, fragment, ← elementText_eq, spell_piecesAll_append, value, method, transforms]
  congr 1
  split
  · simp [Fragment.piecesAll, spell]
  · rw [spell_piecesAll_singleton, List.append_assoc]
    simp [Fragment.piecesAll, spell_append]

/-- The text of `ds:SignedInfo` is that of the fragment. -/
theorem XmlDsigBuilder.signedInfoXml_eq (builder : XmlDsigBuilder) :
    builder.signedInfoXml = spell builder.signedInfo.pieces := by
  rw [signedInfoXml, signedInfo, ← elementText_eq, signedInfoChildren]
  congr 1
  rw [Fragment.piecesAll, Fragment.piecesAll, spell_append, spell_append, spell_piecesAll_map,
    ← elementText_eq, ← elementText_eq, List.append_assoc]
  simp only [← DsigReference.xml_eq]
  rfl

omit [DsigCrates] in
theorem Fragment.allWellFormed_map {α : Type} {f : α → Fragment} {items : List α}
    (each : ∀ item ∈ items, (f item).WellFormed) : AllWellFormed (items.map f) := by
  induction items with
  | nil => trivial
  | cons item rest ih =>
      exact ⟨each item List.mem_cons_self, ih fun other member =>
        each other (List.mem_cons_of_mem item member)⟩

omit [DsigCrates] in
theorem Fragment.allInDs_map {α : Type} {f : α → Fragment} {items : List α}
    (each : ∀ item ∈ items, (f item).InDs) : AllInDs (items.map f) := by
  induction items with
  | nil => trivial
  | cons item rest ih =>
      exact ⟨each item List.mem_cons_self, ih fun other member =>
        each other (List.mem_cons_of_mem item member)⟩

theorem wellFormed_encode (bytes : List UInt8) :
    (Fragment.text (DsigCrates.encode bytes)).WellFormed := by
  have outside : ∀ c, isBase64Char c = false → c ∉ DsigCrates.encode bytes := by
    intro c other member
    rw [DsigCrates.encode_chars bytes c member] at other
    cases other
  exact ⟨outside '<' (by decide), outside '&' (by decide), outside '\r' (by decide)⟩

omit [DsigCrates] in
theorem wellFormed_single {key value : List Char} (named : IsName key) (quotable : Quotable value) :
    ∀ entry ∈ [(key, value)], WellFormedAttribute entry := by
  intro entry member
  rw [List.mem_singleton.mp member]
  exact ⟨named, quotable.1, quotable.2⟩

omit [DsigCrates] in
theorem plain_single {key : List Char} (plain : IsPlainKey key) {value : List Char} :
    ∀ entry ∈ [(key, value)], IsPlainKey entry.1 := by
  intro entry member
  rw [List.mem_singleton.mp member]
  exact plain

omit [DsigCrates] in
theorem quotable_uri (algorithm : DigestAlgorithm) : Quotable algorithm.uri := by
  cases algorithm <;> decide

theorem DsigReference.wellFormed_fragment {reference : DsigReference} (plain : reference.Plain)
    {digestUri : List Char} (quotable : Quotable digestUri) :
    (reference.fragment digestUri).WellFormed := by
  refine ⟨by decide, ?_, ?_⟩
  · intro entry member
    rcases List.mem_append.mp member with given | rest
    · obtain ⟨id, inside, rfl⟩ := List.mem_map.mp given
      exact ⟨(by decide : IsName "Id".toList), plain.id id inside⟩
    · rcases List.mem_cons.mp rest with rfl | typed
      · exact ⟨(by decide : IsName "URI".toList), plain.uri⟩
      · obtain ⟨name, inside, rfl⟩ := List.mem_map.mp typed
        exact ⟨(by decide : IsName "Type".toList), plain.refType name inside⟩
  · have last : Fragment.AllWellFormed
        [.element "ds:DigestMethod".toList [("Algorithm".toList, digestUri)] [],
          .element "ds:DigestValue".toList [] [.text (DsigCrates.encode reference.digest)]] :=
      ⟨⟨by decide, wellFormed_single (by decide) quotable, trivial⟩,
        ⟨by decide, (fun _ member => nomatch member), wellFormed_encode _, trivial⟩, trivial⟩
    split
    · exact last
    · refine ⟨⟨by decide, (fun _ member => nomatch member), ?_⟩, last⟩
      apply Fragment.allWellFormed_map
      intro transform member
      exact ⟨by decide, wellFormed_single (by decide) (plain.transforms transform member), trivial⟩

theorem DsigReference.inDs_fragment (reference : DsigReference) (digestUri : List Char) :
    (reference.fragment digestUri).InDs := by
  refine ⟨by decide, ?_, ?_⟩
  · intro entry member
    rcases List.mem_append.mp member with given | rest
    · obtain ⟨id, -, rfl⟩ := List.mem_map.mp given
      exact (by decide : IsPlainKey "Id".toList)
    · rcases List.mem_cons.mp rest with rfl | typed
      · exact (by decide : IsPlainKey "URI".toList)
      · obtain ⟨name, -, rfl⟩ := List.mem_map.mp typed
        exact (by decide : IsPlainKey "Type".toList)
  · have last : Fragment.AllInDs
        [.element "ds:DigestMethod".toList [("Algorithm".toList, digestUri)] [],
          .element "ds:DigestValue".toList [] [.text (DsigCrates.encode reference.digest)]] :=
      ⟨⟨by decide, plain_single (by decide), trivial⟩,
        ⟨by decide, (fun _ member => nomatch member), trivial, trivial⟩, trivial⟩
    split
    · exact last
    · refine ⟨⟨by decide, (fun _ member => nomatch member), ?_⟩, last⟩
      apply Fragment.allInDs_map
      intro transform _
      exact ⟨by decide, plain_single (by decide), trivial⟩

namespace XmlDsigBuilder

variable {builder : XmlDsigBuilder}

theorem wellFormed_signedInfo (plain : builder.Plain) : builder.signedInfo.WellFormed := by
  have id : Quotable builder.signedInfoId := by
    obtain ⟨quote, lt⟩ := plain.signatureId
    exact ⟨by simp [signedInfoId, quote], by simp [signedInfoId, lt]⟩
  refine ⟨by decide, wellFormed_single (by decide) id,
    ⟨by decide, wellFormed_single (by decide) (by decide), trivial⟩,
    ⟨by decide, wellFormed_single (by decide) ?_, trivial⟩, ?_⟩
  · cases builder.sigAlg <;> decide
  · apply Fragment.allWellFormed_map
    intro reference member
    exact DsigReference.wellFormed_fragment (plain.references reference member) (quotable_uri _)

theorem inDs_signedInfo (builder : XmlDsigBuilder) : builder.signedInfo.InDs := by
  refine ⟨by decide, plain_single (by decide),
    ⟨by decide, plain_single (by decide), trivial⟩,
    ⟨by decide, plain_single (by decide), trivial⟩, ?_⟩
  apply Fragment.allInDs_map
  intro reference _
  exact reference.inDs_fragment _

omit [DsigCrates] in
theorem wellFormed_nsAttributes (plain : builder.Plain) :
    ∀ entry ∈ builder.nsAttributes, WellFormedAttribute entry := by
  intro entry member
  rcases List.mem_cons.mp member with rfl | declared
  · exact ⟨by decide, by decide, by decide⟩
  · obtain ⟨source, inside, rfl⟩ := List.mem_map.mp declared
    refine ⟨⟨by simp, fun c member => ?_⟩, plain.uris source inside⟩
    have lead : ∀ d ∈ "xmlns:".toList, isNameChar d = true := List.all_eq_true.mp (by decide)
    rcases List.mem_append.mp member with here | there
    · exact lead c here
    · exact plain.prefixes source inside c there

omit [DsigCrates] in
theorem declares_nsAttributes (builder : XmlDsigBuilder) :
    ∀ entry ∈ builder.nsAttributes.map Fragment.normalizeAttribute, xmlns ++ [':'] <+: entry.1 := by
  intro entry member
  obtain ⟨source, inside, rfl⟩ := List.mem_map.mp member
  rcases List.mem_cons.mp inside with rfl | declared
  · exact ⟨dsPrefix, rfl⟩
  · obtain ⟨pair, -, rfl⟩ := List.mem_map.mp declared
    exact ⟨pair.1, rfl⟩

omit [DsigCrates] in
/-- The wrapper and the assembled signature declare the same namespaces, `ds` among them, and
the wrapper carries no other attribute. -/
theorem decls_buildElement {wrapped assembled : ElementData}
    (wrapper : buildElement "ds:Signature".toList
      (builder.nsAttributes.map Fragment.normalizeAttribute) = .ok wrapped)
    (whole : buildElement "ds:Signature".toList
      ((builder.nsAttributes ++ [("Id".toList, builder.signatureId)]).map
        Fragment.normalizeAttribute) = .ok assembled) :
    wrapped.attrs = [] ∧ assembled.nsDecls = wrapped.nsDecls ∧
      some dsPrefix ∈ wrapped.nsDecls.map Prod.fst := by
  obtain ⟨result, folds, names⟩ :=
    foldlM_addAttribute_decls _ (declares_nsAttributes builder)
  rw [buildElement] at wrapper whole
  split at wrapper
  · split at whole
    · have wrapper : List.foldlM addAttribute _ _ = _ := wrapper
      have whole : List.foldlM addAttribute _ _ = _ := whole
      rw [folds] at wrapper
      obtain ⟨decls, found, rfl⟩ := ok_of_map_eq_ok wrapper
      rw [List.map_append, List.foldlM_append, folds, found] at whole
      obtain ⟨same, -⟩ := foldlM_addAttribute_plain
        ([("Id".toList, builder.signatureId)].map Fragment.normalizeAttribute)
        (plain_single (by decide : IsPlainKey "Id".toList)) (by simp) whole
      refine ⟨rfl, same, ?_⟩
      have listed := names decls found
      simp only [List.nil_append]
      rw [listed]
      exact List.mem_cons_self
    · cases whole
  · cases wrapper

end XmlDsigBuilder

end Builder

/-- A document embeds another: each of its outermost elements stands somewhere in it. -/
def Dom.Embeds (dom inner : Dom) : Prop :=
  ∀ data nodes, .element data nodes ∈ inner.topLevel →
    ∃ place ∈ dom.elements, place.data = data ∧ flattenAll place.children = flattenAll nodes

theorem mem_locatedIn {nodes : List Node} {data : ElementData} {children : List Node}
    (member : .element data children ∈ nodes) (scope : Scope) :
    ⟨scope, data, children⟩ ∈ locatedIn scope nodes := by
  induction nodes with
  | nil => cases member
  | cons node rest ih =>
      rcases List.mem_cons.mp member with rfl | later
      · exact List.mem_append_left _ List.mem_cons_self
      · exact List.mem_append_right _ (ih later)

def Dom.SoleCarrier (dom : Dom) (id : List Char) : Prop :=
  (dom.elements.filter fun element => element.data.carries id).length = 1

theorem Dom.embeds_self (dom : Dom) : dom.Embeds dom :=
  fun data nodes member => ⟨⟨[], data, nodes⟩, mem_locatedIn member [], rfl, rfl⟩

/-- Elements of the signature namespace in a scope that binds `ds` are written alike. -/
theorem canonicalizeSubtree_inDs {first second : Located} (sorted : Sorted first.scope)
    (sortedSecond : Sorted second.scope)
    (inDs : (Item.element first.data (flattenAll first.children)).InDs)
    (data : first.data = second.data)
    (children : flattenAll first.children = flattenAll second.children)
    (bound : binding first.scope dsPrefix = binding second.scope dsPrefix) :
    first.canonicalizeSubtree exclusiveOptions = second.canonicalizeSubtree exclusiveOptions := by
  apply canonicalizeSubtree_congr sorted sortedSecond data children
  intro name member
  rw [visibleIn_inDs _ inDs name member]
  exact bound

section Signed

variable [QuickXml]

theorem canonicalizeElementById_eq {xml : List Char} {dom : Dom} (parsed : parse xml = .ok dom)
    (id : List Char) :
    canonicalizeElementById xml id .exclusiveWithoutComments [] =
      match dom.elements.filter fun element => element.data.carries id with
      | [] => .error (.canonicalization ("no element with Id=\"" ++ String.ofList id ++ "\""))
      | [element] => .ok (element.canonicalizeSubtree exclusiveOptions)
      | _ => .error (.canonicalization
          ("ambiguous Id \"" ++ String.ofList id ++ "\" resolves to multiple elements")) := by
  rw [canonicalizeElementById_of_parse parsed, Dom.findById]
  generalize dom.elements.filter (fun element => element.data.carries id) = carriers
  rcases carriers with _ | ⟨element, _ | ⟨other, rest⟩⟩ <;> rfl

theorem canonicalizeElementById_eq_ok {xml id text : List Char}
    (canonicalized : canonicalizeElementById xml id .exclusiveWithoutComments [] = .ok text) :
    ∃ dom element, parse xml = .ok dom ∧ dom.findById id = .ok (some element) ∧
      text = element.canonicalizeSubtree exclusiveOptions := by
  cases parsed : parse xml with
  | error message =>
      rw [canonicalizeElementById, parsed] at canonicalized
      cases canonicalized
  | ok dom =>
      rw [canonicalizeElementById_eq parsed] at canonicalized
      split at canonicalized
      · cases canonicalized
      · next element one =>
          cases canonicalized
          exact ⟨dom, element, rfl, findById_eq_some.mpr one, rfl⟩
      · cases canonicalized

variable [DsigCrates] {builder : XmlDsigBuilder}

/-- What the wrapper is read to: a root without attributes around the items of
`ds:SignedInfo`. -/
theorem parse_wrapper (plain : builder.Plain) {dom : Dom}
    (parsed : parse builder.wrapper = .ok dom) :
    ∃ data items, flattenAll dom.topLevel = [.element data items] ∧
      buildElement "ds:Signature".toList
        (builder.nsAttributes.map Fragment.normalizeAttribute) = .ok data ∧
      builder.signedInfo.normalize.build = .ok items := by
  have text : builder.wrapper = spell (Fragment.element "ds:Signature".toList builder.nsAttributes
      [builder.signedInfo]).pieces := by
    rw [XmlDsigBuilder.wrapper, builder.signedInfoXml_eq, ← spell_piecesAll_singleton,
      elementText_eq]
  have wellFormed : (Fragment.element "ds:Signature".toList builder.nsAttributes
      [builder.signedInfo]).WellFormed :=
    ⟨by decide, XmlDsigBuilder.wellFormed_nsAttributes plain,
      XmlDsigBuilder.wellFormed_signedInfo plain, trivial⟩
  rw [text] at parsed
  have built := parse_element wellFormed parsed
  rw [Fragment.normalize, Fragment.normalizeAll, Fragment.normalizeAll, Fragment.build,
    Fragment.buildAll, Fragment.buildAll] at built
  cases own : buildElement "ds:Signature".toList
      (builder.nsAttributes.map Fragment.normalizeAttribute) with
  | error message =>
      rw [own] at built
      cases built
  | ok data =>
      rw [own] at built
      cases inner : builder.signedInfo.normalize.build with
      | error message =>
          rw [inner] at built
          cases built
      | ok items =>
          rw [inner] at built
          refine ⟨data, items, ?_, rfl, rfl⟩
          have flat := Except.ok.inj built
          rw [List.append_nil] at flat
          exact flat.symm

/-- What the assembled signature is read to: an element that declares the same namespaces and
begins with the items of `ds:SignedInfo`. -/
theorem parse_assemble (plain : builder.Plain) {raw : RawSignature} {output : List Char}
    (assembled : builder.assemble raw = .ok output) {dom : Dom} (parsed : parse output = .ok dom) :
    ∃ data items nodes, .element data nodes ∈ dom.topLevel ∧
      buildElement "ds:Signature".toList
        ((builder.nsAttributes ++ [("Id".toList, builder.signatureId)]).map
          Fragment.normalizeAttribute) = .ok data ∧
      builder.signedInfo.normalize.build = .ok items ∧ items <+: flattenAll nodes := by
  rw [XmlDsigBuilder.assemble] at assembled
  cases signed : signatureValueBytes raw with
  | error message =>
      rw [signed] at assembled
      cases assembled
  | ok value =>
      rw [signed] at assembled
      have text := (Except.ok.inj assembled).symm
      rw [elementText, builder.signedInfoXml_eq, List.append_assoc, List.append_assoc,
        List.append_assoc, List.append_assoc] at text
      rw [text] at parsed
      have attributed : ∀ entry ∈ builder.nsAttributes ++ [("Id".toList, builder.signatureId)],
          WellFormedAttribute entry := by
        intro entry member
        rcases List.mem_append.mp member with declared | last
        · exact XmlDsigBuilder.wellFormed_nsAttributes plain entry declared
        · exact wellFormed_single (by decide) plain.signatureId entry last
      obtain ⟨data, items, nodes, own, inner, member, lead⟩ := parse_fragment (by decide) attributed
        (XmlDsigBuilder.wellFormed_signedInfo plain) parsed
      exact ⟨data, items, nodes, member, own, inner, lead⟩

/-- What is hashed is an element of `ds:SignedInfo` in the scope of the wrapper. -/
theorem signedInfoC14n_eq_ok (plain : builder.Plain) {text : List Char}
    (hashed : builder.signedInfoC14n = .ok text) {whole : ElementData}
    (assembled : buildElement "ds:Signature".toList
      ((builder.nsAttributes ++ [("Id".toList, builder.signatureId)]).map
        Fragment.normalizeAttribute) = .ok whole) :
    ∃ (items : List Item) (element : Located),
      builder.signedInfo.normalize.build = .ok items ∧
      element.data.carries builder.signedInfoId = true ∧
      some dsPrefix ∈ whole.nsDecls.map Prod.fst ∧
      element.item ∈ locatedItems (Scope.declare [] whole.nsDecls) items ∧
      text = element.canonicalizeSubtree exclusiveOptions := by
  obtain ⟨dom, element, parsed, found, rfl⟩ := canonicalizeElementById_eq_ok hashed
  obtain ⟨data, items, flat, own, inner⟩ := parse_wrapper plain parsed
  obtain ⟨inside, carried, -⟩ := carries_of_findById found
  obtain ⟨bare, same, declared⟩ := XmlDsigBuilder.decls_buildElement own assembled
  refine ⟨items, element, inner, carried, same ▸ declared, ?_, rfl⟩
  have located : element.item ∈ (locatedIn [] dom.topLevel).map Located.item :=
    List.mem_map_of_mem inside
  rw [map_item_locatedIn, flat, locatedItems, locatedItem, locatedItems, List.append_nil] at located
  rcases List.mem_cons.mp located with root | within
  · -- The root of the wrapper has no Id.
    have rootData : element.data = data := congrArg LocatedItem.data root
    rw [rootData, ElementData.carries, ElementData.ids, bare] at carried
    cases carried
  · rw [same]
    exact within

/-- **SignedInfo before and after embedding.** In any document that embeds the assembled
signature, the text that was hashed is canonicalized by the Id of `ds:SignedInfo`, unless a
further element carries that Id; then nothing is. -/
theorem canonicalizeElementById_embeds (plain : builder.Plain) {raw : RawSignature}
    {output : List Char} (assembled : builder.assemble raw = .ok output) {signature : Dom}
    (read : parse output = .ok signature) {text : List Char}
    (hashed : builder.signedInfoC14n = .ok text) {xml : List Char} {dom : Dom}
    (parsed : parse xml = .ok dom) (embeds : dom.Embeds signature) :
    (dom.SoleCarrier builder.signedInfoId →
      canonicalizeElementById xml builder.signedInfoId .exclusiveWithoutComments [] = .ok text) ∧
    (¬dom.SoleCarrier builder.signedInfoId →
      canonicalizeElementById xml builder.signedInfoId .exclusiveWithoutComments [] =
        .error (.canonicalization ("ambiguous Id \"" ++ String.ofList builder.signedInfoId ++
          "\" resolves to multiple elements"))) := by
  obtain ⟨data, items, nodes, member, own, inner, lead⟩ := parse_assemble plain assembled read
  obtain ⟨items', element, inner', carried, declared, within, rfl⟩ :=
    signedInfoC14n_eq_ok plain hashed own
  obtain rfl : items = items' := Except.ok.inj (inner.symm.trans inner')
  have inDs := Fragment.inDs_build _ builder.inDs_signedInfo items inner
  obtain ⟨scoped_, ownDs, anywhere⟩ := locatedItems_inDs items inDs _ element.item within
  -- The element that was hashed stands in the document, in the scope of the signature there.
  obtain ⟨place, placed, rfl, children⟩ := embeds data nodes member
  have sorted : Sorted place.scope := sorted_locatedIn _ [] List.Pairwise.nil place placed
  obtain ⟨copy, copied, copyItem⟩ : ∃ copy ∈ dom.elements, copy.item =
      ⟨place.scope.declare place.data.nsDecls, element.data, flattenAll element.children⟩ := by
    have below := (locatedIn_sublist dom.topLevel [] place placed).subset
    have there := anywhere (place.scope.declare place.data.nsDecls)
    obtain ⟨more, split⟩ := lead
    have listed : (⟨place.scope.declare place.data.nsDecls, element.data,
        flattenAll element.children⟩ : LocatedItem) ∈
        (located place.scope (.element place.data place.children)).map Located.item := by
      rw [located, List.map_cons, map_item_locatedIn, children, ← split, locatedItems_append]
      exact List.mem_cons_of_mem _ (List.mem_append_left _ there)
    obtain ⟨copy, copied, same⟩ := List.mem_map.mp listed
    exact ⟨copy, below copied, same⟩
  have copyScope : copy.scope = place.scope.declare place.data.nsDecls :=
    congrArg LocatedItem.scope copyItem
  have copyData : copy.data = element.data := congrArg LocatedItem.data copyItem
  have copyChildren : flattenAll copy.children = flattenAll element.children :=
    congrArg LocatedItem.children copyItem
  have elementScope : element.scope = Scope.declare [] place.data.nsDecls := scoped_
  have carries : copy ∈ dom.elements.filter
      fun element => element.data.carries builder.signedInfoId :=
    List.mem_filter.mpr ⟨copied, by rw [copyData, carried]⟩
  have same : element.canonicalizeSubtree exclusiveOptions =
      copy.canonicalizeSubtree exclusiveOptions := by
    refine canonicalizeSubtree_inDs ?_ ?_ ownDs copyData.symm copyChildren.symm ?_
    · rw [elementScope]
      exact sorted_declare List.Pairwise.nil _
    · rw [copyScope]
      exact sorted_declare sorted _
    · rw [elementScope, copyScope]
      exact binding_declare declared List.Pairwise.nil sorted
  rw [canonicalizeElementById_eq parsed, Dom.SoleCarrier]
  generalize dom.elements.filter (fun element => element.data.carries builder.signedInfoId) =
    carriers at carries
  rcases carriers with _ | ⟨first, _ | ⟨second, rest⟩⟩
  · cases carries
  · obtain rfl := List.mem_singleton.mp carries
    simp [same]
  · simp

end Signed

section Witness

open scoped Reference

def objectBuilder (objectId : String) : XmlDsigBuilder where
  signatureId := "s".toList
  sigAlg := .rsaPkcs1Sha256
  references := []
  objects := [elementText "ds:Object" [("Id".toList, objectId.toList)] []]
  certDers := []
  signatureNs := []

/-- Both texts of the builder, and what is canonicalized out of the assembled one. -/
def hashedAndRead (builder : XmlDsigBuilder) : Option (List Char × Option (List Char)) := do
  let text ← builder.signedInfoC14n.toOption
  let output ← (builder.assemble ⟨.rsaPkcs1Sha256, [9]⟩).toOption
  return (text, (canonicalizeElementById output builder.signedInfoId .exclusiveWithoutComments
    []).toOption)

theorem plain_objectBuilder : (objectBuilder "o").Plain where
  signatureId := by decide
  references _ member := nomatch member
  prefixes _ member := nomatch member
  uris _ member := nomatch member

/-- What is needed to read the assembled text: how many elements carry the Id. -/
def carriersAssembled (builder : XmlDsigBuilder) : Option Nat := do
  let _ ← builder.signedInfoC14n.toOption
  let output ← (builder.assemble ⟨.rsaPkcs1Sha256, [9]⟩).toOption
  let dom ← (parse output).toOption
  return (dom.elements.filter fun element => element.data.carries builder.signedInfoId).length

end Witness

end Chancela.Xades
