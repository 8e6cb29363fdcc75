import Chancela.Xades.Reading

/-! # Documents with one information set

Two documents that say the same as XML has it have one canonical form when they say the same as
the code reads them, and only then (`Chancela.Xades.canonical_iff`). The readings differ in
white space behind the target of a processing instruction and in literal white space inside the
value of a namespace declaration. The prefix `xml` is declared where it is considered like any
other.
-/

namespace Chancela.Xades

open Markup Reading

mutual

theorem every_iff_located {holds : ElementData → Prop} : (item : Item) → (scope : Scope) →
    (item.Every (fun data _ => holds data) scope ↔
      ∀ element ∈ locatedItem scope item, holds element.data)
  | .char c, _ => by simp [Item.Every, locatedItem]
  | .comment raw, _ => by simp [Item.Every, locatedItem]
  | .pi target data, _ => by simp [Item.Every, locatedItem]
  | .element data children, scope => by
      rw [Item.Every, locatedItem, List.forall_mem_cons, everyOf_iff_located children]

theorem everyOf_iff_located {holds : ElementData → Prop} : (items : List Item) → (scope : Scope) →
    (EveryOf (fun data _ => holds data) scope items ↔
      ∀ element ∈ locatedItems scope items, holds element.data)
  | [], _ => by simp [EveryOf, locatedItems]
  | item :: rest, scope => by
      rw [EveryOf, locatedItems, List.forall_mem_append, every_iff_located item,
        everyOf_iff_located rest]

end

section Documents

variable [QuickXml]

/-- A well-formed document: its elements are closed, its prefixes declared and none undeclared. -/
structure Document where
  text : List Char
  events : List Markup.Event
  lexed : QuickXml.lex (normalizeLineEndings text) = .ok events
  marked : ∀ event ∈ events, Marked event
  said : List Item
  reads : recommended.readEvents events = .ok said
  rooted : said.any Item.isElement = true
  wellFormed : AllNamespaceWellFormed [] said
  declares : EveryOf (fun data _ => data.Declares) [] said

namespace Document

def items (document : Document) : List Item :=
  match code.readEvents document.events with
  | .ok items => items
  | .error _ => []

variable (document first second : Document) (algorithm : C14nAlgorithm)
  (prefixes : List (List Char))

abbrev options : C14nOptions := ⟨algorithm, prefixes, fun _ => false⟩

theorem readEvents_items : code.readEvents document.events = .ok document.items ∧
    AlikeAll document.items document.said := by
  obtain ⟨items, read, alike⟩ := readEvents_alike document.marked document.reads
  rw [Document.items, read]
  exact ⟨rfl, alike⟩

theorem clean : Clean (options algorithm prefixes) [] [] document.items := by
  obtain ⟨-, alike⟩ := document.readEvents_items
  refine ⟨Faithful.start _, alike.wellFormed Scope.Alike.start document.wellFormed, ?_⟩
  refine (alike.every ?_ Scope.Alike.start).mpr document.declares
  intro _ _ data said _ same
  exact ⟨same.symm.declares, same.declares⟩

theorem rooted_items : document.items.any Item.isElement = true := by
  rw [document.readEvents_items.2.any_isElement, document.rooted]

def canonical : List Item := canonTopLevel (options algorithm prefixes) false document.items

theorem canonicalizeDocument_text : canonicalizeDocument document.text algorithm prefixes =
    .ok (spell (piecesOf (document.canonical algorithm prefixes))) := by
  obtain ⟨dom, parsed, flat⟩ :=
    parse_of_readEvents document.lexed document.readEvents_items.1 document.rooted_items
  rw [canonicalizeDocument, parsed]
  change Except.ok (emitTopLevel _ false dom.topLevel) = _
  rw [emitTopLevel_eq (fun _ => rfl), flat, canonical]

theorem exists_parse_canonical :
    ∃ dom, parse (spell (piecesOf (document.canonical algorithm prefixes))) = .ok dom ∧
      flattenAll dom.topLevel = document.canonical algorithm prefixes := by
  apply parse_spell
  · exact readable_canonTopLevel (fun _ => rfl) false _
      (document.clean algorithm prefixes).wellFormed
  · exact fun c => getLast?_canonTopLevel false _ (.inr document.rooted_items) c
  · exact (any_isElement_canonTopLevel _ false _).trans document.rooted_items

/-- The documents say the same: they differ in the order of attributes and declarations, in
declarations that do not count, and in how characters, empty elements and white space that XML
does not keep are written. -/
def SameInformation : Prop :=
  documentInfoset (options algorithm prefixes) first.said =
    documentInfoset (options algorithm prefixes) second.said

/-- The documents say the same as the code reads them: with all but the first character of the
white space behind the target of an instruction, and the tabs and newlines that are written in
the values of declarations. -/
def SameReading : Prop :=
  documentInfoset (options algorithm prefixes) first.items =
    documentInfoset (options algorithm prefixes) second.items

/-- The prefix `xml` is neither used nor listed in exclusive canonicalization, nor declared in
inclusive canonicalization. -/
def XmlUnseen : Prop := EveryOf (options algorithm prefixes).XmlSilent [] document.said

/-- No element of the canonical text declares `xml`. -/
def XmlUndeclared : Prop :=
  ∀ bytes dom, canonicalizeDocument document.text algorithm prefixes = .ok bytes →
    parse bytes = .ok dom → ∀ element ∈ dom.elements, element.data.DeclaresNoXml

def SameCanonical : Prop :=
  ∃ bytes, canonicalizeDocument first.text algorithm prefixes = .ok bytes ∧
    canonicalizeDocument second.text algorithm prefixes = .ok bytes

theorem xmlUnseen_iff : document.XmlUnseen algorithm prefixes ↔
    EveryOf (options algorithm prefixes).XmlSilent [] document.items :=
  (document.readEvents_items.2.every (fun scopes same => xmlSilent_of_alike scopes same)
    Scope.Alike.start).symm

theorem xmlUndeclared_iff :
    document.XmlUndeclared algorithm prefixes ↔ document.XmlUnseen algorithm prefixes := by
  obtain ⟨dom, parsed, flat⟩ := document.exists_parse_canonical algorithm prefixes
  have elements : (∀ element ∈ dom.elements, element.data.DeclaresNoXml) ↔
      EveryOf (fun data _ => data.DeclaresNoXml) [] (document.canonical algorithm prefixes) := by
    rw [everyOf_iff_located, ← flat, ← map_item_locatedIn, List.forall_mem_map]
    rfl
  rw [xmlUnseen_iff,
    ← every_declaresNoXml_canonTopLevel (fun _ => rfl) false (document.clean algorithm prefixes)]
  change _ ↔ EveryOf _ [] (document.canonical algorithm prefixes)
  rw [← elements]
  constructor
  · exact fun undeclared => undeclared _ dom (document.canonicalizeDocument_text algorithm prefixes)
      parsed
  · intro undeclared bytes again canonicalized read
    rw [canonicalizeDocument_text] at canonicalized
    rw [← Except.ok.inj canonicalized, parsed] at read
    rw [← Except.ok.inj read]
    exact undeclared

theorem sameCanonical_iff : SameCanonical first second algorithm prefixes ↔
    first.canonical algorithm prefixes = second.canonical algorithm prefixes := by
  rw [SameCanonical, canonicalizeDocument_text, canonicalizeDocument_text]
  constructor
  · rintro ⟨bytes, here, there⟩
    obtain ⟨dom, parsed, flat⟩ := first.exists_parse_canonical algorithm prefixes
    obtain ⟨other, parsedOther, flatOther⟩ := second.exists_parse_canonical algorithm prefixes
    rw [Except.ok.inj here] at parsed
    rw [Except.ok.inj there, parsed] at parsedOther
    rw [← flat, ← flatOther, Except.ok.inj parsedOther]
  · intro same
    rw [same]
    exact ⟨_, rfl, rfl⟩

theorem sameReading_of_sameCanonical (same : SameCanonical first second algorithm prefixes) :
    SameReading first second algorithm prefixes := by
  have trees := (sameCanonical_iff first second algorithm prefixes).mp same
  rw [SameReading,
    ← documentInfoset_canonTopLevel (fun _ => rfl) false (first.clean algorithm prefixes),
    ← documentInfoset_canonTopLevel (fun _ => rfl) false (second.clean algorithm prefixes)]
  exact congrArg _ trees

theorem sameCanonical_of_sameReading (alike : SameReading first second algorithm prefixes)
    (unseen : first.XmlUnseen algorithm prefixes)
    (unseenOther : second.XmlUnseen algorithm prefixes) :
    SameCanonical first second algorithm prefixes := by
  rw [sameCanonical_iff]
  exact canonTopLevel_of_infoset (fun _ => rfl) false (first.clean algorithm prefixes)
    (second.clean algorithm prefixes) ((first.xmlUnseen_iff algorithm prefixes).mp unseen)
    ((second.xmlUnseen_iff algorithm prefixes).mp unseenOther) alike

theorem items_eq_said (plain : ∀ event ∈ document.events, Plain event) :
    document.items = document.said := by
  have read := document.readEvents_items.1
  rw [readEvents_plain plain, document.reads] at read
  exact (Except.ok.inj read).symm

end Document

open Document

/-- **The canonical form depends on the information set as the code reads it.** Documents that
say the same have one canonical form, without a declaration of `xml`, exactly when the code
reads them alike and the prefix is not seen. Plain documents that say the same are read
alike. -/
theorem canonical_iff (algorithm : C14nAlgorithm) (prefixes : List (List Char))
    (first second : Document) :
    (((SameInformation first second algorithm prefixes →
          SameCanonical first second algorithm prefixes) ∧
        first.XmlUndeclared algorithm prefixes ∧ second.XmlUndeclared algorithm prefixes) ↔
      (SameInformation first second algorithm prefixes →
          SameReading first second algorithm prefixes) ∧
        first.XmlUnseen algorithm prefixes ∧ second.XmlUnseen algorithm prefixes) ∧
    ((∀ event ∈ first.events ++ second.events, Plain event) →
      SameInformation first second algorithm prefixes →
      SameReading first second algorithm prefixes) := by
  constructor
  · rw [xmlUndeclared_iff, xmlUndeclared_iff]
    constructor
    · rintro ⟨canonical, unseen⟩
      refine ⟨fun same => ?_, unseen⟩
      exact sameReading_of_sameCanonical first second algorithm prefixes (canonical same)
    · rintro ⟨alike, unseen, unseenOther⟩
      refine ⟨fun same => ?_, unseen, unseenOther⟩
      exact sameCanonical_of_sameReading first second algorithm prefixes (alike same) unseen
        unseenOther
  · intro plain same
    obtain ⟨plainFirst, plainSecond⟩ := List.forall_mem_append.mp plain
    rw [SameReading, first.items_eq_said plainFirst, second.items_eq_said plainSecond]
    exact same

end Documents

section Failing

open Document
open scoped Reference

/-- An element `a` without declarations. -/
theorem namespaceWellFormed_plain :
    ElementData.NamespaceWellFormed ⟨none, ['a'], [], []⟩ (Scope.declare [] []) where
  nsPrefix _ given := nomatch given
  localName := ⟨⟨List.cons_ne_nil _ _, by simp [isNameChar, isSpace]⟩, by simp⟩
  decls _ member := nomatch member
  attrPrefix _ member := nomatch member
  attrLocal _ member := nomatch member
  distinct := List.nodup_nil
  bound name member nonempty _ := absurd (List.mem_singleton.mp member) nonempty

theorem readablePi_spaced : ReadablePi ['t'] ['d'] :=
  ⟨by decide, by decide, by decide, by decide⟩

/-- `<a><?t d?></a>`. -/
def oneSpace : Document where
  text := ['<', 'a', '>', '<', '?', 't', ' ', 'd', '?', '>', '<', '/', 'a', '>']
  events := [.start ['a'] [], .instruction ['t', ' ', 'd'], .finish ['a']]
  lexed := rfl
  marked := by
    intro event member raw same
    subst same
    obtain rfl : raw = ['t', ' ', 'd'] := by simpa using member
    decide
  said := [.element ⟨none, ['a'], [], []⟩ [.pi ['t'] ['d']]]
  reads := rfl
  rooted := rfl
  wellFormed := ⟨⟨namespaceWellFormed_plain, readablePi_spaced, trivial⟩, trivial⟩
  declares := ⟨⟨fun _ member => (nomatch member), ⟨trivial, trivial⟩⟩, trivial⟩

/-- `<a><?t  d?></a>`. -/
def twoSpaces : Document where
  text := ['<', 'a', '>', '<', '?', 't', ' ', ' ', 'd', '?', '>', '<', '/', 'a', '>']
  events := [.start ['a'] [], .instruction ['t', ' ', ' ', 'd'], .finish ['a']]
  lexed := rfl
  marked := by
    intro event member raw same
    subst same
    obtain rfl : raw = ['t', ' ', ' ', 'd'] := by simpa using member
    decide
  said := [.element ⟨none, ['a'], [], []⟩ [.pi ['t'] ['d']]]
  reads := rfl
  rooted := rfl
  wellFormed := ⟨⟨namespaceWellFormed_plain, readablePi_spaced, trivial⟩, trivial⟩
  declares := ⟨⟨fun _ member => (nomatch member), ⟨trivial, trivial⟩⟩, trivial⟩

/-- `<a xml:lang="p"/>`. -/
def taggedLang : Document where
  text := ['<', 'a', ' ', 'x', 'm', 'l', ':', 'l', 'a', 'n', 'g', '=', '"', 'p', '"', '/', '>']
  events := [.empty ['a'] [(['x', 'm', 'l', ':', 'l', 'a', 'n', 'g'], ['p'])]]
  lexed := rfl
  marked := by
    intro event member raw same
    subst same
    simp at member
  said := [.element ⟨none, ['a'], [], [⟨some xmlPrefix, ['l', 'a', 'n', 'g'], ['p']⟩]⟩ []]
  reads := rfl
  rooted := rfl
  wellFormed := by
    refine ⟨⟨⟨⟨fun _ given => (nomatch given), by decide, fun _ member => (nomatch member), ?_, ?_,
      by decide⟩, ?_⟩, trivial⟩, trivial⟩
    · intro attr member name given
      obtain rfl := List.mem_singleton.mp member
      cases given
      exact ⟨by decide, by decide⟩
    · intro attr member
      obtain rfl := List.mem_singleton.mp member
      exact ⟨by decide, fun given => nomatch given⟩
    · intro name member nonempty plain
      simp [ElementData.visible, nonempty, plain] at member
  declares := ⟨⟨fun _ member => (nomatch member), trivial⟩, trivial⟩

/-- `<a><?t d?></a>` and `<a><?t  d?></a>` say the same and are canonicalized to themselves, and
`<a xml:lang="p"/>` is written with a declaration of `xml`. -/
theorem not_canonical_twoSpaces :
    (SameInformation oneSpace twoSpaces .exclusiveWithoutComments [] ∧
      ¬SameCanonical oneSpace twoSpaces .exclusiveWithoutComments []) ∧
    ¬taggedLang.XmlUndeclared .exclusiveWithoutComments [] := by
  refine ⟨⟨rfl, ?_⟩, ?_⟩
  · rintro ⟨bytes, first, second⟩
    exact absurd (first.trans second.symm) (by decide)
  · rw [xmlUndeclared_iff]
    exact fun unseen => unseen.1.1 (by decide)

end Failing

end Chancela.Xades
