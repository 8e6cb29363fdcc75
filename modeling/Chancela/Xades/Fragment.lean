import Chancela.Xades.RoundTrip

/-! # Fragments of a text

An element written into a text, with raw attribute values and content, is read to one item
wherever the text stands in it. A document that begins with an open element and such a fragment
has an element whose first child is that item, whatever follows (`Chancela.Xades.parse_fragment`).
-/

namespace Chancela.Xades

open Markup

/-- A fragment: an element with raw attribute values, or text without references. -/
inductive Fragment where
  | element (name : List Char) (attributes : List (List Char × List Char))
      (children : List Fragment)
  | text (chars : List Char)

namespace Fragment

mutual

def pieces : Fragment → List Piece
  | element name attributes children =>
      .start name attributes :: (piecesAll children ++ [.finish name])
  | text chars => chars.map .char

def piecesAll : List Fragment → List Piece
  | [] => []
  | fragment :: rest => pieces fragment ++ piecesAll rest

end

mutual

def build : Fragment → Except XadesError (List Item)
  | element name attributes children => do
      let data ← buildElement name attributes
      let items ← buildAll children
      return [.element data items]
  | text chars => .ok (chars.map .char)

def buildAll : List Fragment → Except XadesError (List Item)
  | [] => .ok []
  | fragment :: rest => do
      let first ← build fragment
      let later ← buildAll rest
      return first ++ later

end

mutual

/-- The names and values of a fragment end where its text says. -/
def WellFormed : Fragment → Prop
  | element name attributes children =>
      IsName name ∧ (∀ entry ∈ attributes, WellFormedAttribute entry) ∧ AllWellFormed children
  | text chars => '<' ∉ chars ∧ '&' ∉ chars ∧ '\r' ∉ chars

def AllWellFormed : List Fragment → Prop
  | [] => True
  | fragment :: rest => WellFormed fragment ∧ AllWellFormed rest

end

/-- An attribute with the line endings of its value normalized. -/
def normalizeAttribute (entry : List Char × List Char) : List Char × List Char :=
  (entry.1, normalizeLineEndings entry.2)

mutual

def normalize : Fragment → Fragment
  | element name attributes children =>
      element name (attributes.map normalizeAttribute) (normalizeAll children)
  | text chars => text chars

def normalizeAll : List Fragment → List Fragment
  | [] => []
  | fragment :: rest => normalize fragment :: normalizeAll rest

end

end Fragment

/-! ## Line endings -/

theorem normalizeLineEndings_cons {c : Char} (other : c ≠ '\r') (rest : List Char) :
    normalizeLineEndings (c :: rest) = c :: normalizeLineEndings rest := by
  rw [normalizeLineEndings]
  · exact fun _ same => absurd same other
  · exact other

theorem normalizeLineEndings_append {front : List Char} (plain : '\r' ∉ front) (back : List Char) :
    normalizeLineEndings (front ++ back) = front ++ normalizeLineEndings back := by
  induction front with
  | nil => rfl
  | cons c rest ih =>
      have other : c ≠ '\r' := fun same => plain (same ▸ List.mem_cons_self)
      rw [List.cons_append, normalizeLineEndings_cons other,
        ih fun member => plain (List.mem_cons_of_mem c member)]
      rfl

theorem normalizeLineEndings_append_cons (front : List Char) {c : Char} (other : c ≠ '\n')
    (dark : c ≠ '\r') (back : List Char) :
    normalizeLineEndings (front ++ c :: back) =
      normalizeLineEndings front ++ c :: normalizeLineEndings back := by
  fun_induction normalizeLineEndings front with
  | case1 => exact normalizeLineEndings_cons dark back
  | case2 rest ih => simpa [normalizeLineEndings] using ih
  | case3 rest alone ih =>
      have next : ∀ tail, rest ++ c :: back ≠ '\n' :: tail := by
        intro tail same
        cases rest with
        | nil => exact other (List.cons.inj same).1
        | cons d rest => exact alone rest (by rw [(List.cons.inj same).1])
      rw [List.cons_append, List.cons_append, normalizeLineEndings, ih]
      exact next
  | case4 d rest first second ih =>
      have plain : d ≠ '\r' := second
      rw [List.cons_append, List.cons_append, normalizeLineEndings_cons plain, ih]

theorem mem_normalizeLineEndings {text : List Char} {c : Char}
    (member : c ∈ normalizeLineEndings text) : c ∈ text ∨ c = '\n' := by
  fun_induction normalizeLineEndings text with
  | case1 => cases member
  | case2 rest ih =>
      rcases List.mem_cons.mp member with same | later
      · exact .inr same
      · exact (ih later).imp_left fun inside =>
          List.mem_cons_of_mem _ (List.mem_cons_of_mem _ inside)
  | case3 rest _ ih =>
      rcases List.mem_cons.mp member with same | later
      · exact .inr same
      · exact (ih later).imp_left (List.mem_cons_of_mem _)
  | case4 d rest _ _ ih =>
      rcases List.mem_cons.mp member with same | later
      · exact .inl (same ▸ List.mem_cons_self)
      · exact (ih later).imp_left (List.mem_cons_of_mem _)

namespace Fragment

theorem wellFormed_normalizeAttribute {entry : List Char × List Char}
    (wellFormed : WellFormedAttribute entry) : WellFormedAttribute (normalizeAttribute entry) := by
  obtain ⟨named, quote, lt⟩ := wellFormed
  refine ⟨named, fun member => ?_, fun member => ?_⟩
  · rcases mem_normalizeLineEndings member with inside | newline
    · exact quote inside
    · exact absurd newline (by decide)
  · rcases mem_normalizeLineEndings member with inside | newline
    · exact lt inside
    · exact absurd newline (by decide)

variable {attributes : List (List Char × List Char)}

theorem normalizeLineEndings_attributes
    (wellFormed : ∀ entry ∈ attributes, WellFormedAttribute entry) (rest : List Char) :
    normalizeLineEndings (attributes.flatMap spellAttribute ++ rest) =
      (attributes.map normalizeAttribute).flatMap spellAttribute ++ normalizeLineEndings rest := by
  induction attributes with
  | nil => rfl
  | cons entry others ih =>
      obtain ⟨key, value⟩ := entry
      have named : '\r' ∉ key := (wellFormed (key, value) List.mem_cons_self).1.not_mem rfl
      have lead : '\r' ∉ ' ' :: (key ++ ['=', '"']) := by simp [named]
      have later := ih fun other member => wellFormed other (List.mem_cons_of_mem _ member)
      have text : List.flatMap spellAttribute ((key, value) :: others) ++ rest =
          (' ' :: (key ++ ['=', '"'])) ++ (value ++ '"' ::
            (others.flatMap spellAttribute ++ rest)) := by
        simp [spellAttribute]
      rw [text, normalizeLineEndings_append lead,
        normalizeLineEndings_append_cons value (by decide) (by decide), later]
      simp [spellAttribute, normalizeAttribute]

theorem normalizeLineEndings_start {name : List Char} (named : IsName name)
    (attributed : ∀ entry ∈ attributes, WellFormedAttribute entry) (rest : List Char) :
    normalizeLineEndings ((Piece.start name attributes).spell ++ rest) =
      (Piece.start name (attributes.map normalizeAttribute)).spell ++
        normalizeLineEndings rest := by
  have plain : '\r' ∉ name := named.not_mem rfl
  have opened : '\r' ∉ '<' :: name := by simp [plain]
  have text : (Piece.start name attributes).spell ++ rest =
      ('<' :: name) ++ (attributes.flatMap spellAttribute ++ ('>' :: rest)) := by
    simp [Piece.spell]
  rw [text, normalizeLineEndings_append opened, normalizeLineEndings_attributes attributed,
    normalizeLineEndings_cons (by decide)]
  simp [Piece.spell]

mutual

theorem normalizeLineEndings_spell : (fragment : Fragment) → fragment.WellFormed →
    (rest : List Char) →
    normalizeLineEndings (spell fragment.pieces ++ rest) =
      spell fragment.normalize.pieces ++ normalizeLineEndings rest
  | text chars, wellFormed, rest => by
      have same : spell (pieces (text chars)) = chars := by
        simp [pieces, spell, List.flatMap_map, Piece.spell]
      rw [normalize, same, normalizeLineEndings_append wellFormed.2.2]
  | element name attributes children, ⟨named, attributed, inner⟩, rest => by
      have plain : '\r' ∉ name := named.not_mem rfl
      have closed : '\r' ∉ (Piece.finish name).spell := by simp [Piece.spell, plain]
      have text : spell (pieces (element name attributes children)) ++ rest =
          (Piece.start name attributes).spell ++
            (spell (piecesAll children) ++ ((Piece.finish name).spell ++ rest)) := by
        simp [pieces, spell]
      rw [text, normalizeLineEndings_start named attributed,
        normalizeLineEndings_spellAll children inner, normalizeLineEndings_append closed]
      simp [pieces, normalize, spell]

theorem normalizeLineEndings_spellAll : (fragments : List Fragment) → AllWellFormed fragments →
    (rest : List Char) →
    normalizeLineEndings (spell (piecesAll fragments) ++ rest) =
      spell (piecesAll (normalizeAll fragments)) ++ normalizeLineEndings rest
  | [], _, _ => rfl
  | fragment :: others, ⟨first, later⟩, rest => by
      rw [piecesAll, spell_append, List.append_assoc, normalizeLineEndings_spell fragment first,
        normalizeLineEndings_spellAll others later, normalizeAll, piecesAll, spell_append,
        List.append_assoc]

end

mutual

theorem wellFormed_normalize : (fragment : Fragment) → fragment.WellFormed →
    fragment.normalize.WellFormed
  | text chars, wellFormed => wellFormed
  | element name attributes children, ⟨named, attributed, inner⟩ => by
      refine ⟨named, fun entry member => ?_, wellFormed_normalizeAll children inner⟩
      obtain ⟨source, inside, rfl⟩ := List.mem_map.mp member
      exact wellFormed_normalizeAttribute (attributed source inside)

theorem wellFormed_normalizeAll : (fragments : List Fragment) → AllWellFormed fragments →
    AllWellFormed (normalizeAll fragments)
  | [], _ => trivial
  | fragment :: rest, ⟨first, later⟩ =>
      ⟨wellFormed_normalize fragment first, wellFormed_normalizeAll rest later⟩

end

mutual

theorem wellFormed_pieces : (fragment : Fragment) → fragment.WellFormed →
    ∀ piece ∈ fragment.pieces, piece.WellFormed
  | text chars, ⟨lt, amp, _⟩, piece, member => by
      obtain ⟨c, inside, rfl⟩ := List.mem_map.mp member
      exact ⟨fun same => lt (same ▸ inside), fun same => amp (same ▸ inside)⟩
  | element name attributes children, ⟨named, attributed, inner⟩, piece, member => by
      rw [pieces] at member
      rcases List.mem_cons.mp member with rfl | later
      · exact ⟨named, attributed⟩
      · rcases List.mem_append.mp later with inside | last
        · exact wellFormed_piecesAll children inner piece inside
        · exact List.mem_singleton.mp last ▸ named

theorem wellFormed_piecesAll : (fragments : List Fragment) → AllWellFormed fragments →
    ∀ piece ∈ piecesAll fragments, piece.WellFormed
  | [], _, _, member => nomatch member
  | fragment :: rest, ⟨first, later⟩, piece, member => by
      rcases List.mem_append.mp member with inside | after
      · exact wellFormed_pieces fragment first piece inside
      · exact wellFormed_piecesAll rest later piece after

end

end Fragment

/-! ## Fragments in the loop of the parser -/

theorem qualifiedName_splitQname (name : List Char) :
    qualifiedName (splitQname name).1 (splitQname name).2 = name := by
  rw [splitQname]
  split
  · next colon =>
      have found : (name.dropWhile (· ≠ ':')) = ':' :: (name.dropWhile (· ≠ ':')).drop 1 := by
        induction name with
        | nil => cases colon
        | cons c rest ih =>
            by_cases here : c = ':'
            · simp [here]
            · have later : ':' ∈ rest := (List.mem_cons.mp colon).resolve_left (Ne.symm here)
              simpa [here] using ih later
      rw [qualifiedName, ← found, List.takeWhile_append_dropWhile]
  · rfl

theorem addAttribute_names {data next : ElementData} {entry : List Char × List Char}
    (added : addAttribute data entry = .ok next) :
    next.nsPrefix = data.nsPrefix ∧ next.localName = data.localName := by
  obtain ⟨key, raw⟩ := entry
  rw [addAttribute] at added
  simp only at added
  split at added
  · cases resolved : unescape raw with
    | error message =>
        rw [resolved] at added
        cases added
    | ok uri =>
        rw [resolved] at added
        cases added
        exact ⟨rfl, rfl⟩
  · split at added
    · cases resolved : unescape raw with
      | error message =>
          rw [resolved] at added
          cases added
      | ok uri =>
          rw [resolved] at added
          cases added
          exact ⟨rfl, rfl⟩
    · cases resolved : normalizeAttrValue raw with
      | error message =>
          rw [resolved] at added
          cases added
      | ok value =>
          rw [resolved] at added
          cases added
          exact ⟨rfl, rfl⟩

theorem foldlM_addAttribute_names (attributes : List (List Char × List Char))
    {data next : ElementData} (added : attributes.foldlM addAttribute data = .ok next) :
    next.nsPrefix = data.nsPrefix ∧ next.localName = data.localName := by
  induction attributes generalizing data with
  | nil =>
      cases added
      exact ⟨rfl, rfl⟩
  | cons entry rest ih =>
      rw [List.foldlM_cons] at added
      cases first : addAttribute data entry with
      | error message =>
          rw [first] at added
          cases added
      | ok middle =>
          rw [first] at added
          obtain ⟨nsPrefix, localName⟩ := ih added
          obtain ⟨nsPrefix', localName'⟩ := addAttribute_names first
          exact ⟨nsPrefix.trans nsPrefix', localName.trans localName'⟩

theorem qname_buildElement {name : List Char} {data : ElementData}
    (built : buildElement name attributes = .ok data) : data.qname = name := by
  rw [buildElement] at built
  split at built
  · obtain ⟨nsPrefix, localName⟩ := foldlM_addAttribute_names attributes built
    rw [ElementData.qname, nsPrefix, localName]
    exact qualifiedName_splitQname name
  · cases built

mutual

theorem foldlM_fragment : (fragment : Fragment) → (state : ItemState) →
    fragment.pieces.foldlM handlePiece state = fragment.build.map state.push
  | .text chars, state => foldlM_chars chars state
  | .element name attributes children, state => by
      rw [Fragment.pieces, List.foldlM_cons, handlePiece, Fragment.build]
      cases built : buildElement name attributes with
      | error message => rfl
      | ok data =>
          change (Fragment.piecesAll children ++ [Piece.finish name]).foldlM handlePiece
            { state with stack := (data, []) :: state.stack } = _
          rw [List.foldlM_append, foldlM_fragments children]
          cases inner : Fragment.buildAll children with
          | error message => rfl
          | ok items =>
              change List.foldlM handlePiece (ItemState.push _ items) [Piece.finish name] = _
              rw [List.foldlM_cons]
              simp only [handlePiece, ItemState.push, List.nil_append, qname_buildElement built,
                ↓reduceIte]
              rfl

theorem foldlM_fragments : (fragments : List Fragment) → (state : ItemState) →
    (Fragment.piecesAll fragments).foldlM handlePiece state =
      (Fragment.buildAll fragments).map state.push
  | [], state => congrArg Except.ok state.push_nil.symm
  | fragment :: rest, state => by
      rw [Fragment.piecesAll, List.foldlM_append, foldlM_fragment fragment, Fragment.buildAll]
      cases built : fragment.build with
      | error message => rfl
      | ok first =>
          change List.foldlM handlePiece (state.push first) (Fragment.piecesAll rest) = _
          rw [foldlM_fragments rest]
          cases later : Fragment.buildAll rest with
          | error message => rfl
          | ok items => exact congrArg Except.ok (state.push_push first items)

end

/-- The outermost element begins with these items: it is still open, or stands at the top. -/
def Begun (data : ElementData) (items : List Item) (state : ParseState) : Prop :=
  (∃ frames children, state.stack = frames ++ [(data, children)] ∧
    items <+: flattenAll children.reverse) ∨
  ∃ children, .element data children ∈ state.topLevel ∧ items <+: flattenAll children

section Begun

variable {data : ElementData} {items : List Item}

theorem Begun.pushNode {state : ParseState} (begun : Begun data items state) (node : Node) :
    Begun data items (pushNode state node) := by
  obtain ⟨stack, topLevel⟩ := state
  rcases begun with ⟨frames, children, rfl, lead⟩ | ⟨children, member, lead⟩
  · refine .inl ?_
    cases frames with
    | nil =>
        refine ⟨[], node :: children, rfl, ?_⟩
        rw [List.reverse_cons, flattenAll_concat]
        exact lead.trans (List.prefix_append _ _)
    | cons frame frames =>
        exact ⟨(frame.1, node :: frame.2) :: frames, children, rfl, lead⟩
  · refine .inr ⟨children, ?_, lead⟩
    cases stack with
    | nil => exact List.mem_cons_of_mem node member
    | cons frame rest => exact member

theorem Begun.handleEvent {state next : ParseState} (begun : Begun data items state)
    {event : Markup.Event} (handled : handleEvent state event = .ok next) :
    Begun data items next := by
  cases event with
  | start name attributes =>
      rw [Xades.handleEvent] at handled
      cases built : buildElement name attributes with
      | error message =>
          rw [built] at handled
          cases handled
      | ok opened =>
          rw [built] at handled
          cases handled
          rcases begun with ⟨frames, children, stack, lead⟩ | top
          · exact .inl ⟨(opened, []) :: frames, children, congrArg _ stack, lead⟩
          · exact .inr top
  | empty name attributes =>
      rw [Xades.handleEvent] at handled
      cases built : buildElement name attributes with
      | error message =>
          rw [built] at handled
          cases handled
      | ok opened =>
          rw [built] at handled
          cases handled
          exact begun.pushNode _
  | finish name =>
      obtain ⟨stack, topLevel⟩ := state
      rw [Xades.handleEvent] at handled
      cases stack with
      | nil => cases handled
      | cons frame rest =>
          simp only at handled
          split at handled
          · cases handled
            rcases begun with ⟨frames, children, split, lead⟩ | top
            · cases frames with
              | nil =>
                  -- The outermost element is closed.
                  obtain ⟨rfl, rfl⟩ := List.cons.inj split
                  exact .inr ⟨children.reverse, List.mem_cons_self, lead⟩
              | cons other frames =>
                  obtain ⟨rfl, rfl⟩ := List.cons.inj split
                  exact Begun.pushNode (.inl ⟨frames, children, rfl, lead⟩) _
            · have kept : Begun data items ⟨rest, topLevel⟩ := .inr top
              exact kept.pushNode _
          · cases handled
  | text raw =>
      rw [Xades.handleEvent] at handled
      cases resolved : unescape raw with
      | error message =>
          rw [resolved] at handled
          cases handled
      | ok chars =>
          rw [resolved] at handled
          cases handled
          exact begun.pushNode _
  | generalRef name =>
      rw [Xades.handleEvent] at handled
      cases resolved : unescape ('&' :: (name ++ [';'])) with
      | error message =>
          rw [resolved] at handled
          cases handled
      | ok chars =>
          rw [resolved] at handled
          cases handled
          exact begun.pushNode _
  | cdata raw =>
      cases handled
      exact begun.pushNode _
  | comment raw =>
      cases handled
      exact begun.pushNode _
  | instruction raw =>
      cases handled
      exact begun.pushNode _
  | declaration raw =>
      cases handled
      exact begun
  | docType raw =>
      cases handled
      exact begun

theorem Begun.foldlM (events : List Markup.Event) {state next : ParseState}
    (begun : Begun data items state) (handled : events.foldlM Xades.handleEvent state = .ok next) :
    Begun data items next := by
  induction events generalizing state with
  | nil =>
      cases handled
      exact begun
  | cons event rest ih =>
      rw [List.foldlM_cons] at handled
      cases first : Xades.handleEvent state event with
      | error message =>
          rw [first] at handled
          cases handled
      | ok middle =>
          rw [first] at handled
          exact ih (begun.handleEvent first) handled

theorem mem_closeAll {topLevel : List Node} {node : Node} (member : node ∈ topLevel)
    (closed : Option Node) (stack : List (ElementData × List Node)) :
    node ∈ closeAll topLevel closed stack := by
  induction stack generalizing closed with
  | nil => simp [closeAll, member]
  | cons frame rest ih => exact ih _

theorem Begun.closeAll {state : ParseState} (begun : Begun data items state) :
    ∃ children, .element data children ∈ closeAll state.topLevel none state.stack ∧
      items <+: flattenAll children := by
  obtain ⟨stack, topLevel⟩ := state
  rcases begun with ⟨frames, children, rfl, lead⟩ | ⟨children, member, lead⟩
  · have general : ∀ (frames : List (ElementData × List Node)) (closed : Option Node),
        ∃ nodes,
          .element data nodes ∈ Xades.closeAll topLevel closed (frames ++ [(data, children)]) ∧
          items <+: flattenAll nodes := by
      intro frames
      induction frames with
      | nil =>
          intro closed
          refine ⟨(closed.toList ++ children).reverse, by simp [Xades.closeAll], ?_⟩
          rw [List.reverse_append, flattenAll_append]
          exact lead.trans (List.prefix_append _ _)
      | cons frame frames ih => exact fun closed => ih _
    exact general frames none
  · exact ⟨children, mem_closeAll member none stack, lead⟩

end Begun

theorem ok_of_map_eq_ok {ε α β : Type} {result : Except ε α} {f : α → β} {value : β}
    (mapped : result.map f = .ok value) : ∃ found, result = .ok found ∧ f found = value := by
  cases result with
  | error message => cases mapped
  | ok found => exact ⟨found, rfl, Except.ok.inj mapped⟩

section Parse

variable [QuickXml]

theorem parse_eq_ok {xml : List Char} {dom : Dom} (parsed : parse xml = .ok dom) :
    ∃ events state, QuickXml.lex (normalizeLineEndings xml) = .ok events ∧
      events.foldlM handleEvent ⟨[], []⟩ = .ok state ∧
      dom.topLevel = closeAll state.topLevel none state.stack := by
  rw [parse] at parsed
  cases lexed : QuickXml.lex (normalizeLineEndings xml) with
  | error message =>
      rw [lexed] at parsed
      cases parsed
  | ok events =>
      simp only [lexed] at parsed
      cases handled : events.foldlM handleEvent ⟨[], []⟩ with
      | error message =>
          rw [handled] at parsed
          cases parsed
      | ok state =>
          rw [handled] at parsed
          refine ⟨events, state, rfl, handled, ?_⟩
          change (if (closeAll state.topLevel none state.stack).any Node.isElement = true then _
            else _) = _ at parsed
          split at parsed
          · cases parsed
            rfl
          · cases parsed

theorem parse_pieces {xml rest : List Char} {pieces : List Piece} {dom : Dom}
    (parsed : parse xml = .ok dom) (text : normalizeLineEndings xml = spell pieces ++ rest)
    (wellFormed : ∀ piece ∈ pieces, piece.WellFormed)
    (ended : ∀ c, pieces.getLast? ≠ some (.char c)) :
    ∃ middle later state, pieces.foldlM handlePiece ⟨[], []⟩ = .ok middle.items ∧
      QuickXml.lex rest = .ok later ∧ later.foldlM handleEvent middle = .ok state ∧
      dom.topLevel = closeAll state.topLevel none state.stack := by
  obtain ⟨events, state, lexed, handled, top⟩ := parse_eq_ok parsed
  obtain ⟨front, same, read⟩ := QuickXml.lex_spell pieces wellFormed ended rest
  rw [text, read] at lexed
  obtain ⟨later, lexedLater, rfl⟩ := ok_of_map_eq_ok lexed
  have plain : ∀ piece ∈ front.flatMap Markup.Event.pieces, piece ≠ .char '&' := by
    rintro piece member rfl
    rw [same] at member
    exact (wellFormed _ member).2 rfl
  have folded := map_items_foldlM front ⟨[], []⟩ plain
  rw [same] at folded
  rw [List.foldlM_append] at handled
  cases first : front.foldlM handleEvent ⟨[], []⟩ with
  | error message =>
      rw [first] at handled
      cases handled
  | ok middle =>
      rw [first] at handled folded
      exact ⟨middle, later, state, folded.symm, lexedLater, handled, top⟩

omit [QuickXml] in
theorem getLast?_element (name : List Char) (attributes : List (List Char × List Char))
    (children : List Fragment) (c : Char) :
    (Fragment.element name attributes children).pieces.getLast? ≠ some (.char c) := by
  rw [Fragment.pieces, ← List.cons_append, List.getLast?_concat]
  simp

/-- **A text that is one element is read to its items.** -/
theorem parse_element {name : List Char} {children : List Fragment}
    (wellFormed : (Fragment.element name attributes children).WellFormed) {dom : Dom}
    (parsed : parse (spell (Fragment.element name attributes children).pieces) = .ok dom) :
    (Fragment.element name attributes children).normalize.build =
      .ok (flattenAll dom.topLevel) := by
  have text := Fragment.normalizeLineEndings_spell _ wellFormed []
  have normal := Fragment.wellFormed_normalize _ wellFormed
  rw [List.append_nil] at text
  obtain ⟨middle, later, state, folded, lexed, handled, top⟩ := parse_pieces parsed text
    (Fragment.wellFormed_pieces _ normal) (getLast?_element _ _ _)
  rw [normalizeLineEndings, QuickXml.lex_nil] at lexed
  cases lexed
  cases handled
  rw [foldlM_fragment] at folded
  obtain ⟨items, built, pushed⟩ := ok_of_map_eq_ok folded
  obtain ⟨stack, topLevel⟩ := middle
  obtain ⟨closed, flat⟩ := ItemState.mk.inj pushed
  have closed : stack = [] := List.map_eq_nil_iff.mp closed.symm
  subst closed
  rw [built, top]
  exact congrArg Except.ok flat

/-- **A text that begins with an open element and one inside it**, whatever follows: the open
element stands at the top, and what it begins with is read to its items. -/
theorem parse_fragment {name : List Char} (named : IsName name)
    (attributed : ∀ entry ∈ attributes, WellFormedAttribute entry) {inner : List Char}
    {attributes' : List (List Char × List Char)} {children : List Fragment}
    (wellFormed : (Fragment.element inner attributes' children).WellFormed) {rest : List Char}
    {dom : Dom} (parsed : parse ((Piece.start name attributes).spell ++
      (spell (Fragment.element inner attributes' children).pieces ++ rest)) = .ok dom) :
    ∃ data items nodes,
      buildElement name (attributes.map Fragment.normalizeAttribute) = .ok data ∧
      (Fragment.element inner attributes' children).normalize.build = .ok items ∧
      .element data nodes ∈ dom.topLevel ∧ items <+: flattenAll nodes := by
  have normal := Fragment.wellFormed_normalize _ wellFormed
  have text : normalizeLineEndings ((Piece.start name attributes).spell ++
      (spell (Fragment.element inner attributes' children).pieces ++ rest)) =
      spell (.start name (attributes.map Fragment.normalizeAttribute) ::
        (Fragment.element inner attributes' children).normalize.pieces) ++
        normalizeLineEndings rest := by
    rw [Fragment.normalizeLineEndings_start named attributed,
      Fragment.normalizeLineEndings_spell _ wellFormed, spell_cons, List.append_assoc]
  have pieces : ∀ piece ∈ (Piece.start name (attributes.map Fragment.normalizeAttribute) ::
      (Fragment.element inner attributes' children).normalize.pieces), piece.WellFormed := by
    intro piece member
    rcases List.mem_cons.mp member with rfl | inside
    · refine ⟨named, fun entry member => ?_⟩
      obtain ⟨source, inside, rfl⟩ := List.mem_map.mp member
      exact Fragment.wellFormed_normalizeAttribute (attributed source inside)
    · exact Fragment.wellFormed_pieces _ normal piece inside
  have ended : ∀ c, (Piece.start name (attributes.map Fragment.normalizeAttribute) ::
      (Fragment.element inner attributes' children).normalize.pieces).getLast? ≠
        some (.char c) := by
    intro c
    have last := getLast?_element inner (attributes'.map Fragment.normalizeAttribute)
      (Fragment.normalizeAll children) c
    rw [Fragment.normalize, Fragment.pieces, List.getLast?_cons_cons]
    exact last
  obtain ⟨middle, later, state, folded, -, handled, top⟩ := parse_pieces parsed text pieces ended
  rw [List.foldlM_cons, handlePiece] at folded
  cases built : buildElement name (attributes.map Fragment.normalizeAttribute) with
  | error message =>
      rw [built] at folded
      cases folded
  | ok data =>
      rw [built] at folded
      change List.foldlM handlePiece ⟨[(data, [])], []⟩ _ = _ at folded
      rw [foldlM_fragment] at folded
      obtain ⟨items, builtItems, pushed⟩ := ok_of_map_eq_ok folded
      have begun : Begun data items middle := by
        obtain ⟨stack, topLevel⟩ := middle
        obtain ⟨frames, -⟩ := ItemState.mk.inj pushed
        obtain ⟨frame, rfl, same⟩ := List.map_eq_singleton_iff.mp frames.symm
        obtain ⟨rfl, rfl⟩ := Prod.mk.inj same
        exact .inl ⟨[], frame.2, rfl, List.prefix_refl _⟩
      obtain ⟨nodes, member, lead⟩ := (begun.foldlM later handled).closeAll
      exact ⟨data, items, nodes, rfl, builtItems, top ▸ member, lead⟩

end Parse

end Chancela.Xades
