import Chancela.Xades.C14n
import Mathlib.Data.List.TakeWhile

/-! # Reading canonical text back

A tree with its character data cut into single characters is a list of items; how a reader
splits text does not show there. Canonicalization rewrites items (`canonItems`), and its
output is their text (`Chancela.Xades.emitChildren_eq`). A parser reads the text of
well-formed items back to these items (`Chancela.Xades.parse_spell`).
-/

namespace Chancela.Xades

open Markup

/-- A node of a tree whose character data stands character by character. -/
inductive Item where
  | char (c : Char)
  | element (data : ElementData) (children : List Item)
  | comment (raw : List Char)
  | pi (target data : List Char)

mutual

def flatten : Node → List Item
  | .text chars => chars.map .char
  | .comment raw => [.comment raw]
  | .pi target data => [.pi target data]
  | .element data children => [.element data (flattenAll children)]

def flattenAll : List Node → List Item
  | [] => []
  | node :: rest => flatten node ++ flattenAll rest

end

theorem flattenAll_append (front back : List Node) :
    flattenAll (front ++ back) = flattenAll front ++ flattenAll back := by
  induction front with
  | nil => rfl
  | cons node rest ih => simp [flattenAll, ih]

theorem flattenAll_concat (nodes : List Node) (node : Node) :
    flattenAll (nodes ++ [node]) = flattenAll nodes ++ flatten node := by
  simp [flattenAll_append, flattenAll]

def canonData (options : C14nOptions) (newScope rendered : Scope) (data : ElementData) :
    ElementData :=
  { data with
    nsDecls := (nsToRender options data newScope rendered).map fun entry =>
      (if entry.1 = [] then none else some entry.1, entry.2)
    attrs := sortAttrs newScope data.attrs }

def C14nOptions.skipsItem (options : C14nOptions) : Item → Bool
  | .element data _ => options.skip data
  | _ => false

mutual

def canonItem (options : C14nOptions) (scope rendered : Scope) : Item → List Item
  | .char c => [.char c]
  | .comment raw => if options.algorithm.withComments then [.comment raw] else []
  | .pi target data => [.pi target data]
  | .element data children =>
      let newScope := scope.declare data.nsDecls
      [.element (canonData options newScope rendered data)
        (canonItems options newScope
          (rendered.render (nsToRender options data newScope rendered)) children)]

def canonItems (options : C14nOptions) (scope rendered : Scope) : List Item → List Item
  | [] => []
  | item :: rest =>
      (if options.skipsItem item then [] else canonItem options scope rendered item) ++
        canonItems options scope rendered rest

end

theorem canonItems_append (options : C14nOptions) (scope rendered : Scope)
    (front back : List Item) :
    canonItems options scope rendered (front ++ back) =
      canonItems options scope rendered front ++ canonItems options scope rendered back := by
  induction front with
  | nil => rfl
  | cons item rest ih => simp [canonItems, ih]

/-- A character of content: itself, or the reference that stands for it. -/
def charPiece (c : Char) : Piece :=
  if c = '&' then .reference ['a', 'm', 'p']
  else if c = '<' then .reference ['l', 't']
  else if c = '>' then .reference ['g', 't']
  else if c = '\r' then .reference ['#', 'x', 'D']
  else .char c

/-- The attributes of an element as written: declarations, then the ordinary ones. -/
def ElementData.attributes (data : ElementData) : List (List Char × List Char) :=
  data.nsDecls.map (fun decl => (declName (decl.1.getD []), escapeAttr decl.2)) ++
    data.attrs.map fun attr => (attr.qname, escapeAttr attr.value)

/-- The text of a processing instruction between its marks. -/
def piRaw (target data : List Char) : List Char := target ++ if data = [] then [] else ' ' :: data

mutual

def itemPieces : Item → List Piece
  | .char c => [charPiece c]
  | .comment raw => [.comment raw]
  | .pi target data => [.instruction (piRaw target data)]
  | .element data children =>
      .start data.qname data.attributes :: (piecesOf children ++ [.finish data.qname])

def piecesOf : List Item → List Piece
  | [] => []
  | item :: rest => itemPieces item ++ piecesOf rest

end

theorem piecesOf_append (front back : List Item) :
    piecesOf (front ++ back) = piecesOf front ++ piecesOf back := by
  induction front with
  | nil => rfl
  | cons item rest ih => simp [piecesOf, ih]

theorem spell_append (front back : List Piece) :
    spell (front ++ back) = spell front ++ spell back :=
  List.flatMap_append

theorem spell_cons (piece : Piece) (rest : List Piece) :
    spell (piece :: rest) = piece.spell ++ spell rest :=
  List.flatMap_cons

theorem spell_charPiece (c : Char) : (charPiece c).spell = escapeTextChar c := by
  unfold charPiece escapeTextChar
  split_ifs <;> rfl

theorem spell_chars (chars : List Char) :
    spell (piecesOf (chars.map Item.char)) = escapeText chars := by
  induction chars with
  | nil => rfl
  | cons c rest ih =>
      rw [List.map_cons, piecesOf, spell_append, ih, escapeText, escapeText, List.flatMap_cons,
        ← spell_charPiece]
      simp [itemPieces, spell]

theorem canonItems_chars (options : C14nOptions) (scope rendered : Scope) (chars : List Char) :
    canonItems options scope rendered (chars.map Item.char) = chars.map Item.char := by
  induction chars with
  | nil => rfl
  | cons c rest ih => simp [canonItems, canonItem, C14nOptions.skipsItem, ih]

theorem spell_canonData (options : C14nOptions) (newScope rendered : Scope) (data : ElementData) :
    (canonData options newScope rendered data).attributes.flatMap spellAttribute =
      (nsToRender options data newScope rendered).flatMap
        (fun entry => writeAttribute (declName entry.1) entry.2) ++
      (sortAttrs newScope data.attrs).flatMap fun attr => writeAttribute attr.qname attr.value := by
  rw [ElementData.attributes, List.flatMap_append, canonData]
  simp only [List.map_map, List.flatMap_map]
  congr 1
  apply List.flatMap_congr
  intro entry _
  by_cases empty : entry.1 = []
  · simp [empty, spellAttribute, writeAttribute]
  · simp [empty, spellAttribute, writeAttribute]

mutual

theorem emit_eq (options : C14nOptions) (scope rendered : Scope) : (node : Node) →
    options.skips node = false →
    emit options scope rendered node =
      spell (piecesOf (canonItems options scope rendered (flatten node)))
  | .text chars, _ => by
      rw [emit, flatten, canonItems_chars, spell_chars]
  | .comment raw, _ => by
      rw [emit, flatten]
      by_cases kept : options.algorithm.withComments = true
      · simp [canonItems, canonItem, C14nOptions.skipsItem, kept, piecesOf, itemPieces, spell,
          Piece.spell, emitComment]
      · simp [canonItems, canonItem, C14nOptions.skipsItem, kept, piecesOf, spell]
  | .pi target data, _ => by
      rw [emit, flatten]
      simp [canonItems, canonItem, C14nOptions.skipsItem, piecesOf, itemPieces, spell, Piece.spell,
        emitPi, piRaw]
  | .element data children, kept => by
      have shown : options.skipsItem (.element data (flattenAll children)) = false := kept
      have name : ∀ newScope, (canonData options newScope rendered data).qname = data.qname :=
        fun _ => rfl
      rw [emit, flatten]
      simp only [canonItems, shown, Bool.false_eq_true, ↓reduceIte, canonItem, List.append_nil,
        piecesOf, itemPieces, emitChildren_eq, name]
      rw [spell_cons, spell_append, spell_cons, Piece.spell, spell_canonData]
      simp [spell, Piece.spell]

theorem emitChildren_eq (options : C14nOptions) (scope rendered : Scope) : (nodes : List Node) →
    emitChildren options scope rendered nodes =
      spell (piecesOf (canonItems options scope rendered (flattenAll nodes)))
  | [] => rfl
  | node :: rest => by
      rw [emitChildren, flattenAll, canonItems_append, piecesOf_append, spell_append,
        emitChildren_eq options scope rendered rest]
      by_cases skipped : options.skips node = true
      · rw [if_pos skipped]
        cases node with
        | element data children =>
            have gone : options.skipsItem (.element data (flattenAll children)) = true := skipped
            simp [flatten, canonItems, gone, piecesOf, spell]
        | _ => cases skipped
      · rw [if_neg skipped, emit_eq options scope rendered node (Bool.eq_false_iff.mpr skipped)]

end

/-! ## Escapes -/

theorem unescapeFrom_reference (entity : List Char) {c : Char} (closed : ';' ∉ entity)
    (resolved : resolveEntity entity = .ok c) (rest : List Char) :
    unescapeFrom none ('&' :: (entity ++ ';' :: rest)) = (unescapeFrom none rest).map (c :: ·) := by
  suffices general : ∀ front, resolveEntity (front.reverse ++ entity) = .ok c →
      unescapeFrom (some front) (entity ++ ';' :: rest) =
        (unescapeFrom none rest).map (c :: ·) by
    rw [unescapeFrom, if_pos rfl]
    exact general [] resolved
  clear resolved
  induction entity with
  | nil =>
      intro front resolved
      rw [List.append_nil] at resolved
      rw [List.nil_append, unescapeFrom, if_pos rfl, resolved]
      cases unescapeFrom none rest <;> rfl
  | cons d entity ih =>
      intro front resolved
      have other : d ≠ ';' := fun same => closed (same ▸ List.mem_cons_self)
      rw [List.cons_append, unescapeFrom, if_neg other]
      exact ih (fun member => closed (List.mem_cons_of_mem d member)) (d :: front)
        (by simpa using resolved)

theorem unescapeFrom_escapeAttrChar (c : Char) (rest : List Char) :
    unescapeFrom none (escapeAttrChar c ++ rest) = (unescapeFrom none rest).map (c :: ·) := by
  unfold escapeAttrChar
  split_ifs with amp lt quote tab newline carriage
  · subst amp
    exact unescapeFrom_reference ['a', 'm', 'p'] (by decide) rfl rest
  · subst lt
    exact unescapeFrom_reference ['l', 't'] (by decide) rfl rest
  · subst quote
    exact unescapeFrom_reference ['q', 'u', 'o', 't'] (by decide) rfl rest
  · subst tab
    exact unescapeFrom_reference ['#', 'x', '9'] (by decide) rfl rest
  · subst newline
    exact unescapeFrom_reference ['#', 'x', 'A'] (by decide) rfl rest
  · subst carriage
    exact unescapeFrom_reference ['#', 'x', 'D'] (by decide) rfl rest
  · rw [List.singleton_append, unescapeFrom, if_neg amp]

theorem unescape_escapeAttr (value : List Char) : unescape (escapeAttr value) = .ok value := by
  induction value with
  | nil => rfl
  | cons c rest ih =>
      rw [unescape, escapeAttr, List.flatMap_cons, unescapeFrom_escapeAttrChar]
      rw [unescape, escapeAttr] at ih
      rw [ih]
      rfl

theorem ne_of_mem_escapeAttr {value : List Char} {c : Char} (member : c ∈ escapeAttr value) :
    c ≠ '"' ∧ c ≠ '<' ∧ c ≠ '\t' ∧ c ≠ '\n' ∧ c ≠ '\r' := by
  obtain ⟨d, -, inside⟩ := List.mem_flatMap.mp member
  unfold escapeAttrChar at inside
  split_ifs at inside with amp lt quote tab newline carriage
  case neg =>
    rw [List.mem_singleton.mp inside]
    exact ⟨quote, lt, tab, newline, carriage⟩
  all_goals
    simp only [List.mem_cons, List.not_mem_nil, or_false] at inside
    rcases inside with rfl | rfl | rfl | rfl | rfl | rfl
  all_goals decide

theorem normalizeAttrValue_escapeAttr (value : List Char) :
    normalizeAttrValue (escapeAttr value) = .ok value := by
  have kept : (escapeAttr value).map (fun c => if c = '\t' ∨ c = '\n' then ' ' else c) =
      escapeAttr value := by
    rw [List.map_congr_left (g := id), List.map_id]
    intro c member
    obtain ⟨-, -, tab, newline, -⟩ := ne_of_mem_escapeAttr member
    simp [tab, newline]
  rw [normalizeAttrValue, kept, unescape_escapeAttr]

theorem unescape_eq_self {raw : List Char} (plain : '&' ∉ raw) : unescape raw = .ok raw := by
  induction raw with
  | nil => rfl
  | cons c rest ih =>
      have other : c ≠ '&' := fun same => plain (same ▸ List.mem_cons_self)
      have later := ih fun member => plain (List.mem_cons_of_mem c member)
      rw [unescape] at later
      rw [unescape, unescapeFrom, if_neg other, later]
      rfl

/-! ## The loop of the parser over pieces -/

/-- The open elements, innermost first, and the top level, as items. -/
structure ItemState where
  stack : List (ElementData × List Item)
  topLevel : List Item

namespace ItemState

def push (state : ItemState) (items : List Item) : ItemState :=
  match state.stack with
  | (parent, siblings) :: rest => { state with stack := (parent, siblings ++ items) :: rest }
  | [] => { state with topLevel := state.topLevel ++ items }

theorem push_nil (state : ItemState) : state.push [] = state := by
  obtain ⟨stack, topLevel⟩ := state
  cases stack <;> simp [push]

theorem push_push (state : ItemState) (first second : List Item) :
    (state.push first).push second = state.push (first ++ second) := by
  obtain ⟨stack, topLevel⟩ := state
  cases stack <;> simp [push]

end ItemState

def ParseState.items (state : ParseState) : ItemState where
  stack := state.stack.map fun frame => (frame.1, flattenAll frame.2.reverse)
  topLevel := flattenAll state.topLevel.reverse

theorem items_pushNode (state : ParseState) (node : Node) :
    (pushNode state node).items = state.items.push (flatten node) := by
  obtain ⟨stack, topLevel⟩ := state
  cases stack with
  | nil => simp [pushNode, ParseState.items, ItemState.push, flattenAll_concat]
  | cons frame rest =>
      obtain ⟨parent, children⟩ := frame
      simp [pushNode, ParseState.items, ItemState.push, flattenAll_concat]

def handlePiece (state : ItemState) : Piece → Except XadesError ItemState
  | .start name attributes => do
      let data ← buildElement name attributes
      return { state with stack := (data, []) :: state.stack }
  | .empty name attributes => do
      let data ← buildElement name attributes
      return state.push [.element data []]
  | .finish name =>
      match state.stack with
      | [] => .error (.xmlParse "unmatched end tag")
      | (data, children) :: rest =>
          if data.qname = name then
            .ok ({ state with stack := rest }.push [.element data children])
          else .error (.xmlParse "mismatched end tag")
  | .char c => .ok (state.push [.char c])
  | .cdata raw => .ok (state.push (raw.map .char))
  | .reference name => do
      let chars ← unescape ('&' :: (name ++ [';']))
      return state.push (chars.map .char)
  | .comment raw => .ok (state.push [.comment raw])
  | .instruction raw =>
      let (target, data) := splitPi raw
      .ok (state.push [.pi target data])

theorem foldlM_chars (chars : List Char) (state : ItemState) :
    (chars.map Piece.char).foldlM handlePiece state = .ok (state.push (chars.map .char)) := by
  induction chars generalizing state with
  | nil => exact congrArg Except.ok state.push_nil.symm
  | cons c rest ih =>
      rw [List.map_cons, List.foldlM_cons, List.map_cons, handlePiece]
      refine (ih (state.push [.char c])).trans ?_
      rw [ItemState.push_push, List.singleton_append]

theorem map_items_handleEvent (state : ParseState) (event : Markup.Event)
    (plain : ∀ raw, event = .text raw → '&' ∉ raw) :
    (handleEvent state event).map ParseState.items =
      event.pieces.foldlM handlePiece state.items := by
  have single : ∀ piece : Piece, [piece].foldlM handlePiece state.items =
      handlePiece state.items piece := by
    intro piece
    rw [List.foldlM_cons]
    exact bind_pure _
  cases event with
  | start name attributes =>
      rw [Markup.Event.pieces, single, handleEvent, handlePiece]
      cases buildElement name attributes <;> rfl
  | empty name attributes =>
      rw [Markup.Event.pieces, single, handleEvent, handlePiece]
      cases buildElement name attributes with
      | error message => rfl
      | ok data => exact congrArg Except.ok (items_pushNode state (.element data []))
  | finish name =>
      rw [Markup.Event.pieces, single, handleEvent, handlePiece]
      obtain ⟨stack, topLevel⟩ := state
      cases stack with
      | nil => rfl
      | cons frame rest =>
          obtain ⟨data, children⟩ := frame
          simp only [ParseState.items, List.map_cons]
          split
          · have pushed := items_pushNode ⟨rest, topLevel⟩ (.element data children.reverse)
            exact congrArg Except.ok pushed
          · rfl
  | text raw =>
      rw [Markup.Event.pieces, handleEvent, unescape_eq_self (plain raw rfl), foldlM_chars]
      exact congrArg Except.ok (items_pushNode state (.text raw))
  | cdata raw =>
      rw [Markup.Event.pieces, single, handleEvent, handlePiece]
      exact congrArg Except.ok (items_pushNode state (.text raw))
  | generalRef name =>
      rw [Markup.Event.pieces, single, handleEvent, handlePiece]
      cases unescape ('&' :: (name ++ [';'])) with
      | error message => rfl
      | ok chars => exact congrArg Except.ok (items_pushNode state (.text chars))
  | comment raw =>
      rw [Markup.Event.pieces, single, handleEvent, handlePiece]
      exact congrArg Except.ok (items_pushNode state (.comment raw))
  | instruction raw =>
      rw [Markup.Event.pieces, single, handleEvent, handlePiece]
      exact congrArg Except.ok (items_pushNode state (.pi (splitPi raw).1 (splitPi raw).2))
  | declaration raw => rfl
  | docType raw => rfl

theorem map_items_foldlM (events : List Markup.Event) (state : ParseState)
    (plain : ∀ piece ∈ events.flatMap Markup.Event.pieces, piece ≠ .char '&') :
    (events.foldlM handleEvent state).map ParseState.items =
      (events.flatMap Markup.Event.pieces).foldlM handlePiece state.items := by
  induction events generalizing state with
  | nil => rfl
  | cons event rest ih =>
      have here : ∀ raw, event = .text raw → '&' ∉ raw := by
        rintro raw rfl member
        apply plain (.char '&') _ rfl
        rw [List.flatMap_cons]
        exact List.mem_append_left _ (List.mem_map_of_mem member)
      have later : ∀ piece ∈ rest.flatMap Markup.Event.pieces, piece ≠ .char '&' := by
        intro piece member
        apply plain
        rw [List.flatMap_cons]
        exact List.mem_append_right _ member
      rw [List.foldlM_cons, List.flatMap_cons, List.foldlM_append,
        ← map_items_handleEvent state event here]
      cases handled : handleEvent state event with
      | error message => rfl
      | ok next => exact ih next later

/-! ## Well-formed items -/

def IsNcName (name : List Char) : Prop := IsName name ∧ ':' ∉ name

instance (name : List Char) : Decidable (IsNcName name) :=
  inferInstanceAs (Decidable (IsName name ∧ ':' ∉ name))

/-- The names of an element are names, no attribute is taken for a declaration, and no
attribute name is given twice. -/
structure ElementData.Readable (data : ElementData) : Prop where
  nsPrefix : ∀ name, data.nsPrefix = some name → IsNcName name
  localName : IsNcName data.localName
  decls : ∀ decl ∈ data.nsDecls, ∀ name, decl.1 = some name → IsNcName name
  attrPrefix : ∀ attr ∈ data.attrs, ∀ name, attr.nsPrefix = some name →
    IsNcName name ∧ name ≠ xmlns
  attrLocal : ∀ attr ∈ data.attrs, IsNcName attr.localName ∧
    (attr.nsPrefix = none → attr.localName ≠ xmlns)
  distinct : (data.attributes.map Prod.fst).Nodup

/-- A comment ends where it says, and holds no carriage return. -/
def ReadableComment (raw : List Char) : Prop := ¬['-', '-'] <:+: raw ++ ['-'] ∧ '\r' ∉ raw

/-- So does a processing instruction, whose target is a name other than `xml`. -/
def ReadablePi (target data : List Char) : Prop :=
  IsName target ∧ target ≠ xmlPrefix ∧ ¬['?', '>'] <:+: piRaw target data ++ ['?'] ∧ '\r' ∉ data

mutual

def Item.Readable : Item → Prop
  | .char _ => True
  | .comment raw => ReadableComment raw
  | .pi target data => ReadablePi target data
  | .element data children => data.Readable ∧ ReadableAll children

def ReadableAll : List Item → Prop
  | [] => True
  | item :: rest => item.Readable ∧ ReadableAll rest

end

theorem readableAll_append {front back : List Item} :
    ReadableAll (front ++ back) ↔ ReadableAll front ∧ ReadableAll back := by
  induction front with
  | nil => simp [ReadableAll]
  | cons item rest ih => simp [ReadableAll, ih, and_assoc]

theorem splitQname_qualifiedName {nsPrefix : Option (List Char)} {localName : List Char}
    (prefixed : ∀ name, nsPrefix = some name → ':' ∉ name) (plain : ':' ∉ localName) :
    splitQname (qualifiedName nsPrefix localName) = (nsPrefix, localName) := by
  cases nsPrefix with
  | none => rw [qualifiedName, splitQname, if_neg plain]
  | some name =>
      have apart : ∀ c ∈ name, decide (c ≠ ':') = true := by
        intro c member
        exact decide_eq_true fun same => prefixed name rfl (same ▸ member)
      rw [qualifiedName, splitQname, if_pos (by simp), List.takeWhile_append_of_pos apart,
        List.dropWhile_append_of_pos apart]
      simp

theorem isName_declName {nsPrefix : List Char} (named : nsPrefix ≠ [] → IsName nsPrefix) :
    IsName (declName nsPrefix) := by
  rw [declName]
  split
  · exact (by decide : IsName xmlns)
  · next nonempty =>
      refine ⟨by simp [xmlns], fun c member => ?_⟩
      have lead : ∀ d ∈ xmlns, isNameChar d = true := List.all_eq_true.mp (by decide)
      rcases List.mem_append.mp member with inside | rest
      · exact lead c inside
      · rcases List.mem_cons.mp rest with rfl | inside
        · rfl
        · exact (named nonempty).2 c inside

theorem isName_qualifiedName {nsPrefix : Option (List Char)} {localName : List Char}
    (prefixed : ∀ name, nsPrefix = some name → IsName name) (named : IsName localName) :
    IsName (qualifiedName nsPrefix localName) := by
  cases nsPrefix with
  | none => exact named
  | some name =>
      refine ⟨by simp [qualifiedName], fun c member => ?_⟩
      rcases List.mem_append.mp member with lead | rest
      · exact (prefixed name rfl).2 c lead
      · rcases List.mem_cons.mp rest with rfl | inside
        · rfl
        · exact named.2 c inside

theorem addAttribute_decl (data : ElementData) (decl : Option (List Char) × List Char)
    (named : ∀ name, decl.1 = some name → IsNcName name) :
    addAttribute data (declName (decl.1.getD []), escapeAttr decl.2) =
      .ok { data with nsDecls := data.nsDecls ++ [decl] } := by
  obtain ⟨nsPrefix, uri⟩ := decl
  cases nsPrefix with
  | none =>
      rw [addAttribute]
      simp only [Option.getD_none, declName, ↓reduceIte, unescape_escapeAttr]
      rfl
  | some name =>
      have nonempty : name ≠ [] := (named name rfl).1.1
      have other : xmlns ++ ':' :: name ≠ xmlns := by simp
      have lead : xmlns ++ [':'] <+: xmlns ++ ':' :: name := ⟨name, by simp⟩
      have rest : (xmlns ++ ':' :: name).drop 6 = name := rfl
      rw [addAttribute]
      simp only [Option.getD_some, declName, nonempty, ↓reduceIte, other, lead, rest,
        unescape_escapeAttr]
      rfl

theorem qname_not_declares {attr : AttrData}
    (prefixed : ∀ name, attr.nsPrefix = some name → IsNcName name ∧ name ≠ xmlns)
    (named : IsNcName attr.localName ∧ (attr.nsPrefix = none → attr.localName ≠ xmlns)) :
    attr.qname ≠ xmlns ∧ ¬xmlns ++ [':'] <+: attr.qname := by
  obtain ⟨nsPrefix, localName, value⟩ := attr
  constructor
  · cases nsPrefix with
    | none => exact named.2 rfl
    | some name =>
        intro same
        have colon : ':' ∈ xmlns := by
          rw [← same]
          simp [AttrData.qname, qualifiedName]
        revert colon
        decide
  · rintro ⟨rest, same⟩
    have read : splitQname (xmlns ++ [':'] ++ rest) = (some xmlns, rest) := rfl
    rw [same, AttrData.qname, splitQname_qualifiedName
      (fun name given => (prefixed name given).1.2) named.1.2] at read
    obtain ⟨rfl, -⟩ := Prod.mk.inj read
    exact (prefixed xmlns rfl).2 rfl

theorem addAttribute_attr (data : ElementData) (attr : AttrData)
    (prefixed : ∀ name, attr.nsPrefix = some name → IsNcName name ∧ name ≠ xmlns)
    (named : IsNcName attr.localName ∧ (attr.nsPrefix = none → attr.localName ≠ xmlns)) :
    addAttribute data (attr.qname, escapeAttr attr.value) =
      .ok { data with attrs := data.attrs ++ [attr] } := by
  obtain ⟨notDefault, notDecl⟩ := qname_not_declares prefixed named
  have split : splitQname attr.qname = (attr.nsPrefix, attr.localName) :=
    splitQname_qualifiedName (fun name same => (prefixed name same).1.2) named.1.2
  rw [addAttribute]
  simp only [notDefault, notDecl, ↓reduceIte, split, normalizeAttrValue_escapeAttr]
  rfl

/-- **The data of an element is read back from its start tag.** -/
theorem buildElement_attributes {data : ElementData} (readable : data.Readable) :
    buildElement data.qname data.attributes = .ok data := by
  have decls : ∀ (decls : List (Option (List Char) × List Char)) (start : ElementData),
      (∀ decl ∈ decls, ∀ name, decl.1 = some name → IsNcName name) →
      (decls.map fun decl => (declName (decl.1.getD []), escapeAttr decl.2)).foldlM addAttribute
          start =
        (.ok { start with nsDecls := start.nsDecls ++ decls } : Except XadesError ElementData) := by
    intro decls
    induction decls with
    | nil => exact fun start _ => by simp [pure, Except.pure]
    | cons decl rest ih =>
        intro start named
        rw [List.map_cons, List.foldlM_cons,
          addAttribute_decl start decl (named decl List.mem_cons_self)]
        refine (ih _ fun other member => named other (List.mem_cons_of_mem _ member)).trans ?_
        simp
  have attrs : ∀ (attrs : List AttrData) (start : ElementData),
      (∀ attr ∈ attrs, ∀ name, attr.nsPrefix = some name → IsNcName name ∧ name ≠ xmlns) →
      (∀ attr ∈ attrs, IsNcName attr.localName ∧
        (attr.nsPrefix = none → attr.localName ≠ xmlns)) →
      (attrs.map fun attr => (attr.qname, escapeAttr attr.value)).foldlM addAttribute start =
        (.ok { start with attrs := start.attrs ++ attrs } : Except XadesError ElementData) := by
    intro attrs
    induction attrs with
    | nil => exact fun start _ _ => by simp [pure, Except.pure]
    | cons attr rest ih =>
        intro start prefixed named
        rw [List.map_cons, List.foldlM_cons,
          addAttribute_attr start attr (prefixed attr List.mem_cons_self)
            (named attr List.mem_cons_self)]
        refine (ih _ (fun other member => prefixed other (List.mem_cons_of_mem _ member))
          fun other member => named other (List.mem_cons_of_mem _ member)).trans ?_
        simp
  have split : splitQname data.qname = (data.nsPrefix, data.localName) :=
    splitQname_qualifiedName (fun name same => (readable.nsPrefix name same).2)
      readable.localName.2
  rw [buildElement, if_pos readable.distinct, split, ElementData.attributes]
  change List.foldlM addAttribute _ _ = _
  rw [List.foldlM_append, decls _ _ readable.decls]
  refine (attrs _ _ readable.attrPrefix readable.attrLocal).trans ?_
  simp

theorem splitPi_piRaw {target : List Char} (named : IsName target) (data : List Char) :
    splitPi (piRaw target data) = (target, data) := by
  have dark : ∀ c ∈ target, (!isSpace c) = true := by
    intro c member
    have here := named.2 c member
    simp only [isNameChar, Bool.and_eq_true] at here
    exact here.1
  rw [splitPi, piRaw, Markup.target]
  by_cases empty : data = []
  · subst empty
    simp only [↓reduceIte, List.append_nil]
    rw [List.takeWhile_eq_self_iff.mpr dark, List.dropWhile_eq_nil_iff.mpr dark, List.drop_nil]
  · rw [if_neg empty, List.takeWhile_append_of_pos dark, List.dropWhile_append_of_pos dark]
    simp [isSpace]

theorem handlePiece_charPiece (state : ItemState) (c : Char) :
    handlePiece state (charPiece c) = .ok (state.push [.char c]) := by
  unfold charPiece
  split_ifs with amp lt gt carriage
  · subst amp
    rfl
  · subst lt
    rfl
  · subst gt
    rfl
  · subst carriage
    rfl
  · rfl

mutual

theorem foldlM_itemPieces : (item : Item) → item.Readable → (state : ItemState) →
    (itemPieces item).foldlM handlePiece state = .ok (state.push [item])
  | .char c, _, state => by
      rw [itemPieces, List.foldlM_cons, handlePiece_charPiece]
      rfl
  | .comment raw, _, state => rfl
  | .pi target data, readable, state => by
      rw [itemPieces, List.foldlM_cons, handlePiece, splitPi_piRaw readable.1 data]
      rfl
  | .element data children, readable, state => by
      obtain ⟨own, inner⟩ := readable
      rw [itemPieces, List.foldlM_cons, handlePiece, buildElement_attributes own]
      refine Eq.trans (b := ([.finish data.qname] : List Piece).foldlM handlePiece
        (ItemState.push { state with stack := (data, []) :: state.stack } children)) ?_ ?_
      · change (piecesOf children ++ [Piece.finish data.qname]).foldlM handlePiece _ = _
        rw [List.foldlM_append, foldlM_piecesOf children inner]
        rfl
      · rw [List.foldlM_cons]
        simp only [handlePiece, ItemState.push, List.nil_append, ↓reduceIte]
        rfl

theorem foldlM_piecesOf : (items : List Item) → ReadableAll items → (state : ItemState) →
    (piecesOf items).foldlM handlePiece state = .ok (state.push items)
  | [], _, state => congrArg Except.ok state.push_nil.symm
  | item :: rest, readable, state => by
      rw [piecesOf, List.foldlM_append, foldlM_itemPieces item readable.1 state]
      refine (foldlM_piecesOf rest readable.2 (state.push [item])).trans ?_
      rw [ItemState.push_push, List.singleton_append]

end

/-! ## Text that a reader takes as it is -/

theorem wellFormed_charPiece (c : Char) : (charPiece c).WellFormed := by
  unfold charPiece
  split_ifs with amp lt gt carriage
  · exact (by decide : IsName ['a', 'm', 'p'])
  · exact (by decide : IsName ['l', 't'])
  · exact (by decide : IsName ['g', 't'])
  · exact (by decide : IsName ['#', 'x', 'D'])
  · exact ⟨lt, amp⟩

theorem ElementData.Readable.isName_qname {data : ElementData} (readable : data.Readable) :
    IsName data.qname :=
  isName_qualifiedName (fun name same => (readable.nsPrefix name same).1) readable.localName.1

theorem ElementData.Readable.wellFormed_attributes {data : ElementData}
    (readable : data.Readable) : ∀ entry ∈ data.attributes, WellFormedAttribute entry := by
  intro entry member
  rcases List.mem_append.mp member with declared | ordinary
  · obtain ⟨decl, inside, rfl⟩ := List.mem_map.mp declared
    refine ⟨isName_declName fun nonempty => ?_, fun quote => (ne_of_mem_escapeAttr quote).1 rfl,
      fun lt => (ne_of_mem_escapeAttr lt).2.1 rfl⟩
    cases named : decl.1 with
    | none => exact absurd (by rw [named]; rfl) nonempty
    | some name => exact (readable.decls decl inside name named).1
  · obtain ⟨attr, inside, rfl⟩ := List.mem_map.mp ordinary
    exact ⟨isName_qualifiedName (fun name same => (readable.attrPrefix attr inside name same).1.1)
        (readable.attrLocal attr inside).1.1,
      fun quote => (ne_of_mem_escapeAttr quote).1 rfl,
      fun lt => (ne_of_mem_escapeAttr lt).2.1 rfl⟩

theorem target_piRaw {target : List Char} (named : IsName target) (data : List Char) :
    Markup.target (piRaw target data) = target :=
  congrArg Prod.fst (splitPi_piRaw named data)

mutual

theorem wellFormed_itemPieces : (item : Item) → item.Readable →
    ∀ piece ∈ itemPieces item, piece.WellFormed
  | .char c, _, piece, member => by
      rw [itemPieces, List.mem_singleton] at member
      exact member ▸ wellFormed_charPiece c
  | .comment raw, readable, piece, member => by
      rw [itemPieces, List.mem_singleton] at member
      exact member ▸ readable.1
  | .pi target data, ⟨named, other, closed, _⟩, piece, member => by
      rw [itemPieces, List.mem_singleton] at member
      subst member
      have same := target_piRaw named data
      exact ⟨closed, same.symm ▸ named, same.symm ▸ other⟩
  | .element data children, ⟨own, inner⟩, piece, member => by
      rw [itemPieces] at member
      rcases List.mem_cons.mp member with rfl | later
      · exact ⟨own.isName_qname, own.wellFormed_attributes⟩
      · rcases List.mem_append.mp later with inside | last
        · exact wellFormed_piecesOf children inner piece inside
        · exact List.mem_singleton.mp last ▸ own.isName_qname

theorem wellFormed_piecesOf : (items : List Item) → ReadableAll items →
    ∀ piece ∈ piecesOf items, piece.WellFormed
  | [], _, _, member => nomatch member
  | item :: rest, ⟨first, later⟩, piece, member => by
      rcases List.mem_append.mp member with inside | after
      · exact wellFormed_itemPieces item first piece inside
      · exact wellFormed_piecesOf rest later piece after

end

theorem normalizeLineEndings_eq_self {text : List Char} (plain : '\r' ∉ text) :
    normalizeLineEndings text = text := by
  induction text with
  | nil => rfl
  | cons c rest ih =>
      have other : c ≠ '\r' := fun same => plain (same ▸ List.mem_cons_self)
      rw [normalizeLineEndings, ih fun member => plain (List.mem_cons_of_mem c member)]
      · exact fun _ same => absurd same other
      · exact other

theorem not_mem_spell_charPiece (c : Char) : '\r' ∉ (charPiece c).spell := by
  unfold charPiece
  split_ifs with amp lt gt carriage
  · decide
  · decide
  · decide
  · decide
  · exact fun member => carriage (List.mem_singleton.mp member).symm

theorem ElementData.Readable.not_mem_attributes {data : ElementData} (readable : data.Readable) :
    '\r' ∉ data.attributes.flatMap spellAttribute := by
  intro member
  obtain ⟨entry, inside, spelled⟩ := List.mem_flatMap.mp member
  have named : '\r' ∉ entry.1 := (readable.wellFormed_attributes entry inside).1.not_mem rfl
  have valued : '\r' ∉ entry.2 := by
    intro found
    rcases List.mem_append.mp inside with declared | ordinary
    · obtain ⟨decl, -, rfl⟩ := List.mem_map.mp declared
      exact (ne_of_mem_escapeAttr found).2.2.2.2 rfl
    · obtain ⟨attr, -, rfl⟩ := List.mem_map.mp ordinary
      exact (ne_of_mem_escapeAttr found).2.2.2.2 rfl
  simp [spellAttribute, named, valued] at spelled

mutual

theorem not_mem_itemPieces : (item : Item) → item.Readable → '\r' ∉ spell (itemPieces item)
  | .char c, _ => by simpa [itemPieces, spell] using not_mem_spell_charPiece c
  | .comment raw, readable => by simp [itemPieces, spell, Piece.spell, readable.2]
  | .pi target data, ⟨named, _, _, plain⟩ => by
      have first : '\r' ∉ target := named.not_mem rfl
      have raw : '\r' ∉ piRaw target data := by
        rw [piRaw]
        split <;> simp [first, plain]
      simp [itemPieces, spell, Piece.spell, raw]
  | .element data children, ⟨own, inner⟩ => by
      have named : '\r' ∉ data.qname := own.isName_qname.not_mem rfl
      have inside := not_mem_piecesOf children inner
      rw [itemPieces, spell_cons, spell_append]
      simp [Piece.spell, spell_cons, named, own.not_mem_attributes, inside]
      simp [spell]

theorem not_mem_piecesOf : (items : List Item) → ReadableAll items → '\r' ∉ spell (piecesOf items)
  | [], _ => by simp [piecesOf, spell]
  | item :: rest, ⟨first, later⟩ => by
      rw [piecesOf, spell_append]
      simp [not_mem_itemPieces item first, not_mem_piecesOf rest later]

end

def Item.isElement : Item → Bool
  | element _ _ => true
  | _ => false

def Item.isChar : Item → Bool
  | char _ => true
  | _ => false

theorem any_isElement_flattenAll (nodes : List Node) :
    (flattenAll nodes).any Item.isElement = nodes.any Node.isElement := by
  induction nodes with
  | nil => rfl
  | cons node rest ih =>
      rw [flattenAll, List.any_append, ih, List.any_cons]
      cases node with
      | text chars => simp [flatten, Node.isElement, Item.isElement]
      | _ => rfl

theorem getLast?_piecesOf {items : List Item} (ended : ∀ c, items.getLast? ≠ some (.char c))
    (c : Char) : (piecesOf items).getLast? ≠ some (.char c) := by
  rcases List.eq_nil_or_concat items with rfl | ⟨front, last, rfl⟩
  · simp [piecesOf]
  · rw [List.concat_eq_append, piecesOf_append, piecesOf, piecesOf, List.append_nil]
    cases last with
    | char d => exact absurd (by simp) (ended d)
    | comment raw => simp [itemPieces]
    | pi target data => simp [itemPieces]
    | element data children =>
        rw [itemPieces, ← List.cons_append, ← List.append_assoc, List.getLast?_concat]
        simp

/-- **Well-formed items are read back from their text.** -/
theorem parse_spell [QuickXml] {items : List Item} (readable : ReadableAll items)
    (ended : ∀ c, items.getLast? ≠ some (.char c)) (rooted : items.any Item.isElement = true) :
    ∃ dom, parse (spell (piecesOf items)) = .ok dom ∧ flattenAll dom.topLevel = items := by
  have wellFormed := wellFormed_piecesOf items readable
  obtain ⟨events, same, read⟩ :=
    QuickXml.lex_spell (piecesOf items) wellFormed (getLast?_piecesOf ended) []
  rw [List.append_nil, QuickXml.lex_nil] at read
  have lexed : QuickXml.lex (spell (piecesOf items)) = .ok events := by
    rw [read, Except.map, List.append_nil]
  have plain : ∀ piece ∈ events.flatMap Markup.Event.pieces, piece ≠ .char '&' := by
    rintro piece member rfl
    rw [same] at member
    exact (wellFormed _ member).2 rfl
  have folded := map_items_foldlM events ⟨[], []⟩ plain
  rw [same, foldlM_piecesOf items readable] at folded
  cases handled : events.foldlM handleEvent ⟨[], []⟩ with
  | error message =>
      rw [handled] at folded
      cases folded
  | ok state =>
      rw [handled] at folded
      obtain ⟨stack, topLevel⟩ := state
      have final : ParseState.items ⟨stack, topLevel⟩ = ⟨[], items⟩ := Except.ok.inj folded
      obtain ⟨closed, flat⟩ := ItemState.mk.inj final
      have closed : stack = [] := List.map_eq_nil_iff.mp closed
      subst closed
      have flat : flattenAll topLevel.reverse = items := flat
      refine ⟨⟨topLevel.reverse⟩, ?_, flat⟩
      have root : topLevel.reverse.any Node.isElement = true := by
        rw [← any_isElement_flattenAll, flat, rooted]
      rw [parse, normalizeLineEndings_eq_self (not_mem_piecesOf items readable), lexed]
      simp only [handled]
      change (if topLevel.reverse.any Node.isElement = true then _ else _) = _
      rw [if_pos root]
      rfl

end Chancela.Xades
