import Chancela.Xades.Infoset

/-! # Two readings of a document

The value of a namespace declaration is an attribute value, and the data of a processing
instruction begin behind all the white space that follows the target. `parse` expands the value
without collapsing its white space, and takes one character of white space away. Where the
first reading succeeds so does that of the code, with a tree of the same shape
(`Chancela.Xades.Document.readEvents_items`).
-/

namespace Chancela.Xades

open Markup OrderedMap

/-- How the parts of a document are read that the code reads in its own way. -/
structure Reading where
  declValue : List Char → Except XadesError (List Char)
  piParts : List Char → List Char × List Char

namespace Reading

/-- What `build_element` and `parse` do. -/
def code : Reading := ⟨unescape, splitPi⟩

def recommended : Reading where
  declValue := normalizeAttrValue
  piParts raw := (target raw, (raw.dropWhile fun c => !isSpace c).dropWhile isSpace)

variable (reading : Reading)

def addAttribute (data : ElementData) (entry : List Char × List Char) :
    Except XadesError ElementData := do
  let (key, raw) := entry
  if key = xmlns then
    let uri ← reading.declValue raw
    return { data with nsDecls := data.nsDecls ++ [(none, uri)] }
  else if xmlns ++ [':'] <+: key then
    let uri ← reading.declValue raw
    return { data with nsDecls := data.nsDecls ++ [(some (key.drop 6), uri)] }
  else
    let (nsPrefix, localName) := splitQname key
    let value ← normalizeAttrValue raw
    return { data with attrs := data.attrs ++ [{ nsPrefix, localName, value }] }

def buildElement (name : List Char) (attributes : List (List Char × List Char)) :
    Except XadesError ElementData :=
  if (attributes.map Prod.fst).Nodup then
    let (nsPrefix, localName) := splitQname name
    attributes.foldlM reading.addAttribute { nsPrefix, localName, nsDecls := [], attrs := [] }
  else .error (.xmlParse "duplicated attribute")

def handleEvent (state : ItemState) : Markup.Event → Except XadesError ItemState
  | .start name attributes => do
      let data ← reading.buildElement name attributes
      return { state with stack := (data, []) :: state.stack }
  | .empty name attributes => do
      let data ← reading.buildElement name attributes
      return state.push [.element data []]
  | .finish name =>
      match state.stack with
      | [] => .error (.xmlParse "unmatched end tag")
      | (data, children) :: rest =>
          if data.qname = name then
            .ok ({ state with stack := rest }.push [.element data children])
          else .error (.xmlParse "mismatched end tag")
  | .text raw => do
      let chars ← unescape raw
      return state.push (chars.map .char)
  | .cdata raw => .ok (state.push (raw.map .char))
  | .generalRef name => do
      let chars ← unescape ('&' :: (name ++ [';']))
      return state.push (chars.map .char)
  | .comment raw => .ok (state.push [.comment raw])
  | .instruction raw =>
      let (target, data) := reading.piParts raw
      .ok (state.push [.pi target data])
  | .declaration _ => .ok state
  | .docType _ => .ok state

/-- The items of a document whose elements are all closed. -/
def readEvents (events : List Markup.Event) : Except XadesError (List Item) := do
  let state ← events.foldlM reading.handleEvent ⟨[], []⟩
  match state.stack with
  | [] => .ok state.topLevel
  | _ :: _ => .error (.xmlParse "unclosed element")

end Reading

/-! ## The reading of the code -/

/-- `parse` handles an event as its reading does. -/
theorem map_items_handleEvent_code (state : ParseState) (event : Markup.Event) :
    (handleEvent state event).map ParseState.items =
      Reading.code.handleEvent state.items event := by
  have pieces := map_items_handleEvent state event
  -- But for text, whose references the pieces leave aside, an event is a single piece or none.
  cases event with
  | text raw =>
      rw [handleEvent, Reading.handleEvent]
      cases unescape raw with
      | error message => rfl
      | ok chars => exact congrArg Except.ok (items_pushNode state (.text chars))
  | declaration raw => rfl
  | docType raw => rfl
  | _ => exact (pieces (by simp)).trans (bind_pure _)

theorem map_items_foldlM_code (events : List Markup.Event) (state : ParseState) :
    (events.foldlM handleEvent state).map ParseState.items =
      events.foldlM Reading.code.handleEvent state.items := by
  induction events generalizing state with
  | nil => rfl
  | cons event rest ih =>
      rw [List.foldlM_cons, List.foldlM_cons, ← map_items_handleEvent_code]
      cases handleEvent state event with
      | error message => rfl
      | ok next => exact ih next

/-- `parse` builds the tree of its reading. -/
theorem parse_of_readEvents [QuickXml] {xml : List Char} {events : List Markup.Event}
    {items : List Item} (lexed : QuickXml.lex (normalizeLineEndings xml) = .ok events)
    (read : Reading.code.readEvents events = .ok items)
    (rooted : items.any Item.isElement = true) :
    ∃ dom, parse xml = .ok dom ∧ flattenAll dom.topLevel = items := by
  have folded := map_items_foldlM_code events ⟨[], []⟩
  rw [Reading.readEvents] at read
  cases handled : events.foldlM handleEvent ⟨[], []⟩ with
  | error message =>
      rw [handled] at folded
      have failed : events.foldlM Reading.code.handleEvent ⟨[], []⟩ = .error message := folded.symm
      rw [failed] at read
      cases read
  | ok state =>
      rw [handled] at folded
      obtain ⟨stack, topLevel⟩ := state
      have ended : events.foldlM Reading.code.handleEvent ⟨[], []⟩ =
          .ok (ParseState.items ⟨stack, topLevel⟩) := folded.symm
      rw [ended] at read
      cases stack with
      | cons frame rest => cases read
      | nil =>
          have flat : flattenAll topLevel.reverse = items := Except.ok.inj read
          refine ⟨⟨topLevel.reverse⟩, ?_, flat⟩
          have root : topLevel.reverse.any Node.isElement = true := by
            rw [← any_isElement_flattenAll, flat, rooted]
          rw [parse, lexed]
          simp only [handled]
          change (if topLevel.reverse.any Node.isElement = true then _ else _) = _
          rw [if_pos root]
          rfl

/-! ## Values of declarations -/

theorem not_mem_of_mapM_toDigit {radix : Nat} {chars : List Char} {digits : List Nat}
    (read : chars.mapM (toDigit radix) = some digits) : ' ' ∉ chars := by
  induction chars generalizing digits with
  | nil => exact List.not_mem_nil
  | cons c rest ih =>
      rw [List.mapM_cons] at read
      cases first : toDigit radix c with
      | none =>
          rw [first] at read
          cases read
      | some digit =>
          rw [first] at read
          cases later : rest.mapM (toDigit radix) with
          | none =>
              rw [later] at read
              cases read
          | some others =>
              intro member
              rcases List.mem_cons.mp member with blank | inside
              · rw [← blank] at first
                cases first
              · exact ih later inside

theorem not_mem_of_fromStrRadix {radix code : Nat} {chars : List Char}
    (read : fromStrRadix radix chars = some code) : ' ' ∉ chars := by
  have plain : ∀ digits : List Char, (if digits = [] then none
      else ((digits.mapM (toDigit radix)).map fun digits =>
        digits.foldl (fun value digit => value * radix + digit) 0).filter fun value =>
          value < 2 ^ 32) = some code → ' ' ∉ digits := by
    intro digits found
    split at found
    · cases found
    · obtain ⟨found, -⟩ := Option.filter_eq_some_iff.mp found
      obtain ⟨values, found, -⟩ := Option.map_eq_some_iff.mp found
      exact not_mem_of_mapM_toDigit found
  simp only [fromStrRadix] at read
  split at read
  · next rest => simpa using plain rest read
  · exact plain chars read

theorem not_mem_of_charRef {entity digits : List Char} {radix : Nat} {c : Char}
    (resolved : charRef entity digits radix = .ok c) : ' ' ∉ digits := by
  unfold charRef at resolved
  split at resolved
  · cases resolved
  · next found => exact not_mem_of_fromStrRadix found

theorem not_mem_of_resolveEntity {entity : List Char} {c : Char}
    (resolved : resolveEntity entity = .ok c) : ' ' ∉ entity := by
  unfold resolveEntity at resolved
  split_ifs at resolved with amp lt gt quot apos
  case neg =>
    split at resolved
    · simpa using not_mem_of_charRef resolved
    · simpa using not_mem_of_charRef resolved
    · simpa using not_mem_of_charRef resolved
    · cases resolved
  all_goals
    subst entity
    simp

/-- White space inside an attribute value is read as a blank. -/
def collapse (c : Char) : Char := if c = '\t' ∨ c = '\n' then ' ' else c

theorem collapse_eq_iff {c mark : Char} (blank : mark ≠ ' ') (tab : mark ≠ '\t')
    (newline : mark ≠ '\n') : collapse c = mark ↔ c = mark := by
  unfold collapse
  split_ifs with space
  · constructor
    · exact fun same => absurd same.symm blank
    · rintro rfl
      rcases space with same | same
      · exact absurd same tab
      · exact absurd same newline
  · exact Iff.rfl

theorem map_collapse_eq_self {chars : List Char} (plain : ' ' ∉ chars.map collapse) :
    chars.map collapse = chars := by
  refine (List.map_congr_left fun c member => ?_).trans (List.map_id _)
  have other : collapse c ≠ ' ' := fun same => plain (same ▸ List.mem_map_of_mem member)
  unfold collapse at other ⊢
  split_ifs with space
  · exact absurd (if_pos space) other
  · rfl

theorem unescapeFrom_collapse (raw : List Char) : ∀ (entity : Option (List Char))
    (value : List Char),
    unescapeFrom (entity.map (List.map collapse)) (raw.map collapse) = .ok value →
    ∃ own, unescapeFrom entity raw = .ok own ∧ own.length = value.length := by
  induction raw with
  | nil =>
      intro entity value read
      cases entity with
      | none => exact ⟨value, read, rfl⟩
      | some name => cases read
  | cons c rest ih =>
      intro entity value read
      cases entity with
      | none =>
          rw [List.map_cons, Option.map_none, unescapeFrom] at read
          rw [unescapeFrom]
          by_cases amp : c = '&'
          · rw [if_pos ((collapse_eq_iff (by simp) (by simp) (by simp)).mpr amp)] at read
            rw [if_pos amp]
            exact ih (some []) value read
          · rw [if_neg ((collapse_eq_iff (by simp) (by simp) (by simp)).not.mpr amp)] at read
            rw [if_neg amp]
            cases tail : unescapeFrom none (rest.map collapse) with
            | error message =>
                rw [tail] at read
                cases read
            | ok values =>
                rw [tail] at read
                cases read
                obtain ⟨own, found, same⟩ := ih none values tail
                refine ⟨c :: own, ?_, congrArg Nat.succ same⟩
                rw [found]
                rfl
      | some name =>
          rw [List.map_cons, Option.map_some, unescapeFrom] at read
          rw [unescapeFrom]
          by_cases mark : c = ';'
          · rw [if_pos ((collapse_eq_iff (by simp) (by simp) (by simp)).mpr mark)] at read
            rw [if_pos mark]
            cases resolved : resolveEntity (name.map collapse).reverse with
            | error message =>
                rw [resolved] at read
                cases read
            | ok named =>
                rw [resolved] at read
                have plain := not_mem_of_resolveEntity resolved
                rw [List.mem_reverse] at plain
                rw [map_collapse_eq_self plain] at resolved
                rw [resolved]
                cases tail : unescapeFrom none (rest.map collapse) with
                | error message =>
                    rw [tail] at read
                    cases read
                | ok values =>
                    rw [tail] at read
                    cases read
                    obtain ⟨own, found, same⟩ := ih none values tail
                    refine ⟨named :: own, ?_, congrArg Nat.succ same⟩
                    rw [found]
                    rfl
          · rw [if_neg ((collapse_eq_iff (by simp) (by simp) (by simp)).not.mpr mark)] at read
            rw [if_neg mark]
            exact ih (some (c :: name)) value read

theorem unescape_of_normalizeAttrValue {raw value : List Char}
    (read : normalizeAttrValue raw = .ok value) :
    ∃ own, unescape raw = .ok own ∧ own.isEmpty = value.isEmpty := by
  obtain ⟨own, found, same⟩ := unescapeFrom_collapse raw none value read
  refine ⟨own, found, ?_⟩
  rw [Bool.eq_iff_iff, List.isEmpty_iff_length_eq_zero, List.isEmpty_iff_length_eq_zero, same]

theorem unescape_eq_normalizeAttrValue {raw : List Char} (plain : '\t' ∉ raw ∧ '\n' ∉ raw) :
    unescape raw = normalizeAttrValue raw := by
  rw [normalizeAttrValue]
  congr 1
  refine ((List.map_congr_left fun c member => ?_).trans (List.map_id _)).symm
  have tab : c ≠ '\t' := fun same => plain.1 (same ▸ member)
  have newline : c ≠ '\n' := fun same => plain.2 (same ▸ member)
  simp [tab, newline]

/-! ## Trees of one shape -/

/-- What two readings of a declaration have in common: its prefix, and whether it has a value. -/
def declMark (decl : Option (List Char) × List Char) : Option (List Char) × Bool :=
  (decl.1, decl.2.isEmpty)

/-- Elements that differ in the values of their declarations. -/
structure ElementData.Alike (data other : ElementData) : Prop where
  nsPrefix : data.nsPrefix = other.nsPrefix
  localName : data.localName = other.localName
  attrs : data.attrs = other.attrs
  decls : data.nsDecls.map declMark = other.nsDecls.map declMark

/-- The data of an instruction can be written behind its target. -/
def ClosedPi (target data : List Char) : Prop :=
  ¬['?', '>'] <:+: piRaw target data ++ ['?'] ∧ '\r' ∉ data

mutual

/-- Items that differ in the values of declarations and the data of instructions. -/
def Item.Alike : Item → Item → Prop
  | .char c, .char d => c = d
  | .comment raw, .comment text => raw = text
  | .pi target data, .pi name _ => target = name ∧ ClosedPi target data
  | .element data children, .element other inner => data.Alike other ∧ AlikeAll children inner
  | _, _ => False

def AlikeAll : List Item → List Item → Prop
  | [], [] => True
  | item :: rest, other :: others => item.Alike other ∧ AlikeAll rest others
  | _, _ => False

end

theorem AlikeAll.append : ∀ {items others more after : List Item}, AlikeAll items others →
    AlikeAll more after → AlikeAll (items ++ more) (others ++ after)
  | [], [], _, _, _, later => later
  | _ :: _, _ :: _, _, _, ⟨first, rest⟩, later => ⟨first, rest.append later⟩

theorem alikeAll_chars (chars : List Char) :
    AlikeAll (chars.map Item.char) (chars.map Item.char) := by
  induction chars with
  | nil => trivial
  | cons c rest ih => exact ⟨rfl, ih⟩

/-- States of two readings. -/
structure ItemState.Alike (state other : ItemState) : Prop where
  stack : List.Forall₂ (fun frame place => frame.1.Alike place.1 ∧ AlikeAll frame.2 place.2)
    state.stack other.stack
  topLevel : AlikeAll state.topLevel other.topLevel

theorem ItemState.Alike.push {state other : ItemState} (alike : state.Alike other)
    {items others : List Item} (added : AlikeAll items others) :
    (state.push items).Alike (other.push others) := by
  obtain ⟨stack, topLevel⟩ := state
  obtain ⟨stackOther, topLevelOther⟩ := other
  obtain ⟨frames, top⟩ := alike
  cases frames with
  | nil => exact ⟨List.Forall₂.nil, top.append added⟩
  | cons first rest => exact ⟨List.Forall₂.cons ⟨first.1, first.2.append added⟩ rest, top⟩

namespace ElementData.Alike

variable {data other : ElementData}

theorem symm (alike : data.Alike other) : other.Alike data :=
  ⟨alike.nsPrefix.symm, alike.localName.symm, alike.attrs.symm, alike.decls.symm⟩

theorem qname (alike : data.Alike other) : data.qname = other.qname := by
  rw [ElementData.qname, ElementData.qname, alike.nsPrefix, alike.localName]

theorem visible (alike : data.Alike other) : data.visible = other.visible := by
  rw [ElementData.visible, ElementData.visible, alike.nsPrefix, alike.attrs]

theorem exists_decl (alike : data.Alike other) {decl : Option (List Char) × List Char}
    (member : decl ∈ data.nsDecls) :
    ∃ said ∈ other.nsDecls, decl.1 = said.1 ∧ (decl.2 = [] ↔ said.2 = []) := by
  have marked : declMark decl ∈ other.nsDecls.map declMark :=
    alike.decls ▸ List.mem_map_of_mem member
  obtain ⟨said, inside, same⟩ := List.mem_map.mp marked
  have valued : said.2.isEmpty = decl.2.isEmpty := congrArg Prod.snd same
  refine ⟨said, inside, (congrArg Prod.fst same).symm, ?_⟩
  rw [← List.isEmpty_iff, ← List.isEmpty_iff, valued]

theorem names (alike : data.Alike other) :
    data.attributes.map Prod.fst = other.attributes.map Prod.fst := by
  have prefixes := congrArg (List.map fun mark => declName (mark.1.getD [])) alike.decls
  rw [List.map_map, List.map_map] at prefixes
  rw [ElementData.attributes, ElementData.attributes, List.map_append, List.map_append,
    List.map_map, List.map_map, List.map_map, List.map_map, alike.attrs]
  exact congrArg (· ++ _) prefixes

theorem readable (alike : data.Alike other) (readable : other.Readable) : data.Readable where
  nsPrefix := alike.nsPrefix ▸ readable.nsPrefix
  localName := alike.localName ▸ readable.localName
  decls decl member name given := by
    obtain ⟨said, inside, same, -⟩ := alike.exists_decl member
    exact readable.decls said inside name (same ▸ given)
  attrPrefix := alike.attrs ▸ readable.attrPrefix
  attrLocal := alike.attrs ▸ readable.attrLocal
  distinct := alike.names ▸ readable.distinct

theorem declares (alike : data.Alike other) (declares : other.Declares) : data.Declares := by
  intro decl member name given empty
  obtain ⟨said, inside, same, valued⟩ := alike.exists_decl member
  exact declares said inside name (same ▸ given) (valued.mp empty)

end ElementData.Alike

/-- Scopes in which the same prefixes have a namespace. -/
structure Scope.Alike (scope other : Scope) : Prop where
  sorted : Sorted scope
  sortedOther : Sorted other
  same : ∀ name, (scope.get name).map List.isEmpty = (other.get name).map List.isEmpty

theorem Scope.Alike.start : Scope.Alike [] [] :=
  ⟨List.Pairwise.nil, List.Pairwise.nil, fun _ => rfl⟩

variable {data said : ElementData}

theorem Scope.Alike.declare {scope other : Scope} (alike : Scope.Alike scope other)
    (same : data.Alike said) :
    Scope.Alike (scope.declare data.nsDecls) (other.declare said.nsDecls) where
  sorted := sorted_declare alike.sorted _
  sortedOther := sorted_declare alike.sortedOther _
  same name := by
    have marks : ((data.nsDecls.map fun decl => (decl.1.getD [], decl.2)).reverse.map
          fun entry => (entry.1, entry.2.isEmpty)) =
        ((said.nsDecls.map fun decl => (decl.1.getD [], decl.2)).reverse.map
          fun entry => (entry.1, entry.2.isEmpty)) := by
      have both := congrArg (List.map fun mark => (mark.1.getD [], mark.2)) same.decls
      rw [List.map_map, List.map_map] at both
      rw [List.map_reverse, List.map_reverse, List.map_map, List.map_map]
      exact congrArg List.reverse both
    have before := alike.same name
    rw [Scope.get, Scope.get] at before
    rw [Scope.declare, Scope.declare, Scope.get, Scope.get, lookup_overlay alike.sorted,
      lookup_overlay alike.sortedOther, Option.map_or, Option.map_or, before]
    congr 1
    rw [lookup_map, lookup_map, marks]

theorem Scope.Alike.get_eq_none_iff {scope other : Scope} (alike : Scope.Alike scope other)
    (name : List Char) : scope.get name = none ↔ other.get name = none := by
  rw [← Option.map_eq_none_iff (f := List.isEmpty), alike.same, Option.map_eq_none_iff]

theorem namespaceWellFormed_of_alike {scope other : Scope} (scopes : Scope.Alike scope other)
    (alike : data.Alike said) (wellFormed : said.NamespaceWellFormed other) :
    data.NamespaceWellFormed scope where
  toReadable := alike.readable wellFormed.toReadable
  bound name member nonempty plain := by
    obtain ⟨uri, found, given⟩ := wellFormed.bound name (alike.visible ▸ member) nonempty plain
    have same := scopes.same name
    rw [found, Option.map_some, Option.map_eq_some_iff] at same
    obtain ⟨own, foundOwn, valued⟩ := same
    refine ⟨own, foundOwn, fun empty => given ?_⟩
    rw [empty] at valued
    exact List.isEmpty_iff.mp valued.symm

theorem xmlSilent_of_alike {options : C14nOptions} {scope other : Scope}
    (scopes : Scope.Alike scope other) (alike : data.Alike said) :
    options.XmlSilent data scope ↔ options.XmlSilent said other := by
  rw [C14nOptions.XmlSilent, C14nOptions.XmlSilent, C14nOptions.considered, C14nOptions.considered,
    alike.visible]
  split
  · exact Iff.rfl
  · exact scopes.get_eq_none_iff xmlPrefix

mutual

theorem Item.Alike.wellFormed : ∀ {item other : Item} {scope place : Scope},
    item.Alike other → Scope.Alike scope place → other.NamespaceWellFormed place →
    item.NamespaceWellFormed scope
  | .char _, .char _, _, _, _, _, _ => trivial
  | .comment _, .comment _, _, _, same, _, wellFormed => same ▸ wellFormed
  | .pi _ _, .pi _ _, _, _, ⟨same, closed⟩, _, ⟨named, plain, _⟩ =>
      ⟨same ▸ named, same ▸ plain, closed⟩
  | .element _ _, .element _ _, _, _, ⟨own, inner⟩, scopes, ⟨here, below⟩ =>
      ⟨namespaceWellFormed_of_alike (scopes.declare own) own here,
        inner.wellFormed (scopes.declare own) below⟩

theorem AlikeAll.wellFormed : ∀ {items others : List Item} {scope place : Scope},
    AlikeAll items others → Scope.Alike scope place → AllNamespaceWellFormed place others →
    AllNamespaceWellFormed scope items
  | [], [], _, _, _, _, _ => trivial
  | _ :: _, _ :: _, _, _, ⟨first, rest⟩, scopes, ⟨here, later⟩ =>
      ⟨first.wellFormed scopes here, rest.wellFormed scopes later⟩

end

mutual

theorem Item.Alike.every {holds : ElementData → Scope → Prop}
    (shared : ∀ {scope place : Scope} {data said : ElementData}, Scope.Alike scope place →
      data.Alike said → (holds data scope ↔ holds said place)) :
    ∀ {item other : Item} {scope place : Scope}, item.Alike other → Scope.Alike scope place →
    (item.Every holds scope ↔ other.Every holds place)
  | .char _, .char _, _, _, _, _ => Iff.rfl
  | .comment _, .comment _, _, _, _, _ => Iff.rfl
  | .pi _ _, .pi _ _, _, _, _, _ => Iff.rfl
  | .element _ _, .element _ _, _, _, ⟨own, inner⟩, scopes =>
      and_congr (shared (scopes.declare own) own) (inner.every shared (scopes.declare own))

theorem AlikeAll.every {holds : ElementData → Scope → Prop}
    (shared : ∀ {scope place : Scope} {data said : ElementData}, Scope.Alike scope place →
      data.Alike said → (holds data scope ↔ holds said place)) :
    ∀ {items others : List Item} {scope place : Scope}, AlikeAll items others →
    Scope.Alike scope place → (EveryOf holds scope items ↔ EveryOf holds place others)
  | [], [], _, _, _, _ => Iff.rfl
  | _ :: _, _ :: _, _, _, ⟨first, rest⟩, scopes =>
      and_congr (first.every shared scopes) (rest.every shared scopes)

end

theorem AlikeAll.any_isElement : ∀ {items others : List Item}, AlikeAll items others →
    items.any Item.isElement = others.any Item.isElement
  | [], [], _ => rfl
  | item :: rest, other :: others, ⟨first, later⟩ => by
      rw [List.any_cons, List.any_cons, later.any_isElement]
      congr 1
      cases item <;> cases other <;> first | rfl | cases first

/-! ## The code reads what the Recommendation reads -/

namespace Reading

theorem addAttribute_alike {data other next : ElementData} (alike : data.Alike other)
    {entry : List Char × List Char} (added : recommended.addAttribute other entry = .ok next) :
    ∃ own, code.addAttribute data entry = .ok own ∧ own.Alike next := by
  obtain ⟨key, raw⟩ := entry
  simp only [addAttribute] at added ⊢
  split_ifs at added ⊢ with default prefixed
  -- A default and a prefixed declaration differ in what they declare.
  iterate 2
    · change (normalizeAttrValue raw).bind _ = _ at added
      change ∃ own, (unescape raw).bind _ = _ ∧ _
      cases read : normalizeAttrValue raw with
      | error message =>
          rw [read] at added
          cases added
      | ok uri =>
          rw [read] at added
          cases added
          obtain ⟨value, found, same⟩ := unescape_of_normalizeAttrValue read
          rw [found]
          exact ⟨_, rfl, alike.nsPrefix, alike.localName, alike.attrs,
            by simp [alike.decls, declMark, same]⟩
  · cases read : normalizeAttrValue raw with
    | error message =>
        rw [read] at added
        cases added
    | ok value =>
        rw [read] at added
        cases added
        exact ⟨_, rfl, alike.nsPrefix, alike.localName, by simp [alike.attrs], alike.decls⟩

theorem buildElement_alike {name : List Char} {attributes : List (List Char × List Char)}
    {said : ElementData} (built : recommended.buildElement name attributes = .ok said) :
    ∃ data, code.buildElement name attributes = .ok data ∧ data.Alike said := by
  rw [buildElement] at built ⊢
  split_ifs at built ⊢ with distinct
  have fold : ∀ (attributes : List (List Char × List Char)) (start other : ElementData),
      start.Alike other → attributes.foldlM recommended.addAttribute other = .ok said →
      ∃ data, attributes.foldlM code.addAttribute start = .ok data ∧ data.Alike said := by
    intro attributes
    induction attributes with
    | nil =>
        intro start other alike done
        cases done
        exact ⟨start, rfl, alike⟩
    | cons entry rest ih =>
        intro start other alike done
        rw [List.foldlM_cons] at done
        cases first : recommended.addAttribute other entry with
        | error message =>
            rw [first] at done
            cases done
        | ok next =>
            rw [first] at done
            obtain ⟨own, added, alikeNext⟩ := addAttribute_alike alike first
            rw [List.foldlM_cons, added]
            exact ih own next alikeNext done
  exact fold attributes _ _ ⟨rfl, rfl, rfl, rfl⟩ built

theorem infix_sep_iff {p q x : Char} (first : x ≠ p) (second : x ≠ q) {front back : List Char} :
    [p, q] <:+: front ++ x :: back ↔ [p, q] <:+: front ∨ [p, q] <:+: back := by
  induction front with
  | nil => simp [List.infix_cons_iff, List.cons_prefix_cons, first.symm]
  | cons c rest ih =>
      rw [List.cons_append, List.infix_cons_iff, List.infix_cons_iff, ih, ← or_assoc]
      apply or_congr_left
      apply or_congr_left
      rw [List.cons_prefix_cons, List.cons_prefix_cons]
      apply and_congr_right
      intro _
      cases rest with
      | nil => simp [List.cons_prefix_cons, second.symm]
      | cons d others => simp [List.cons_prefix_cons]

theorem closedPi_splitPi {raw : List Char} (ended : ¬['?', '>'] <:+: raw ++ ['?'])
    (plain : '\r' ∉ raw) : ClosedPi (splitPi raw).1 (splitPi raw).2 := by
  have whole : target raw ++ raw.dropWhile (fun c => !isSpace c) = raw :=
    List.takeWhile_append_dropWhile
  rw [ClosedPi, splitPi]
  cases behind : raw.dropWhile fun c => !isSpace c with
  | nil =>
      rw [behind, List.append_nil] at whole
      simp only [List.drop_nil, piRaw, ↓reduceIte, List.append_nil, whole]
      exact ⟨ended, List.not_mem_nil⟩
  | cons space data =>
      have light : isSpace space = true := by
        have head := List.head?_dropWhile_not (fun c => !isSpace c) raw
        rw [behind] at head
        simpa using head
      have apart : ∀ mark, isSpace mark = false → space ≠ mark := by
        intro mark dark same
        rw [same, dark] at light
        cases light
      rw [behind] at whole
      simp only [List.drop_succ_cons, List.drop_zero]
      rw [← whole] at ended plain
      rw [List.append_assoc, List.cons_append,
        infix_sep_iff (apart '?' rfl) (apart '>' rfl)] at ended
      refine ⟨?_, fun member =>
        plain (List.mem_append_right _ (List.mem_cons_of_mem _ member))⟩
      rw [piRaw]
      split_ifs with empty
      · subst empty
        rw [List.append_nil]
        rintro ⟨before, after, same⟩
        -- The mark does not end with the question mark added last.
        rcases List.eq_nil_or_concat after with rfl | ⟨others, last, rfl⟩
        · have lasts := congrArg List.getLast? same
          simp at lasts
        · rw [List.concat_eq_append, ← List.append_assoc] at same
          exact ended (.inl ⟨before, others, (List.append_inj' same rfl).1⟩)
      · rw [List.append_assoc, List.cons_append, infix_sep_iff (by simp) (by simp)]
        exact ended

/-- An instruction ends at its mark, and holds no carriage return after line endings are
normalized. -/
def Marked (event : Markup.Event) : Prop :=
  ∀ raw, event = .instruction raw → ¬['?', '>'] <:+: raw ++ ['?'] ∧ '\r' ∉ raw

theorem handleEvent_alike {state other next : ItemState} (alike : state.Alike other)
    {event : Markup.Event} (marked : Marked event)
    (handled : recommended.handleEvent other event = .ok next) :
    ∃ own, code.handleEvent state event = .ok own ∧ own.Alike next := by
  cases event with
  | start name attributes =>
      rw [handleEvent] at handled ⊢
      cases built : recommended.buildElement name attributes with
      | error message =>
          rw [built] at handled
          cases handled
      | ok said =>
          rw [built] at handled
          cases handled
          obtain ⟨data, own, same⟩ := buildElement_alike built
          rw [own]
          exact ⟨_, rfl, List.Forall₂.cons ⟨same, trivial⟩ alike.stack, alike.topLevel⟩
  | empty name attributes =>
      rw [handleEvent] at handled ⊢
      cases built : recommended.buildElement name attributes with
      | error message =>
          rw [built] at handled
          cases handled
      | ok said =>
          rw [built] at handled
          cases handled
          obtain ⟨data, own, same⟩ := buildElement_alike built
          rw [own]
          exact ⟨_, rfl, alike.push ⟨⟨same, trivial⟩, trivial⟩⟩
  | finish name =>
      obtain ⟨stack, topLevel⟩ := state
      obtain ⟨places, topLevelOther⟩ := other
      obtain ⟨frames, top⟩ := alike
      rw [handleEvent] at handled ⊢
      cases frames with
      | nil => cases handled
      | @cons frame place stack places first rest =>
          have below : ItemState.Alike ⟨stack, topLevel⟩ ⟨places, topLevelOther⟩ := ⟨rest, top⟩
          have closed : AlikeAll [.element frame.1 frame.2] [.element place.1 place.2] :=
            ⟨first, trivial⟩
          simp only at handled ⊢
          rw [first.1.qname]
          split_ifs at handled ⊢ with named
          cases handled
          exact ⟨_, rfl, below.push closed⟩
  | text raw =>
      rw [handleEvent] at handled ⊢
      cases read : unescape raw with
      | error message =>
          rw [read] at handled
          cases handled
      | ok chars =>
          rw [read] at handled
          cases handled
          exact ⟨_, rfl, alike.push (alikeAll_chars chars)⟩
  | cdata raw =>
      cases handled
      exact ⟨_, rfl, alike.push (alikeAll_chars raw)⟩
  | generalRef name =>
      rw [handleEvent] at handled ⊢
      cases read : unescape ('&' :: (name ++ [';'])) with
      | error message =>
          rw [read] at handled
          cases handled
      | ok chars =>
          rw [read] at handled
          cases handled
          exact ⟨_, rfl, alike.push (alikeAll_chars chars)⟩
  | comment raw =>
      cases handled
      exact ⟨_, rfl, alike.push ⟨rfl, trivial⟩⟩
  | instruction raw =>
      cases handled
      obtain ⟨ended, plain⟩ := marked raw rfl
      exact ⟨_, rfl, alike.push ⟨⟨rfl, closedPi_splitPi ended plain⟩, trivial⟩⟩
  | declaration raw =>
      cases handled
      exact ⟨_, rfl, alike⟩
  | docType raw =>
      cases handled
      exact ⟨_, rfl, alike⟩

/-- **What the Recommendation reads, the code reads as a tree of the same shape.** -/
theorem readEvents_alike {events : List Markup.Event} (marked : ∀ event ∈ events, Marked event)
    {said : List Item} (read : recommended.readEvents events = .ok said) :
    ∃ items, code.readEvents events = .ok items ∧ AlikeAll items said := by
  have fold : ∀ (events : List Markup.Event), (∀ event ∈ events, Marked event) →
      ∀ state other next : ItemState, state.Alike other →
      events.foldlM recommended.handleEvent other = .ok next →
      ∃ own, events.foldlM code.handleEvent state = .ok own ∧ own.Alike next := by
    intro events
    induction events with
    | nil =>
        intro _ state other next alike done
        cases done
        exact ⟨state, rfl, alike⟩
    | cons event rest ih =>
        intro marked state other next alike done
        obtain ⟨here, later⟩ := List.forall_mem_cons.mp marked
        rw [List.foldlM_cons] at done
        cases handled : recommended.handleEvent other event with
        | error message =>
            rw [handled] at done
            cases done
        | ok middle =>
            rw [handled] at done
            obtain ⟨own, ownHandled, alikeMiddle⟩ := handleEvent_alike alike here handled
            rw [List.foldlM_cons, ownHandled]
            exact ih later own middle next alikeMiddle done
  rw [readEvents] at read
  cases done : events.foldlM recommended.handleEvent ⟨[], []⟩ with
  | error message =>
      rw [done] at read
      cases read
  | ok state =>
      rw [done] at read
      obtain ⟨own, ownDone, alike⟩ := fold events marked ⟨[], []⟩ ⟨[], []⟩ state
        ⟨List.Forall₂.nil, trivial⟩ done
      obtain ⟨stack, topLevel⟩ := own
      obtain ⟨places, topLevelOther⟩ := state
      obtain ⟨frames, top⟩ := alike
      cases frames with
      | cons first rest => cases read
      | nil =>
          cases read
          refine ⟨topLevel, ?_, top⟩
          rw [readEvents, ownDone]
          rfl

def Declaring (key : List Char) : Prop := key = xmlns ∨ xmlns ++ [':'] <+: key

/-- A start tag without literal white space to collapse in its declarations. -/
def PlainAttributes (attributes : List (List Char × List Char)) : Prop :=
  ∀ entry ∈ attributes, Declaring entry.1 → '\t' ∉ entry.2 ∧ '\n' ∉ entry.2

def Plain : Markup.Event → Prop
  | .start _ attributes => PlainAttributes attributes
  | .empty _ attributes => PlainAttributes attributes
  | .instruction raw => ∀ c, (splitPi raw).2.head? = some c → isSpace c = false
  | _ => True

theorem buildElement_plain {name : List Char} {attributes : List (List Char × List Char)}
    (plain : PlainAttributes attributes) :
    code.buildElement name attributes = recommended.buildElement name attributes := by
  have fold : ∀ (attributes : List (List Char × List Char)) (start : ElementData),
      PlainAttributes attributes →
      attributes.foldlM code.addAttribute start =
        attributes.foldlM recommended.addAttribute start := by
    intro attributes
    induction attributes with
    | nil => exact fun _ _ => rfl
    | cons entry rest ih =>
        intro start plain
        obtain ⟨here, later⟩ := List.forall_mem_cons.mp plain
        have same : code.addAttribute start entry = recommended.addAttribute start entry := by
          obtain ⟨key, raw⟩ := entry
          have value : Declaring key → code.declValue raw = recommended.declValue raw :=
            fun declaring => unescape_eq_normalizeAttrValue (here declaring)
          simp only [addAttribute]
          split_ifs with default prefixed
          · rw [value (.inl default)]
          · rw [value (.inr prefixed)]
          · rfl
        rw [List.foldlM_cons, List.foldlM_cons, same]
        exact bind_congr fun next => ih next later
  rw [buildElement, buildElement]
  split_ifs
  · exact fold attributes _ plain
  · rfl

theorem piParts_plain {raw : List Char}
    (plain : ∀ c, (splitPi raw).2.head? = some c → isSpace c = false) :
    code.piParts raw = recommended.piParts raw := by
  refine Prod.ext rfl ?_
  change (raw.dropWhile fun c => !isSpace c).drop 1 =
    (raw.dropWhile fun c => !isSpace c).dropWhile isSpace
  rw [splitPi] at plain
  cases behind : raw.dropWhile fun c => !isSpace c with
  | nil => rfl
  | cons space data =>
      have light : isSpace space = true := by
        have head := List.head?_dropWhile_not (fun c => !isSpace c) raw
        rw [behind] at head
        simpa using head
      rw [behind] at plain
      rw [List.drop_succ_cons, List.drop_zero, List.dropWhile_cons_of_pos light]
      cases data with
      | nil => rfl
      | cons c rest =>
          have dark := plain c rfl
          rw [List.dropWhile_cons_of_neg (by simp [dark])]

theorem readEvents_plain {events : List Markup.Event} (plain : ∀ event ∈ events, Plain event) :
    code.readEvents events = recommended.readEvents events := by
  have fold : ∀ (events : List Markup.Event) (state : ItemState), (∀ event ∈ events, Plain event) →
      events.foldlM code.handleEvent state = events.foldlM recommended.handleEvent state := by
    intro events
    induction events with
    | nil => exact fun _ _ => rfl
    | cons event rest ih =>
        intro state plain
        obtain ⟨here, later⟩ := List.forall_mem_cons.mp plain
        have same : code.handleEvent state event = recommended.handleEvent state event := by
          cases event with
          | start name attributes => rw [handleEvent, handleEvent, buildElement_plain here]
          | empty name attributes => rw [handleEvent, handleEvent, buildElement_plain here]
          | instruction raw => rw [handleEvent, handleEvent, piParts_plain here]
          | _ => rfl
        rw [List.foldlM_cons, List.foldlM_cons, same]
        exact bind_congr fun next => ih next later
  rw [readEvents, readEvents, fold events _ plain]

end Reading

end Chancela.Xades
