import Chancela.Foundation.Markup
import Mathlib.Algebra.Group.Nat.Defs

/-! # The document tree of the canonicalizer

`parse` builds a tree that keeps prefixes and the order of attributes as written. The source
keeps the nodes in an arena, in document order; here an element holds its children, and an
element's place is what `Dom.elements` lists.
-/

namespace Chancela

open Markup

/-- `quick_xml::Reader` over a text, without the check of end names. -/
class QuickXml where
  /-- The events up to the end of the text, or the message of the first error. -/
  lex : List Char → Except String (List Markup.Event)
  /-- An empty text has no events. -/
  lex_nil : lex [] = .ok []
  /-- Well-formed markup at the beginning of a text is reported first. -/
  lex_spell : ∀ pieces : List Piece, (∀ piece ∈ pieces, piece.WellFormed) →
    (∀ c, pieces.getLast? ≠ some (.char c)) → ∀ rest : List Char,
    ∃ events, events.flatMap Markup.Event.pieces = pieces ∧
      lex (spell pieces ++ rest) = (lex rest).map (events ++ ·)

namespace Reference

/-- The reader of `Chancela.Markup`. -/
scoped instance quickXml : QuickXml where
  lex text :=
    match Markup.lex text with
    | none => .error "syntax error"
    | some events => .ok events
  lex_nil := rfl
  lex_spell pieces wellFormed ended rest := by
    obtain ⟨events, same, read⟩ := Markup.lex_spell wellFormed ended rest
    refine ⟨events, same, ?_⟩
    rw [read]
    cases Markup.lex rest <;> rfl

end Reference

end Chancela

namespace Chancela.Xades

open Markup

/-- Texts are compared by their characters. -/
scoped instance lawfulBEqChars : LawfulBEq (List Char) := inferInstance

inductive XadesError where
  | xmlParse (message : String)
  | canonicalization (message : String)
  | verification (message : String)
  | notYetSupported (message : String)
deriving DecidableEq, Repr

structure AttrData where
  nsPrefix : Option (List Char)
  localName : List Char
  value : List Char
deriving DecidableEq, Repr

/-- `ElementData`, without its place in the tree. -/
structure ElementData where
  nsPrefix : Option (List Char)
  localName : List Char
  nsDecls : List (Option (List Char) × List Char)
  attrs : List AttrData
deriving DecidableEq, Repr

inductive Node where
  | element (data : ElementData) (children : List Node)
  | text (chars : List Char)
  | comment (raw : List Char)
  | pi (target data : List Char)
deriving Repr

/-- `Dom`: the top-level nodes in document order. -/
structure Dom where
  topLevel : List Node
deriving Repr

def normalizeLineEndings : List Char → List Char
  | [] => []
  | '\r' :: '\n' :: rest => '\n' :: normalizeLineEndings rest
  | '\r' :: rest => '\n' :: normalizeLineEndings rest
  | c :: rest => c :: normalizeLineEndings rest

def toDigit (radix : Nat) (c : Char) : Option Nat :=
  let value :=
    if '0' ≤ c ∧ c ≤ '9' then some (c.toNat - '0'.toNat)
    else if 'a' ≤ c ∧ c ≤ 'z' then some (c.toNat - 'a'.toNat + 10)
    else if 'A' ≤ c ∧ c ≤ 'Z' then some (c.toNat - 'A'.toNat + 10)
    else none
  value.filter fun value => value < radix

/-- `u32::from_str_radix`: digits after an optional plus sign. -/
def fromStrRadix (radix : Nat) (chars : List Char) : Option Nat :=
  let digits := match chars with
    | '+' :: rest => rest
    | chars => chars
  if digits = [] then none
  else ((digits.mapM (toDigit radix)).map fun digits =>
    digits.foldl (fun value digit => value * radix + digit) 0).filter fun value => value < 2 ^ 32

def fromU32 (code : Nat) : Option Char :=
  if code.isValidChar then some (Char.ofNat code) else none

def charRef (entity digits : List Char) (radix : Nat) : Except XadesError Char :=
  match fromStrRadix radix digits with
  | none => .error (.canonicalization ("bad char ref &" ++ String.ofList entity ++ ";"))
  | some code =>
      match fromU32 code with
      | none => .error (.canonicalization ("invalid code point &" ++ String.ofList entity ++ ";"))
      | some c => .ok c

def resolveEntity (entity : List Char) : Except XadesError Char :=
  if entity = ['a', 'm', 'p'] then .ok '&'
  else if entity = ['l', 't'] then .ok '<'
  else if entity = ['g', 't'] then .ok '>'
  else if entity = ['q', 'u', 'o', 't'] then .ok '"'
  else if entity = ['a', 'p', 'o', 's'] then .ok '\''
  else match entity with
    | '#' :: 'x' :: digits => charRef entity digits 16
    | '#' :: 'X' :: digits => charRef entity digits 16
    | '#' :: digits => charRef entity digits 10
    | _ => .error (.canonicalization
        ("unsupported entity reference &" ++ String.ofList entity ++ ";"))

/-- The loop of `unescape_into`, with the reference being read, in reverse. -/
def unescapeFrom : Option (List Char) → List Char → Except XadesError (List Char)
  | none, [] => .ok []
  | some _, [] => .error (.canonicalization "unterminated entity reference")
  | none, c :: rest =>
      if c = '&' then unescapeFrom (some []) rest
      else (unescapeFrom none rest).map (c :: ·)
  | some entity, c :: rest =>
      if c = ';' then do
        let resolved ← resolveEntity entity.reverse
        let tail ← unescapeFrom none rest
        return resolved :: tail
      else unescapeFrom (some (c :: entity)) rest

/-- `unescape_into`. -/
def unescape (raw : List Char) : Except XadesError (List Char) := unescapeFrom none raw

def normalizeAttrValue (raw : List Char) : Except XadesError (List Char) :=
  unescape (raw.map fun c => if c = '\t' ∨ c = '\n' then ' ' else c)

/-- `split_qname`: at the first colon. -/
def splitQname (name : List Char) : Option (List Char) × List Char :=
  if ':' ∈ name then
    (some (name.takeWhile (· ≠ ':')), (name.dropWhile (· ≠ ':')).drop 1)
  else (none, name)

def qualifiedName (nsPrefix : Option (List Char)) (localName : List Char) : List Char :=
  match nsPrefix with
  | some name => name ++ ':' :: localName
  | none => localName

def ElementData.qname (data : ElementData) : List Char :=
  qualifiedName data.nsPrefix data.localName

def AttrData.qname (attr : AttrData) : List Char := qualifiedName attr.nsPrefix attr.localName

def xmlns : List Char := ['x', 'm', 'l', 'n', 's']

/-- One attribute of `build_element`: a namespace declaration or an ordinary one. -/
def addAttribute (data : ElementData) (entry : List Char × List Char) :
    Except XadesError ElementData := do
  let (key, raw) := entry
  if key = xmlns then
    let uri ← unescape raw
    return { data with nsDecls := data.nsDecls ++ [(none, uri)] }
  else if xmlns ++ [':'] <+: key then
    let uri ← unescape raw
    return { data with nsDecls := data.nsDecls ++ [(some (key.drop 6), uri)] }
  else
    let (nsPrefix, localName) := splitQname key
    let value ← normalizeAttrValue raw
    return { data with attrs := data.attrs ++ [{ nsPrefix, localName, value }] }

/-- `build_element`. The reader refuses an attribute name given twice. -/
def buildElement (name : List Char) (attributes : List (List Char × List Char)) :
    Except XadesError ElementData :=
  if (attributes.map Prod.fst).Nodup then
    let (nsPrefix, localName) := splitQname name
    attributes.foldlM addAttribute { nsPrefix, localName, nsDecls := [], attrs := [] }
  else .error (.xmlParse "duplicated attribute")

/-- The open elements, innermost first, and the top-level nodes; nodes in reverse. -/
structure ParseState where
  stack : List (ElementData × List Node)
  topLevel : List Node

def pushNode (state : ParseState) (node : Node) : ParseState :=
  match state.stack with
  | (parent, children) :: rest => { state with stack := (parent, node :: children) :: rest }
  | [] => { state with topLevel := node :: state.topLevel }

/-- A processing instruction splits at its first white space. -/
def splitPi (raw : List Char) : List Char × List Char :=
  (target raw, (raw.dropWhile fun c => !isSpace c).drop 1)

/-- One event of the loop of `parse`. The reader checks that an end tag names the element it
closes. -/
def handleEvent (state : ParseState) : Markup.Event → Except XadesError ParseState
  | .start name attributes => do
      let data ← buildElement name attributes
      return { state with stack := (data, []) :: state.stack }
  | .empty name attributes => do
      let data ← buildElement name attributes
      return pushNode state (.element data [])
  | .finish name =>
      match state.stack with
      | [] => .error (.xmlParse "unmatched end tag")
      | (data, children) :: rest =>
          if data.qname = name then
            .ok (pushNode { state with stack := rest } (.element data children.reverse))
          else .error (.xmlParse "mismatched end tag")
  | .text raw => do
      let chars ← unescape raw
      return pushNode state (.text chars)
  | .cdata raw => .ok (pushNode state (.text raw))
  | .generalRef name => do
      let chars ← unescape ('&' :: (name ++ [';']))
      return pushNode state (.text chars)
  | .comment raw => .ok (pushNode state (.comment raw))
  | .instruction raw =>
      let (target, data) := splitPi raw
      .ok (pushNode state (.pi target data))
  | .declaration _ => .ok state
  | .docType _ => .ok state

/-- An element left open at the end of the text keeps its place and its children. The first
argument is the element closed last. -/
def closeAll (topLevel : List Node) : Option Node → List (ElementData × List Node) → List Node
  | closed, [] => (closed.toList ++ topLevel).reverse
  | closed, (data, children) :: rest =>
      closeAll topLevel (some (.element data (closed.toList ++ children).reverse)) rest

def Node.isElement : Node → Bool
  | element _ _ => true
  | _ => false

def parse [QuickXml] (xml : List Char) : Except XadesError Dom :=
  match QuickXml.lex (normalizeLineEndings xml) with
  | .error message => .error (.xmlParse message)
  | .ok events => do
      let state ← events.foldlM handleEvent ⟨[], []⟩
      let topLevel := closeAll state.topLevel none state.stack
      if topLevel.any Node.isElement then return { topLevel }
      else .error (.xmlParse "document has no root element")

end Chancela.Xades
