import Chancela.Foundation.OrderedMap
import Chancela.Foundation.Selection
import Chancela.Xades.Dom
import Mathlib.Data.Char
import Mathlib.Data.List.Lex
import Mathlib.Data.Prod.Lex

/-! # Canonicalization

Exclusive and inclusive XML canonicalization over the parsed tree. An element is written with
the namespace declarations its algorithm renders, its attributes by namespace and local name,
and its children; `scope` is the namespace mapping in scope, `rendered` the one already
written.
-/

namespace Chancela.Xades

inductive C14nAlgorithm where
  | exclusiveWithoutComments
  | exclusiveWithComments
  | inclusiveWithoutComments
  | inclusiveWithComments
deriving DecidableEq, Repr

namespace C14nAlgorithm

def uri : C14nAlgorithm → String
  | exclusiveWithoutComments => "http://www.w3.org/2001/10/xml-exc-c14n#"
  | exclusiveWithComments => "http://www.w3.org/2001/10/xml-exc-c14n#WithComments"
  | inclusiveWithoutComments => "http://www.w3.org/TR/2001/REC-xml-c14n-20010315"
  | inclusiveWithComments => "http://www.w3.org/TR/2001/REC-xml-c14n-20010315#WithComments"

def fromUri (name : List Char) : Option C14nAlgorithm :=
  [exclusiveWithoutComments, exclusiveWithComments, inclusiveWithoutComments,
    inclusiveWithComments].find? fun algorithm => algorithm.uri.toList = name

def isExclusive : C14nAlgorithm → Bool
  | exclusiveWithoutComments | exclusiveWithComments => true
  | inclusiveWithoutComments | inclusiveWithComments => false

def withComments : C14nAlgorithm → Bool
  | exclusiveWithComments | inclusiveWithComments => true
  | exclusiveWithoutComments | inclusiveWithoutComments => false

end C14nAlgorithm

def xmlNsUri : List Char := "http://www.w3.org/XML/1998/namespace".toList

def xmlPrefix : List Char := ['x', 'm', 'l']

/-- A namespace mapping, `BTreeMap<String, String>`: the default namespace is under the empty
prefix, and an empty value means there is none. -/
abbrev Scope := List (List Char × List Char)

def Scope.declare (scope : Scope) (decls : List (Option (List Char) × List Char)) : Scope :=
  OrderedMap.overlay scope (decls.map fun decl => (decl.1.getD [], decl.2))

def Scope.get (scope : Scope) (nsPrefix : List Char) : Option (List Char) :=
  OrderedMap.lookup nsPrefix scope

def attrNsUri (attr : AttrData) (scope : Scope) : List Char :=
  match attr.nsPrefix with
  | none => []
  | some name => if name = xmlPrefix then xmlNsUri else (scope.get name).getD []

/-- `escape_text` of a character. -/
def escapeTextChar (c : Char) : List Char :=
  if c = '&' then ['&', 'a', 'm', 'p', ';']
  else if c = '<' then ['&', 'l', 't', ';']
  else if c = '>' then ['&', 'g', 't', ';']
  else if c = '\r' then ['&', '#', 'x', 'D', ';']
  else [c]

/-- `escape_attr` of a character. -/
def escapeAttrChar (c : Char) : List Char :=
  if c = '&' then ['&', 'a', 'm', 'p', ';']
  else if c = '<' then ['&', 'l', 't', ';']
  else if c = '"' then ['&', 'q', 'u', 'o', 't', ';']
  else if c = '\t' then ['&', '#', 'x', '9', ';']
  else if c = '\n' then ['&', '#', 'x', 'A', ';']
  else if c = '\r' then ['&', '#', 'x', 'D', ';']
  else [c]

def escapeText (chars : List Char) : List Char := chars.flatMap escapeTextChar

def escapeAttr (chars : List Char) : List Char := chars.flatMap escapeAttrChar

/-- What `exclusive_ns_to_render` renders for a visibly utilized prefix. -/
def renderPrefix (newScope rendered : Scope) (nsPrefix : List Char) :
    Option (List Char × List Char) :=
  if nsPrefix = xmlPrefix then
    let uri := (newScope.get xmlPrefix).getD xmlNsUri
    if rendered.get xmlPrefix ≠ some uri then some (xmlPrefix, uri) else none
  else
    let uri := (newScope.get nsPrefix).getD []
    if uri ≠ [] then
      if rendered.get nsPrefix ≠ some uri then some (nsPrefix, uri) else none
    else if nsPrefix = [] ∧ (rendered.get []).any (· ≠ []) then some ([], []) else none

/-- The prefixes an element visibly utilizes: its own and those of its attributes. -/
def ElementData.visible (data : ElementData) : List (List Char) :=
  data.nsPrefix.getD [] :: data.attrs.filterMap AttrData.nsPrefix

/-- An entry of the `InclusiveNamespaces` list. -/
def listedPrefix (entry : List Char) : List Char :=
  if entry = "#default".toList then [] else entry

/-- `exclusive_ns_to_render`, in the order it is written. -/
def exclusiveNsToRender (data : ElementData) (newScope rendered : Scope)
    (prefixes : List (List Char)) : List (List Char × List Char) :=
  Selection.sortBy Prod.fst
    ((data.visible ++ prefixes.map listedPrefix).dedup.filterMap (renderPrefix newScope rendered))

def inclusiveNsToRender (newScope rendered : Scope) : List (List Char × List Char) :=
  newScope.filter fun entry =>
    if entry.1 = [] ∧ entry.2 = [] then (rendered.get []).any (· ≠ [])
    else rendered.get entry.1 ≠ some entry.2

/-- What a canonicalization is asked for; elements that `skip` picks are left out. -/
structure C14nOptions where
  algorithm : C14nAlgorithm
  prefixes : List (List Char)
  skip : ElementData → Bool

def nsToRender (options : C14nOptions) (data : ElementData) (newScope rendered : Scope) :
    List (List Char × List Char) :=
  if options.algorithm.isExclusive then
    exclusiveNsToRender data newScope rendered options.prefixes
  else inclusiveNsToRender newScope rendered

def Scope.render (rendered : Scope) (toRender : List (List Char × List Char)) : Scope :=
  OrderedMap.overlay rendered toRender

def declName (nsPrefix : List Char) : List Char :=
  if nsPrefix = [] then xmlns else xmlns ++ ':' :: nsPrefix

def attrKey (scope : Scope) (attr : AttrData) : List Char ×ₗ List Char :=
  toLex (attrNsUri attr scope, attr.localName)

def sortAttrs (scope : Scope) (attrs : List AttrData) : List AttrData :=
  Selection.sortBy (attrKey scope) attrs

def writeAttribute (name value : List Char) : List Char :=
  ' ' :: (name ++ '=' :: '"' :: (escapeAttr value ++ ['"']))

def emitPi (target data : List Char) : List Char :=
  ['<', '?'] ++ (target ++ (if data = [] then [] else ' ' :: data)) ++ ['?', '>']

def emitComment (raw : List Char) : List Char := ['<', '!', '-', '-'] ++ raw ++ ['-', '-', '>']

/-- A node picked by `skip`. -/
def C14nOptions.skips (options : C14nOptions) : Node → Bool
  | .element data _ => options.skip data
  | _ => false

mutual

/-- `emit_element`, and the other nodes as it writes them. -/
def emit (options : C14nOptions) (scope rendered : Scope) : Node → List Char
  | .text chars => escapeText chars
  | .comment raw => if options.algorithm.withComments then emitComment raw else []
  | .pi target data => emitPi target data
  | .element data children =>
      let newScope := scope.declare data.nsDecls
      let toRender := nsToRender options data newScope rendered
      '<' :: (data.qname ++
        toRender.flatMap (fun entry => writeAttribute (declName entry.1) entry.2) ++
        (sortAttrs newScope data.attrs).flatMap
          (fun attr => writeAttribute attr.qname attr.value) ++
        ['>']) ++
      emitChildren options newScope (rendered.render toRender) children ++
      '<' :: '/' :: (data.qname ++ ['>'])

def emitChildren (options : C14nOptions) (scope rendered : Scope) : List Node → List Char
  | [] => []
  | node :: rest =>
      (if options.skips node then [] else emit options scope rendered node) ++
        emitChildren options scope rendered rest

end

/-- The loop of `Dom::canonicalize_document`, with whether the root was written. -/
def emitTopLevel (options : C14nOptions) : Bool → List Node → List Char
  | _, [] => []
  | _, .element data children :: rest =>
      emit options [] [] (.element data children) ++ emitTopLevel options true rest
  | seenRoot, .comment raw :: rest =>
      (if options.algorithm.withComments then
        (if seenRoot then ['\n'] else []) ++ emitComment raw ++ (if seenRoot then [] else ['\n'])
        else []) ++ emitTopLevel options seenRoot rest
  | seenRoot, .pi target data :: rest =>
      (if seenRoot then ['\n'] else []) ++ emitPi target data ++
        (if seenRoot then [] else ['\n']) ++
        emitTopLevel options seenRoot rest
  | seenRoot, .text _ :: rest => emitTopLevel options seenRoot rest

def Dom.canonicalizeDocument (dom : Dom) (options : C14nOptions) : List Char :=
  emitTopLevel options false dom.topLevel

/-- An element with the scope its ancestors leave it, `ancestor_scope`. -/
structure Located where
  scope : Scope
  data : ElementData
  children : List Node

mutual

def located (scope : Scope) : Node → List Located
  | .element data children =>
      ⟨scope, data, children⟩ :: locatedIn (scope.declare data.nsDecls) children
  | _ => []

def locatedIn (scope : Scope) : List Node → List Located
  | [] => []
  | node :: rest => located scope node ++ locatedIn scope rest

end

def Dom.elements (dom : Dom) : List Located := locatedIn [] dom.topLevel

/-- The values of the `Id` attributes of an element. -/
def ElementData.ids (data : ElementData) : List (List Char) :=
  (data.attrs.filter fun attr => attr.nsPrefix = none ∧ attr.localName = ['I', 'd']).map
    AttrData.value

/-- An element carries `Id="id"`. -/
def ElementData.carries (data : ElementData) (id : List Char) : Bool := id ∈ data.ids

def Dom.findById (dom : Dom) (id : List Char) : Except XadesError (Option Located) :=
  match dom.elements.filter fun element => element.data.carries id with
  | [] => .ok none
  | [element] => .ok (some element)
  | _ => .error (.canonicalization
      ("ambiguous Id \"" ++ String.ofList id ++ "\" resolves to multiple elements"))

def firstRepeated (seen : List (List Char)) : List (List Char) → Option (List Char)
  | [] => none
  | id :: rest => if id ∈ seen then some id else firstRepeated (id :: seen) rest

def Dom.checkUniqueIds (dom : Dom) : Except XadesError Unit :=
  match firstRepeated [] (dom.elements.flatMap fun element => element.data.ids) with
  | none => .ok ()
  | some id => .error (.canonicalization
      ("duplicate Id \"" ++ String.ofList id ++
        "\" — document rejected (signature-wrapping guard)"))

def Located.canonicalizeSubtree (element : Located) (options : C14nOptions) : List Char :=
  emit options element.scope [] (.element element.data element.children)

section Entry

variable [QuickXml]

def canonicalizeDocument (xml : List Char) (algorithm : C14nAlgorithm)
    (prefixes : List (List Char)) : Except XadesError (List Char) := do
  let dom ← parse xml
  return dom.canonicalizeDocument ⟨algorithm, prefixes, fun _ => false⟩

def checkUniqueIds (xml : List Char) : Except XadesError Unit := do
  let dom ← parse xml
  dom.checkUniqueIds

def canonicalizeElementById (xml id : List Char) (algorithm : C14nAlgorithm)
    (prefixes : List (List Char)) : Except XadesError (List Char) := do
  let dom ← parse xml
  match ← dom.findById id with
  | none => throw (.canonicalization ("no element with Id=\"" ++ String.ofList id ++ "\""))
  | some element => return element.canonicalizeSubtree ⟨algorithm, prefixes, fun _ => false⟩

theorem canonicalizeElementById_of_parse {xml : List Char} {dom : Dom}
    (parsed : parse xml = .ok dom) (id : List Char) (algorithm : C14nAlgorithm)
    (prefixes : List (List Char)) :
    canonicalizeElementById xml id algorithm prefixes = (dom.findById id).bind fun found =>
      found.elim
        (.error (.canonicalization ("no element with Id=\"" ++ String.ofList id ++ "\"")))
        fun element =>
          .ok (element.canonicalizeSubtree ⟨algorithm, prefixes, fun _ => false⟩) := by
  rw [canonicalizeElementById, parsed]
  simp only [bind, Except.bind]
  cases dom.findById id with
  | error fault => rfl
  | ok found => cases found <;> rfl

/-- `canonicalize_document_excluding_ids`. Each id resolves to one element at most, so the
elements left out are those that carry one of them. -/
def canonicalizeDocumentExcludingIds (xml : List Char) (excludeIds : List (List Char))
    (algorithm : C14nAlgorithm) (prefixes : List (List Char)) :
    Except XadesError (List Char) := do
  let dom ← parse xml
  excludeIds.forM fun id => (dom.findById id).map fun _ => ()
  return dom.canonicalizeDocument
    ⟨algorithm, prefixes, fun data => excludeIds.any data.carries⟩

end Entry

end Chancela.Xades
