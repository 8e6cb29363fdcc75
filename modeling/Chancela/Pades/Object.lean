import Chancela.Foundation.Text
import Mathlib.Data.List.AList

/-! # Parsed documents

What `lopdf` hands to the signer and the validator: objects by their identifiers, and a
trailer. A dictionary keeps the order of its entries; two dictionaries are the same when
they hold the same entries in whatever order.
-/

namespace Chancela.Lopdf

abbrev ObjectId := UInt32 × UInt16

inductive StringFormat where
  | literal
  | hexadecimal
deriving DecidableEq

inductive Object where
  | null
  | boolean (value : Bool)
  | integer (value : Int)
  | real (value : Float32)
  | name (bytes : List UInt8)
  | string (bytes : List UInt8) (format : StringFormat)
  | array (items : List Object)
  | dictionary (entries : List (List UInt8 × Object))
  | stream (dict : List (List UInt8 × Object)) (content : List UInt8)
  | reference (id : ObjectId)

/-- `lopdf::Dictionary`: entries with distinct keys, in insertion order. -/
abbrev Dictionary := List (List UInt8 × Object)

namespace Dictionary

def get (dict : Dictionary) (key : String) : Option Object :=
  (dict.find? (·.1 = Text.utf8 key)).map Prod.snd

def has (dict : Dictionary) (key : String) : Bool := (dict.get key).isSome

/-- `Dictionary::set`: the value takes the place of the old one, or comes last. -/
def set (dict : Dictionary) (key : String) (value : Object) : Dictionary :=
  if dict.has key then
    dict.map fun entry => if entry.1 = Text.utf8 key then (entry.1, value) else entry
  else dict ++ [(Text.utf8 key, value)]

end Dictionary

namespace Object

def asReference : Object → Option ObjectId
  | .reference id => some id
  | _ => none

def asDict : Object → Option Dictionary
  | .dictionary entries => some entries
  | _ => none

def asArray : Object → Option (List Object)
  | .array items => some items
  | _ => none

def asName : Object → Option (List UInt8)
  | .name bytes => some bytes
  | _ => none

mutual

/-- `Object: PartialEq`. -/
def same : Object → Object → Bool
  | .null, .null => true
  | .boolean first, .boolean second => first == second
  | .integer first, .integer second => first == second
  | .real first, .real second => first == second
  | .name first, .name second => first == second
  | .string first format, .string second format' => first == second && format == format'
  | .array first, .array second => sameItems first second
  | .dictionary first, .dictionary second =>
      first.length == second.length && sameEntries first second
  | .stream dict content, .stream dict' content' =>
      dict.length == dict'.length && sameEntries dict dict' && content == content'
  | .reference first, .reference second => first == second
  | _, _ => false

def sameItems : List Object → List Object → Bool
  | [], [] => true
  | item :: rest, item' :: rest' => same item item' && sameItems rest rest'
  | _, _ => false

/-- Each entry has its counterpart in the other dictionary. -/
def sameEntries : List (List UInt8 × Object) → List (List UInt8 × Object) → Bool
  | [], _ => true
  | (key, value) :: rest, others =>
      (match others.find? (·.1 = key) with
        | some other => same value other.2
        | none => false) && sameEntries rest others

end

mutual

def references : Object → List ObjectId
  | .reference id => [id]
  | .array items => referencesOfItems items
  | .dictionary entries => referencesOfEntries entries
  | .stream dict _ => referencesOfEntries dict
  | _ => []

def referencesOfItems : List Object → List ObjectId
  | [] => []
  | item :: rest => references item ++ referencesOfItems rest

def referencesOfEntries : List (List UInt8 × Object) → List ObjectId
  | [] => []
  | (_, value) :: rest => references value ++ referencesOfEntries rest

end

end Object

/-- `Dictionary::get` of a reference, an array, a dictionary. -/
def Dictionary.reference? (dict : Dictionary) (key : String) : Option ObjectId :=
  (dict.get key).bind Object.asReference

def Dictionary.array? (dict : Dictionary) (key : String) : Option (List Object) :=
  (dict.get key).bind Object.asArray

def Dictionary.dict? (dict : Dictionary) (key : String) : Option Dictionary :=
  (dict.get key).bind Object.asDict

def Dictionary.getType (dict : Dictionary) : Option (List UInt8) :=
  (dict.get "Type").bind Object.asName

/-- `lopdf::Document`: the objects, the newest trailer and the highest object number. -/
structure Document where
  objects : AList fun _ : ObjectId => Object
  trailer : Dictionary
  maxId : UInt32

namespace Document

variable (document : Document)

/-- `Document::dereference`, up to its limit of references. -/
def dereference : Nat → Object → Option Object
  | 0, .reference _ => none
  | limit + 1, .reference id => (document.objects.lookup id).bind (dereference limit)
  | _, object => some object

def getObject (id : ObjectId) : Option Object :=
  (document.objects.lookup id).bind (document.dereference 128)

/-- `get_object(_).and_then(as_dict)`. -/
def dictAt (id : ObjectId) : Option Dictionary := (document.getObject id).bind Object.asDict

end Document

end Chancela.Lopdf
