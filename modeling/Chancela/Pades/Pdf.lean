import Chancela.Foundation.Decimal
import Chancela.Foundation.Pattern
import Chancela.Pades.Object
import Mathlib.Algebra.Order.Floor.Ring

/-! # Bytes of a document

Searching a file, reading its trailers and writing its objects, by hand so that the exact
layout of an update is under the signer's control.
-/

namespace Chancela.Pades.Pdf

open Lopdf Decimal

/-- The digits of `HEX`. -/
def hexDigit (nibble : Nat) : UInt8 := UInt8.ofNat (Text.hexDigit nibble).toNat

def toHex (bytes : List UInt8) : List UInt8 :=
  bytes.flatMap fun byte => [hexDigit (byte.toNat / 16), hexDigit (byte.toNat % 16)]

@[simp] theorem length_toHex (bytes : List UInt8) : (toHex bytes).length = 2 * bytes.length := by
  induction bytes with
  | nil => rfl
  | cons byte rest ih =>
      rw [toHex, List.flatMap_cons, List.length_append, ← toHex, ih, List.length_cons]
      simp only [List.length_cons, List.length_nil]
      omega

/-- `find`: the first occurrence. -/
def find (haystack needle : List UInt8) : Option Nat :=
  if needle = [] ∨ haystack.length < needle.length then none
  else Pattern.position needle haystack

/-- `rfind`: the last occurrence. -/
def rfind (haystack needle : List UInt8) : Option Nat :=
  if needle = [] ∨ haystack.length < needle.length then none
  else (Pattern.position needle.reverse haystack.reverse).map fun fromEnd =>
    haystack.length - needle.length - fromEnd

def isAsciiWhitespace (byte : UInt8) : Bool := byte ∈ [9, 10, 12, 13, 32]

/-- `str::parse::<usize>` of a text of digits. -/
def parseUsize (digits : List UInt8) : Option Nat :=
  if digits = [] ∨ 2 ^ 64 ≤ value digits then none else some (value digits)

def lastStartxref (pdf : List UInt8) : Option Nat := do
  let pos ← rfind pdf (Text.utf8 "startxref")
  let rest := (pdf.drop (pos + 9)).dropWhile (· ∈ [32, 13, 10, 9])
  parseUsize (rest.takeWhile isDigit)

/-- `id_array`: the array after `/ID`, verbatim. -/
def idArray (trailer : List UInt8) : Option (List UInt8) := do
  let pos ← find trailer (Text.utf8 "/ID")
  let rest := (trailer.drop (pos + 3)).dropWhile isAsciiWhitespace
  if rest.head? = some 91 then
    let close ← rest.findIdx? (· = 93)
    return rest.take (close + 1)
  else none

def keyInteger (trailer key : List UInt8) : Option Nat := do
  let pos ← find trailer key
  let rest := (trailer.drop (pos + key.length)).dropWhile isAsciiWhitespace
  parseUsize (rest.takeWhile isDigit)

/-- The walk of `trailer_id_array` along `/Prev`, newest trailer first; it ends at an
offset already seen, or after 65 of them. -/
def walkTrailers (pdf : List UInt8) : Nat → List Nat → Nat → Option (List UInt8)
  | 0, _, _ => none
  | fuel + 1, seen, offset =>
      if offset ∈ seen ∨ pdf.length < offset then none
      else do
        let found ← find (pdf.drop offset) (Text.utf8 "trailer")
        let rest := pdf.drop (offset + found)
        let trailer := rest.take ((find rest (Text.utf8 "startxref")).getD rest.length)
        match idArray trailer with
        | some id => some id
        | none =>
            let next ← keyInteger trailer (Text.utf8 "/Prev")
            walkTrailers pdf fuel (offset :: seen) next

def trailerIdArray (pdf : List UInt8) : Option (List UInt8) := do
  let offset ← lastStartxref pdf
  walkTrailers pdf 65 [] offset

/-! ## Text -/

def isContinuation (byte : UInt8) : Bool := 0x80 ≤ byte && byte ≤ 0xBF

/-- May the second byte of a longer sequence follow its first? -/
def isSecond (first second : UInt8) : Bool :=
  if first = 0xE0 then 0xA0 ≤ second && second ≤ 0xBF
  else if first = 0xED then 0x80 ≤ second && second ≤ 0x9F
  else if first = 0xF0 then 0x90 ≤ second && second ≤ 0xBF
  else if first = 0xF4 then 0x80 ≤ second && second ≤ 0x8F
  else isContinuation second

/-- How many bytes a leading byte announces; zero if it leads nothing. -/
def charWidth (first : UInt8) : Nat :=
  if first < 0x80 then 1
  else if 0xC2 ≤ first && first ≤ 0xDF then 2
  else if 0xE0 ≤ first && first ≤ 0xEF then 3
  else if 0xF0 ≤ first && first ≤ 0xF4 then 4
  else 0

/-- The length of the character at the front, or of the broken sequence to replace. -/
def leadingChar (first : UInt8) (rest : List UInt8) : Nat × Bool :=
  match charWidth first, rest with
  | 1, _ => (1, true)
  | 0, _ => (1, false)
  | _, [] => (1, false)
  | width, second :: rest =>
      if !isSecond first second then (1, false)
      else
        let more := (rest.take (width - 2)).takeWhile isContinuation
        (2 + more.length, more.length = width - 2)

/-- `String::from_utf8_lossy`, as bytes: U+FFFD in place of what is broken. -/
def fromUtf8Lossy : Nat → List UInt8 → List UInt8
  | 0, _ => []
  | _ + 1, [] => []
  | fuel + 1, first :: rest =>
      let (width, valid) := leadingChar first rest
      (if valid then (first :: rest).take width else [0xEF, 0xBF, 0xBD]) ++
        fromUtf8Lossy fuel (rest.drop (width - 1))

/-- `i64: Display`. -/
def displayInt (number : Int) : List UInt8 :=
  if number < 0 then 45 :: decimal number.natAbs else decimal number.natAbs

/-- The shortest decimal `digits * 10 ^ scale` within the numbers that round to one, nearest
to it. -/
def shortest (number below above : Rat) (closed : Bool) : Option (Nat × Int) :=
  let inside := fun candidate : Rat =>
    if closed then below ≤ candidate && candidate ≤ above
    else below < candidate && candidate < above
  ((List.range 90).map fun step => (39 - step : Int)).findSome? fun scale =>
    let unit : Rat := 10 ^ scale
    let low : Nat := (number / unit).floor.toNat
    let fits : List Nat := [low, low + 1].filter fun digits : Nat => inside (digits * unit)
    match fits with
    | [first, second] =>
        if number - first * unit < second * unit - number then some (first, scale)
        else some (second, scale)
    | [only] => some (only, scale)
    | _ => none

/-- `digits * 10 ^ scale` without an exponent. -/
def plain (digits : Nat) (scale : Int) : List UInt8 :=
  if 0 ≤ scale then decimal digits ++ List.replicate scale.toNat 48
  else
    let places := scale.natAbs
    let text := padded (places + 1) digits
    text.take (text.length - places) ++ 46 :: text.drop (text.length - places)

/-- `f32: Display`: the shortest decimal that reads back as the same number. -/
def displayReal (real : Float32) : List UInt8 :=
  let bits := real.toBits.toNat
  let exponent : Nat := bits / 2 ^ 23 % 2 ^ 8
  let fraction : Nat := bits % 2 ^ 23
  let sign := if 2 ^ 31 ≤ bits then [45] else []
  if exponent = 255 then
    if fraction = 0 then sign ++ Text.utf8 "inf" else Text.utf8 "NaN"
  else if exponent = 0 ∧ fraction = 0 then sign ++ [48]
  else
    let mantissa : Nat := if exponent = 0 then fraction else fraction + 2 ^ 23
    let unit : Rat := 2 ^ ((max exponent 1 : Nat) - 150 : Int)
    let number := mantissa * unit
    -- A power of two has its lower neighbour twice as near.
    let gap := if fraction = 0 ∧ 1 < exponent then unit / 4 else unit / 2
    match shortest number (number - gap) (number + unit / 2) (mantissa % 2 = 0) with
    | some (digits, scale) => sign ++ plain digits scale
    | none => sign

/-! ## Objects -/

def isAsciiGraphic (byte : UInt8) : Bool := 33 ≤ byte && byte ≤ 126

def writeName (name : List UInt8) : List UInt8 :=
  47 :: name.flatMap fun byte =>
    if isAsciiGraphic byte && byte ∉ Text.utf8 "()<>[]\x7b\x7d/%#" then [byte]
    else [35, hexDigit (byte.toNat / 16), hexDigit (byte.toNat % 16)]

/-- The bytes a literal string escapes: parentheses and the backslash. -/
def isEscaped (byte : UInt8) : Bool := byte ∈ [40, 41, 92]

/-- The text between the parentheses of a literal string. -/
def escapeLiteral (bytes : List UInt8) : List UInt8 := Pattern.escape isEscaped 92 bytes

def writeString (bytes : List UInt8) : StringFormat → List UInt8
  | .hexadecimal => 60 :: (toHex bytes ++ [62])
  | .literal => 40 :: (escapeLiteral bytes ++ [41])

mutual

def writeObject : Object → Except String (List UInt8)
  | .null => .ok (Text.utf8 "null")
  | .boolean value => .ok (Text.utf8 (if value then "true" else "false"))
  | .integer value => .ok (displayInt value)
  | .real value => .ok (displayReal value)
  | .name bytes => .ok (writeName bytes)
  | .string bytes format => .ok (writeString bytes format)
  | .reference (number, generation) =>
      .ok (decimal number.toNat ++ 32 :: (decimal generation.toNat ++ Text.utf8 " R"))
  | .array items => do
      let inner ← writeItems items
      return 91 :: (inner ++ [93])
  | .dictionary entries => do
      let inner ← writeEntries entries
      return Text.utf8 "<<" ++ inner ++ Text.utf8 " >>"
  | .stream _ _ => .error "stream object cannot be re-serialized here"

def writeItems : List Object → Except String (List UInt8)
  | [] => .ok []
  | [item] => writeObject item
  | item :: other :: rest => do
      let first ← writeObject item
      let others ← writeItems (other :: rest)
      return first ++ 32 :: others

def writeEntries : List (List UInt8 × Object) → Except String (List UInt8)
  | [] => .ok []
  | (key, value) :: rest => do
      let written ← writeObject value
      let others ← writeEntries rest
      return 32 :: (writeName key ++ 32 :: (written ++ others))

end

def writeDict (dict : Dictionary) : Except String (List UInt8) := writeObject (.dictionary dict)

end Chancela.Pades.Pdf
