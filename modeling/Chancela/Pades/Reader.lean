import Chancela.Foundation.Decimal
import Chancela.Pades.HexString
import Chancela.Pades.Object

/-! # Reading objects

The lexical rules of PDF 32000-1 for objects other than streams and real numbers. Tokens stand
apart by white space, comments and delimiters; names spell bytes as `#xx`; literal strings nest
their parentheses, escape with a backslash, and read every bare end of line as a line feed; a
reference is two numbers and an `R`. Objects nest, so the reader is given a depth to read to; the
length of the text is always enough for what a writer writes.
-/

namespace Chancela.Pades.Reader

open Lopdf Decimal

def isDelimiter (byte : UInt8) : Bool := byte ∈ [37, 40, 41, 47, 60, 62, 91, 93, 123, 125]

def isRegular (byte : UInt8) : Bool := !isPdfWhitespace byte && !isDelimiter byte

def isEndOfLine (byte : UInt8) : Bool := byte == 10 || byte == 13

/-- What stands behind white space and comments, within a comment or not. -/
def skipFrom : Bool → List UInt8 → List UInt8
  | _, [] => []
  | true, byte :: rest => skipFrom (!isEndOfLine byte) rest
  | false, byte :: rest =>
      if isPdfWhitespace byte then skipFrom false rest
      else if byte = 37 then skipFrom true rest
      else byte :: rest

def skipBlanks (bytes : List UInt8) : List UInt8 := skipFrom false bytes

def decodeName : List UInt8 → Option (List UInt8)
  | [] => some []
  | byte :: rest =>
      if byte = 35 then
        match rest with
        | high :: low :: rest => do
            let high ← hexValue high
            let low ← hexValue low
            let others ← decodeName rest
            return (high <<< 4 ||| low) :: others
        | _ => none
      else (byte :: ·) <$> decodeName rest

def readName (bytes : List UInt8) : Option (List UInt8 × List UInt8) :=
  (decodeName (bytes.takeWhile isRegular)).map (·, bytes.dropWhile isRegular)

def isOctalDigit (byte : UInt8) : Bool := 48 ≤ byte && byte ≤ 55

/-- The line feed of a carriage return is part of one end of line. -/
def skipLineFeed (bytes : List UInt8) : List UInt8 :=
  if bytes.head? = some 10 then bytes.tail else bytes

def readEscape : List UInt8 → List UInt8 × List UInt8
  | [] => ([], [])
  | byte :: rest =>
      if byte = 110 then ([10], rest)
      else if byte = 114 then ([13], rest)
      else if byte = 116 then ([9], rest)
      else if byte = 98 then ([8], rest)
      else if byte = 102 then ([12], rest)
      else if byte = 10 then ([], rest)
      else if byte = 13 then ([], skipLineFeed rest)
      else if isOctalDigit byte then
        let digits := byte :: (rest.take 2).takeWhile isOctalDigit
        ([UInt8.ofNat (Nat.ofDigits 8 (digits.map (·.toNat - 48)).reverse)],
          rest.drop (digits.length - 1))
      else ([byte], rest)

theorem length_skipLineFeed (bytes : List UInt8) : (skipLineFeed bytes).length ≤ bytes.length := by
  unfold skipLineFeed
  split
  · rw [List.length_tail]
    exact Nat.sub_le ..
  · exact le_rfl

theorem length_readEscape (bytes : List UInt8) : (readEscape bytes).2.length ≤ bytes.length := by
  cases bytes with
  | nil => exact le_rfl
  | cons byte rest =>
      have skipped := length_skipLineFeed rest
      unfold readEscape
      dsimp only
      split_ifs
      all_goals simp only [List.length_cons, List.length_drop]
      all_goals omega

/-- The string behind its opening parenthesis, at a depth of parentheses within it. -/
def readLiteral (depth : Nat) (bytes : List UInt8) : Option (List UInt8 × List UInt8) :=
  match bytes with
  | [] => none
  | byte :: rest =>
      if byte = 41 then
        if depth = 0 then some ([], rest)
        else (readLiteral (depth - 1) rest).map fun read => (41 :: read.1, read.2)
      else if byte = 40 then
        (readLiteral (depth + 1) rest).map fun read => (40 :: read.1, read.2)
      else if byte = 92 then
        (readLiteral depth (readEscape rest).2).map fun read =>
          ((readEscape rest).1 ++ read.1, read.2)
      else if byte = 13 then
        (readLiteral depth (skipLineFeed rest)).map fun read => (10 :: read.1, read.2)
      else (readLiteral depth rest).map fun read => (byte :: read.1, read.2)
termination_by bytes.length
decreasing_by
  · exact Nat.lt_succ_self _
  · exact Nat.lt_succ_self _
  · exact Nat.lt_succ_of_le (length_readEscape rest)
  · exact Nat.lt_succ_of_le (length_skipLineFeed rest)
  · exact Nat.lt_succ_self _

def readHexString (bytes : List UInt8) : Option (List UInt8 × List UInt8) :=
  match bytes.dropWhile (· ≠ 62) with
  | [] => none
  | _ :: behind => (hexStringValue (bytes.takeWhile (· ≠ 62))).map (·, behind)

def readNatural (digits : List UInt8) : Option Nat :=
  if digits ≠ [] ∧ digits.all isDigit = true then some (value digits) else none

def readInteger (token : List UInt8) : Option Int :=
  if token.head? = some 45 then (readNatural token.tail).map fun number : Nat => -(number : Int)
  else if token.head? = some 43 then (readNatural token.tail).map Int.ofNat
  else (readNatural token).map Int.ofNat

/-- The generation of a reference behind its object number. -/
def readReferenceTail (bytes : List UInt8) : Option (Nat × List UInt8) := do
  let generation ← readNatural ((skipBlanks bytes).takeWhile isRegular)
  let behind := skipBlanks ((skipBlanks bytes).dropWhile isRegular)
  if behind.takeWhile isRegular = [82] then some (generation, behind.dropWhile isRegular) else none

def readNumber (token behind : List UInt8) : Option (Object × List UInt8) := do
  let value ← readInteger token
  match readNatural token, readReferenceTail behind with
  | some number, some (generation, rest) =>
      if number < 2 ^ 32 ∧ generation < 2 ^ 16 then
        return (.reference (UInt32.ofNat number, UInt16.ofNat generation), rest)
      else return (.integer value, behind)
  | _, _ => return (.integer value, behind)

def readWord (bytes : List UInt8) : Option (Object × List UInt8) :=
  let token := bytes.takeWhile isRegular
  let behind := bytes.dropWhile isRegular
  if token = Text.utf8 "null" then some (.null, behind)
  else if token = Text.utf8 "true" then some (.boolean true, behind)
  else if token = Text.utf8 "false" then some (.boolean false, behind)
  else readNumber token behind

/-- The entries of a dictionary as read, a key's last value in the place of its first. -/
def collectEntries (entries : List (List UInt8 × Object)) : Dictionary :=
  entries.foldl (fun dict entry =>
    if dict.any (·.1 = entry.1) then
      dict.map fun old => if old.1 = entry.1 then entry else old
    else dict ++ [entry]) []

mutual

def readObject : Nat → List UInt8 → Option (Object × List UInt8)
  | 0, _ => none
  | fuel + 1, bytes =>
      match skipBlanks bytes with
      | [] => none
      | byte :: rest =>
          if byte = 47 then (readName rest).map fun read => (.name read.1, read.2)
          else if byte = 40 then
            (readLiteral 0 rest).map fun read => (.string read.1 .literal, read.2)
          else if byte = 91 then (readItems fuel rest).map fun read => (.array read.1, read.2)
          else if byte = 60 then
            if rest.head? = some 60 then
              (readEntries fuel rest.tail).map fun read =>
                (.dictionary (collectEntries read.1), read.2)
            else (readHexString rest).map fun read => (.string read.1 .hexadecimal, read.2)
          else readWord (byte :: rest)

def readItems : Nat → List UInt8 → Option (List Object × List UInt8)
  | 0, _ => none
  | fuel + 1, bytes =>
      if (skipBlanks bytes).head? = some 93 then some ([], (skipBlanks bytes).tail)
      else do
        let (item, rest) ← readObject fuel bytes
        let (items, rest) ← readItems fuel rest
        return (item :: items, rest)

def readEntries : Nat → List UInt8 → Option (List (List UInt8 × Object) × List UInt8)
  | 0, _ => none
  | fuel + 1, bytes =>
      match skipBlanks bytes with
      | [] => none
      | byte :: rest =>
          if byte = 62 then if rest.head? = some 62 then some ([], rest.tail) else none
          else if byte = 47 then do
            let (key, rest) ← readName rest
            let (value, rest) ← readObject fuel rest
            let (entries, rest) ← readEntries fuel rest
            return ((key, value) :: entries, rest)
          else none

end

/-- An object at the front of a text, and what stands behind it. -/
def read (bytes : List UInt8) : Option (Object × List UInt8) :=
  readObject (bytes.length + 1) bytes

end Chancela.Pades.Reader
