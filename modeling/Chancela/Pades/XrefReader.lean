import Chancela.Pades.AppendedXref
import Chancela.Pades.Reader

/-! # The chain of cross-reference sections

How a reader resolves a file: from the section the last `startxref` names to those its trailer
names, the `/Prev` before it and, in a hybrid file, the `/XRefStm` beside it. A classic table is
read number by number, from the keyword `xref` to the keyword `trailer`; a stream is an object
whose dictionary is its trailer.
-/

namespace Chancela.Pades.Reader

open Lopdf Decimal

def readDigits (bytes : List UInt8) : Option (Nat × List UInt8) :=
  (readNatural ((skipBlanks bytes).takeWhile isDigit)).map
    (·, (skipBlanks bytes).dropWhile isDigit)

def readKind (bytes : List UInt8) : Option (UInt8 × List UInt8) :=
  match skipBlanks bytes with
  | [] => none
  | byte :: rest => if byte = 110 ∨ byte = 102 then some (byte, rest) else none

/-- An entry of a table: the object it is about, and `n` or `f`. -/
structure XrefEntry where
  number : Nat
  kind : UInt8

def readXrefEntry (number : Nat) (bytes : List UInt8) : Option (XrefEntry × List UInt8) := do
  let (_, rest) ← readDigits bytes
  let (_, rest) ← readDigits rest
  let (kind, rest) ← readKind rest
  return (⟨number, kind⟩, rest)

/-- The entries of a subsection from an object number on. -/
def readXrefEntries (number : Nat) : Nat → List UInt8 → Option (List XrefEntry × List UInt8)
  | 0, bytes => some ([], bytes)
  | left + 1, bytes => do
      let (entry, rest) ← readXrefEntry number bytes
      let (entries, rest) ← readXrefEntries (number + 1) left rest
      return (entry :: entries, rest)

/-- Subsections to the keyword of the trailer, at most so many. -/
def readSubsections : Nat → List UInt8 → Option (List XrefEntry × List UInt8)
  | 0, _ => none
  | fuel + 1, bytes =>
      if Text.utf8 "trailer" <+: skipBlanks bytes then some ([], (skipBlanks bytes).drop 7)
      else do
        let (first, rest) ← readDigits bytes
        let (count, rest) ← readDigits rest
        let (entries, rest) ← readXrefEntries first count rest
        let (others, rest) ← readSubsections fuel rest
        return (entries ++ others, rest)

/-- The classic table at the front of a text, and what stands behind its `trailer`. -/
def readTable (bytes : List UInt8) : Option (List XrefEntry × List UInt8) :=
  if Text.utf8 "xref" <+: bytes then readSubsections bytes.length (bytes.drop 4) else none

def readDictionary (bytes : List UInt8) : Option Dictionary :=
  (read bytes).bind (·.1.asDict)

/-- The dictionary of the object at the front of a text. -/
def readStreamDictionary (bytes : List UInt8) : Option Dictionary := do
  let (_, rest) ← readDigits bytes
  let (_, rest) ← readDigits rest
  if Text.utf8 "obj" <+: skipBlanks rest then readDictionary ((skipBlanks rest).drop 3) else none

def offsetOf (dict : Dictionary) (key : String) : Option Nat :=
  match dict.get key with
  | some (.integer number) => if 0 ≤ number then some number.toNat else none
  | _ => none

/-- The sections that the section at an offset leads to. -/
def leadsTo (pdf : List UInt8) (offset : Nat) : List Nat :=
  match readTable (pdf.drop offset) with
  | some (_, behind) =>
      (readDictionary behind).elim [] fun trailer =>
        (offsetOf trailer "XRefStm").toList ++ (offsetOf trailer "Prev").toList
  | none =>
      (readStreamDictionary (pdf.drop offset)).elim [] fun trailer =>
        (offsetOf trailer "Prev").toList

/-- The sections a reader comes to, from the last `startxref` on. -/
inductive Visits (pdf : List UInt8) : Nat → Prop
  | first {offset : Nat} (named : Pdf.lastStartxref pdf = some offset) : Visits pdf offset
  | next {offset other : Nat} (visited : Visits pdf offset) (led : other ∈ leadsTo pdf offset) :
      Visits pdf other

/-- A classic table at an offset every entry of which is in use, but for object 0. -/
def FreesNothing (pdf : List UInt8) (offset : Nat) : Prop :=
  ∃ entries behind, readTable (pdf.drop offset) = some (entries, behind) ∧
    ∀ entry ∈ entries, entry.kind = 110 ∨ entry.number = 0

/-- What the audit is to vouch for: the chain gets inside the signed revision, and no section of
it outside frees an object. -/
def ChainFreesNothing (pdf : List UInt8) (signedRevisionLen : Nat) : Prop :=
  (∀ offset, Visits pdf offset → signedRevisionLen ≤ offset → FreesNothing pdf offset) ∧
    ∃ offset, Visits pdf offset ∧ offset < signedRevisionLen

end Chancela.Pades.Reader
