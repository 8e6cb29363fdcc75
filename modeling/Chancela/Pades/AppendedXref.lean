import Chancela.Foundation.Slices
import Chancela.Pades.Pdf

/-! # Cross-reference sections behind the signed revision

Before later revisions are called benign the validator walks their cross-reference sections, from
the last `startxref` through the `/Prev` of each trailer, and refuses a table that frees an
object. Offsets are numbers of the file, of up to 64 bits, and one is added to before it is known
to lie inside the file.
-/

namespace Chancela.Pades

open Decimal Slices

def tokens (body : List UInt8) : List (List UInt8) :=
  (body.splitOnP Pdf.isAsciiWhitespace).filter (· ≠ [])

def asciiU32 (token : List UInt8) : Option Nat :=
  if token = [] ∨ token.all isDigit = false ∨ 2 ^ 32 ≤ value token then none
  else some (value token)

/-- May the entry of an object be of this kind? Object 0 may be free. -/
def admitsKind (number : Nat) (kind : List UInt8) : Bool :=
  kind = Text.utf8 "n" || kind = Text.utf8 "f" && number = 0

/-- The entries of a subsection from its `index`th on, `left` of them; the tokens behind them, or
nothing where one of them does not parse or frees an object other than object 0. -/
def entriesFreeNothing (first : Nat) : Nat → Nat → List (List UInt8) → Option (List (List UInt8))
  | _, 0, rest => some rest
  | index, left + 1, offset :: generation :: kind :: rest =>
      if (asciiU32 offset).isNone || (asciiU32 generation).isNone ||
          !admitsKind (first + index) kind then none
      else entriesFreeNothing first (index + 1) left rest
  | _, _ + 1, _ => none

theorem length_of_entriesFreeNothing {first index left : Nat} {list rest : List (List UInt8)}
    (parsed : entriesFreeNothing first index left list = some rest) :
    rest.length ≤ list.length := by
  induction index, left, list using entriesFreeNothing.induct first with
  | case1 index list =>
      rw [entriesFreeNothing] at parsed
      cases parsed
      exact le_rfl
  | case2 index left offset generation kind list bad =>
      rw [entriesFreeNothing, if_pos bad] at parsed
      cases parsed
  | case3 index left offset generation kind list good ih =>
      rw [entriesFreeNothing, if_neg good] at parsed
      exact (ih parsed).trans (Nat.le_add_right _ 3)
  | case4 index left list short =>
      rw [entriesFreeNothing] at parsed
      · cases parsed
      · exact short

def subsectionsFreeNothing : List (List UInt8) → Bool
  | [] => true
  | [_] => false
  | first :: count :: rest =>
      match asciiU32 first, asciiU32 count with
      | some first, some count =>
          match parsed : entriesFreeNothing first 0 count rest with
          | some behind =>
              have := length_of_entriesFreeNothing parsed
              subsectionsFreeNothing behind
          | none => false
      | _, _ => false
termination_by list => list.length

def xrefTableFreesNothing (body : List UInt8) : Bool := subsectionsFreeNothing (tokens body)

def trailerKeyInteger (trailer key : List UInt8) : Option Nat := Pdf.keyInteger trailer key

def maxAppendedXrefSections : Nat := 64

variable {ε : Type}

/-- A turn of the loop of `appended_xref_sections_free_nothing`: the offset the trailer names, or
nothing where the answer is no. -/
def auditSection (pdf : List UInt8) (offset : Nat) : Except (Stop ε) (Option Nat) := do
  let behind ← addUsize offset 4
  if slice? pdf offset behind = some (Text.utf8 "xref") then
    match Pdf.find (← slice pdf offset pdf.length) (Text.utf8 "trailer") with
    | none => return none
    | some found =>
        let trailerAt ← addUsize found offset
        if xrefTableFreesNothing (← slice pdf behind trailerAt) then
          let stop ← match Pdf.find (← slice pdf trailerAt pdf.length) (Text.utf8 "startxref") with
            | some found => addUsize trailerAt found
            | none => pure pdf.length
          return trailerKeyInteger (← slice pdf trailerAt stop) (Text.utf8 "/Prev")
        else return none
  else return none

def sectionsFreeNothing (pdf : List UInt8) (signedRevisionLen : Nat) (seen : List Nat)
    (offset : Nat) : Except (Stop ε) Bool :=
  if offset < signedRevisionLen then .ok true
  else if offset ∈ seen ∨ maxAppendedXrefSections ≤ seen.length then .ok false
  else (auditSection pdf offset).bind fun next =>
    match next with
    | none => .ok false
    | some prev => sectionsFreeNothing pdf signedRevisionLen (offset :: seen) prev
termination_by maxAppendedXrefSections - seen.length
decreasing_by
  rw [List.length_cons]
  omega

def appendedXrefSectionsFreeNothing (pdf : List UInt8) (signedRevisionLen : Nat) :
    Except (Stop ε) Bool :=
  match Pdf.lastStartxref pdf with
  | none => .ok false
  | some offset => sectionsFreeNothing pdf signedRevisionLen [] offset

end Chancela.Pades
