import Chancela.Crates.Reference

/-! # Reading JSON text back

A reader for the strings and the fields of the text that `Chancela.Reference` writes, for the
reference implementations of `serde_json::from_slice`.
-/

namespace Chancela.Reference

def hexValue (c : Char) : Nat := if c.isDigit then c.toNat - 48 else c.toNat - 87

def unescapeChar (c : Char) : Char :=
  if c = 'b' then Char.ofNat 8
  else if c = 'f' then Char.ofNat 12
  else if c = 'n' then '\n'
  else if c = 'r' then '\r'
  else if c = 't' then '\t'
  else c

/-- The characters of a string up to its quote, and what follows. -/
def readChars : List Char → Option (List Char × List Char)
  | [] => none
  | '"' :: rest => some ([], rest)
  | '\\' :: 'u' :: _ :: _ :: high :: low :: rest =>
      (readChars rest).map fun read =>
        (Char.ofNat (hexValue high * 16 + hexValue low) :: read.1, read.2)
  | '\\' :: c :: rest => (readChars rest).map fun read => (unescapeChar c :: read.1, read.2)
  | c :: rest => (readChars rest).map fun read => (c :: read.1, read.2)

def readString : List Char → Option (String × List Char)
  | '"' :: rest => (readChars rest).map fun read => (String.ofList read.1, read.2)
  | _ => none

def readNat (text : List Char) : Nat × List Char :=
  (Nat.ofDigitChars 10 (text.takeWhile Char.isDigit) 0, text.dropWhile Char.isDigit)

def expect (lead text : List Char) : Option (List Char) :=
  if lead.isPrefixOf text then some (text.drop lead.length) else none

/-- The string under a name, after a comma, and what follows it. -/
def readField (name : String) (text : List Char) : Option (String × List Char) :=
  (expect (',' :: (jsonString name ++ [':'])) text).bind readString

def readUtf8 (bytes : List UInt8) : Option String := String.fromUTF8? ⟨bytes.toArray⟩

theorem readUtf8_utf8 (text : String) : readUtf8 (Text.utf8 text) = some text := by
  have same : (⟨(Text.utf8 text).toArray⟩ : ByteArray) = text.toByteArray := by
    rw [Text.utf8, Array.toArray_toList]
  rw [readUtf8, same, String.fromUTF8?, dif_pos text.isValidUTF8]
  rfl

theorem expect_append (lead text : List Char) : expect lead (lead ++ text) = some text := by
  rw [expect, if_pos (List.isPrefixOf_iff_prefix.mpr (List.prefix_append _ _)), List.drop_left]

theorem readChars_jsonChar (c : Char) (rest : List Char) :
    readChars (jsonChar c ++ rest) =
      (readChars rest).map fun read => (c :: read.1, read.2) := by
  have char : ∀ n, c.toNat = n → c = Char.ofNat n := by
    rintro n rfl
    exact (Char.ofNat_toNat c).symm
  simp only [jsonChar, beq_iff_eq]
  by_cases quote : c = '"'
  · subst quote
    rfl
  by_cases backslash : c = '\\'
  · subst backslash
    rfl
  by_cases backspace : c.toNat = 8
  · rw [char 8 backspace]
    rfl
  by_cases feed : c.toNat = 12
  · rw [char 12 feed]
    rfl
  by_cases newline : c = '\n'
  · subst newline
    rfl
  by_cases carriage : c = '\r'
  · subst carriage
    rfl
  by_cases tab : c = '\t'
  · subst tab
    rfl
  simp only [quote, backslash, backspace, feed, newline, carriage, tab, ↓reduceIte]
  by_cases control : c.toNat < 32
  · rw [if_pos control]
    have digits : ∀ n < 32, Char.ofNat (hexValue (Text.hexDigit ((UInt8.ofNat n).toNat / 16)) * 16 +
        hexValue (Text.hexDigit ((UInt8.ofNat n).toNat % 16))) = Char.ofNat n := by decide
    change (readChars rest).map _ = _
    rw [digits c.toNat control, Char.ofNat_toNat]
  · rw [if_neg control, List.singleton_append, readChars]
    · exact fun same => quote same
    all_goals
      intros
      exact absurd ‹c = '\\'› backslash

/-- **A string is read back.** -/
theorem readString_jsonString (text : String) (rest : List Char) :
    readString (jsonString text ++ rest) = some (text, rest) := by
  have chars : ∀ chars : List Char,
      readChars (chars.flatMap jsonChar ++ '"' :: rest) = some (chars, rest) := by
    intro chars
    induction chars with
    | nil => rfl
    | cons c chars ih =>
        rw [List.flatMap_cons, List.append_assoc, readChars_jsonChar, ih]
        rfl
  rw [jsonString, List.cons_append, List.append_assoc]
  change (readChars _).map _ = _
  rw [List.singleton_append, chars, Option.map_some, String.ofList_toList]

theorem readField_jsonString (name text : String) (rest : List Char) :
    readField name (',' :: (jsonString name ++ ':' :: (jsonString text ++ rest))) =
      some (text, rest) := by
  have split : ',' :: (jsonString name ++ ':' :: (jsonString text ++ rest)) =
      (',' :: (jsonString name ++ [':'])) ++ (jsonString text ++ rest) := by simp
  rw [readField, split, expect_append, Option.bind_some, readString_jsonString]

theorem toList_toString (n : Nat) : (toString (n : Int)).toList = Nat.toDigits 10 n := by
  change (Nat.repr n).toList = _
  rw [Nat.repr_eq_ofList_toDigits, String.toList_ofList]

def Ends (rest : List Char) : Prop := ∀ c ∈ rest.head?, c.isDigit = false

theorem readNat_of_ends (n : Nat) {rest : List Char} (ends : Ends rest) :
    readNat ((toString (n : Int)).toList ++ rest) = (n, rest) := by
  have all : ∀ c ∈ Nat.toDigits 10 n, c.isDigit = true := fun c member =>
    Nat.isDigit_of_mem_toDigits (by decide) (by decide) member
  have stops : rest.takeWhile Char.isDigit = [] ∧ rest.dropWhile Char.isDigit = rest := by
    cases rest with
    | nil => exact ⟨rfl, rfl⟩
    | cons c rest => simp [ends c rfl]
  rw [readNat, toList_toString, List.takeWhile_append_of_pos all,
    List.dropWhile_append_of_pos all, stops.1, stops.2, List.append_nil,
    Nat.ofDigitChars_ten_toDigits]

theorem readNat_toString (n : Nat) {c : Char} (ended : c.isDigit = false) (rest : List Char) :
    readNat ((toString (n : Int)).toList ++ c :: rest) = (n, c :: rest) :=
  readNat_of_ends n fun _ same => Option.some.inj same ▸ ended

end Chancela.Reference
