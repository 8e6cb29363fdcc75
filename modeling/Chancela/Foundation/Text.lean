import Mathlib.Data.String.Basic
import Mathlib.Data.List.DropRight

/-! # Strings as the code handles them

The operations of Rust's `str` that the program uses, over Lean strings: UTF-8
bytes, splitting at a character, stripping a prefix and trimming. Both languages
order strings by code points, so `≤` on `String` is `Ord` on `str`.
-/

namespace Chancela.Text

/-- `str::as_bytes`. -/
def utf8 (text : String) : List UInt8 := text.toByteArray.data.toList

/-- `str::len`. -/
def byteLen (text : String) : Nat := (utf8 text).length

theorem utf8_injective : Function.Injective utf8 := by
  intro first second same
  apply String.toByteArray_inj.mp
  exact ByteArray.ext (Array.toList_inj.mp same)

theorem utf8_eq_flatMap (text : String) :
    utf8 text = text.toList.flatMap String.utf8EncodeChar := by
  rw [utf8, ← String.utf8Encode_toList, List.utf8Encode, List.toList_data_toByteArray]

theorem utf8EncodeChar_ascii {c : Char} (ascii : c.toNat < 128) :
    String.utf8EncodeChar c = [UInt8.ofNat c.toNat] := by
  have size : c.utf8Size = 1 := Char.utf8Size_eq_one_iff.mpr (by
    rw [UInt32.le_iff_toNat_le]
    exact Nat.le_of_lt_succ ascii)
  rw [String.utf8EncodeChar_eq_singleton size]
  rfl

theorem byteLen_of_ascii {text : String} (ascii : ∀ c ∈ text.toList, c.toNat < 128) :
    byteLen text = text.toList.length := by
  rw [byteLen, utf8_eq_flatMap]
  revert ascii
  induction text.toList with
  | nil => exact fun _ => rfl
  | cons c rest ih =>
      intro ascii
      rw [List.flatMap_cons, List.length_append, utf8EncodeChar_ascii (ascii c List.mem_cons_self),
        ih fun other member => ascii other (List.mem_cons_of_mem c member), List.length_singleton,
        List.length_cons, Nat.add_comm]

/-- `str::split` at a character. -/
def split (text : String) (separator : Char) : List String :=
  (text.toList.splitOn separator).map String.ofList

def stripPrefix (text lead : String) : Option String :=
  if lead.toList.isPrefixOf text.toList then
    some (String.ofList (text.toList.drop lead.toList.length))
  else none

/-- `char::is_whitespace`: the Unicode `White_Space` property. -/
def isWhitespace (c : Char) : Bool :=
  let code := c.toNat
  (0x09 ≤ code && code ≤ 0x0D) || code == 0x20 || code == 0x85 || code == 0xA0 ||
    code == 0x1680 || (0x2000 ≤ code && code ≤ 0x200A) || code == 0x2028 || code == 0x2029 ||
    code == 0x202F || code == 0x205F || code == 0x3000

def trim (text : String) : String :=
  String.ofList ((text.toList.dropWhile isWhitespace).reverse.dropWhile isWhitespace).reverse

theorem trim_eq (text : String) :
    trim text = String.ofList ((text.toList.dropWhile isWhitespace).rdropWhile isWhitespace) := rfl

theorem trim_trim (text : String) : trim (trim text) = trim text := by
  have start : ∀ front : List Char, front <+: text.toList.dropWhile isWhitespace →
      front.dropWhile isWhitespace = front := by
    rintro front ⟨back, split⟩
    cases front with
    | nil => rfl
    | cons c rest =>
        have first := List.dropWhile_eq_self_iff.mp
          (List.dropWhile_idempotent isWhitespace text.toList)
        simp only [← split] at first
        exact List.dropWhile_cons_of_neg (first (Nat.succ_pos _))
  rw [trim_eq, trim_eq, String.toList_ofList, start _ (List.rdropWhile_prefix _ _),
    List.rdropWhile_idempotent]

theorem mem_of_mem_trim {text : String} {c : Char} (member : c ∈ (trim text).toList) :
    c ∈ text.toList := by
  rw [trim_eq, String.toList_ofList] at member
  exact (List.dropWhile_sublist _).subset ((List.rdropWhile_prefix _ _).subset member)
/-- `text.trim().is_empty()`. -/
def isBlank (text : String) : Bool := text.toList.all isWhitespace

def contains (text marker : String) : Bool := text.toList.tails.any marker.toList.isPrefixOf

def hexDigit (n : Nat) : Char := if n < 10 then Char.ofNat (48 + n) else Char.ofNat (87 + n)

/-- A byte as `{:02x}` prints it. -/
def hexByte (byte : UInt8) : List Char := [hexDigit (byte.toNat / 16), hexDigit (byte.toNat % 16)]

theorem hexDigit_inj {first second : Nat} (small : first < 16) (small' : second < 16)
    (same : hexDigit first = hexDigit second) : first = second := by
  have separated : ∀ n m : Fin 16, hexDigit n = hexDigit m → n = m := by decide
  exact congrArg Fin.val (separated ⟨first, small⟩ ⟨second, small'⟩ same)

theorem hexByte_injective : Function.Injective hexByte := by
  intro first second same
  simp only [hexByte, List.cons.injEq, and_true] at same
  have bound := first.toNat_lt
  have bound' := second.toNat_lt
  have high := hexDigit_inj (by omega) (by omega) same.1
  have low := hexDigit_inj (by omega) (by omega) same.2
  exact UInt8.toNat_inj.mp (by omega)

end Chancela.Text
