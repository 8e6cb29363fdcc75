import Chancela.Foundation.Framing
import Chancela.Foundation.Json
import Chancela.Foundation.Text

/-! # Values and operations of the crates

The types the program takes from `uuid`, `time` and `sha2`, and the operations it
calls there and in `serde_json`. The operations are a parameter of the
development: results hold for every implementation that keeps the documented
facts stated as fields of `Chancela.Crates`.
-/

namespace Chancela

/-- A SHA-256 digest, `[u8; 32]`. -/
abbrev Digest := Vector UInt8 32

/-- `[0u8; 32]`, the backward link of a genesis. -/
def zeroDigest : Digest := Vector.replicate 32 0

@[simp] theorem length_digest (digest : Digest) : digest.toList.length = 32 := by
  rw [Vector.length_toList]

/-- `hex32`: the lowercase hexadecimal text of a digest. -/
def hex32 (digest : Digest) : String := String.ofList (digest.toList.flatMap Text.hexByte)

structure Uuid where
  bits : BitVec 128
deriving DecidableEq, Repr

/-- The sixteen bytes of a UUID, most significant first. -/
def Uuid.bytes (uuid : Uuid) : List UInt8 := Framing.bigEndian 16 uuid.bits.toNat

/-- One group of the hyphenated form: `count` bytes from `start`. -/
def Uuid.group (uuid : Uuid) (start count : Nat) : List Char :=
  ((uuid.bytes.drop start).take count).flatMap Text.hexByte

/-- `Display` of a UUID: hyphenated lowercase hexadecimal, 8-4-4-4-12. -/
def Uuid.display (uuid : Uuid) : String :=
  String.ofList (uuid.group 0 4 ++ '-' :: (uuid.group 4 2 ++ '-' :: (uuid.group 6 2 ++ '-' ::
    (uuid.group 8 2 ++ '-' :: uuid.group 10 6))))

/-- `time::Date`, which serializes as year and day of the year. -/
structure Date where
  year : Int
  ordinal : Nat
deriving DecidableEq, Repr

structure Time where
  hour : Nat
  minute : Nat
  second : Nat
  nanosecond : Nat
deriving DecidableEq, Repr

/-- `time::OffsetDateTime`: a local date and time, with its offset from UTC in
seconds. -/
structure OffsetDateTime where
  year : Int
  month : Nat
  day : Nat
  hour : Nat
  minute : Nat
  second : Nat
  nanosecond : Nat
  offset : Int
deriving DecidableEq, Repr

/-- Days from 1970-01-01 to a date of the Gregorian calendar; years begin in March so
that the leap day comes last. -/
def daysFromCivil (year : Int) (month day : Nat) : Int :=
  let year := if month ≤ 2 then year - 1 else year
  let dayOfYear : Int := (153 * ((month + 9) % 12) + 2) / 5 + day - 1
  365 * year + year / 4 - year / 100 + year / 400 + dayOfYear - 719468

/-- `OffsetDateTime::unix_timestamp_nanos`, by which instants compare. -/
def OffsetDateTime.unixTimestampNanos (instant : OffsetDateTime) : Int :=
  ((daysFromCivil instant.year instant.month instant.day * 86400 + instant.hour * 3600 +
    instant.minute * 60 + instant.second) - instant.offset) * 1000000000 + instant.nanosecond

def isRfc3339Char (c : Char) : Bool :=
  c.isDigit || c == '-' || c == ':' || c == '.' || c == 'T' || c == 'Z' || c == '+'

/-- The operations the program calls in other crates. -/
class Crates where
  /-- `sha2::Sha256` over the concatenated input. -/
  sha256 : List UInt8 → Digest
  /-- `uuid::Uuid::parse_str(_).is_ok()`. -/
  parseUuid : String → Bool
  /-- `OffsetDateTime::format(&Rfc3339)`, absent on an error. -/
  formatRfc3339 : OffsetDateTime → Option String
  /-- `{:?}` of a string. -/
  debugStr : String → String
  /-- `serde_json::to_string` of a serialized value. -/
  jsonToString : Json → String
  /-- The simple, hyphenated, braced and URN forms have these lengths. -/
  parseUuid_length : ∀ text, parseUuid text = true →
    text.length = 32 ∨ text.length = 36 ∨ text.length = 38 ∨ text.length = 45
  rfc3339_chars : ∀ instant text, formatRfc3339 instant = some text →
    ∀ c ∈ text.toList, isRfc3339Char c = true
  /-- The text names the local date and time and the offset. -/
  rfc3339_inj : ∀ first second text, formatRfc3339 first = some text →
    formatRfc3339 second = some text → first = second

export Crates (sha256 parseUuid formatRfc3339 debugStr jsonToString)

/-- `serde_json::to_vec`: the bytes of the text. -/
def jsonToVec [Crates] (json : Json) : List UInt8 := Text.utf8 (jsonToString json)

theorem not_mem_utf8_rfc3339 [Crates] {instant : OffsetDateTime} {text : String}
    (formatted : formatRfc3339 instant = some text) {byte : UInt8} (control : byte < 0x20) :
    byte ∉ Text.utf8 text := by
  intro member
  rw [Text.utf8_eq_flatMap, List.mem_flatMap] at member
  obtain ⟨c, inside, encoded⟩ := member
  have allowed := Crates.rfc3339_chars instant text formatted c inside
  have range : 0x20 ≤ c.toNat ∧ c.toNat < 128 := by
    simp only [isRfc3339Char, Char.isDigit, Bool.or_eq_true, Bool.and_eq_true, decide_eq_true_eq,
      beq_iff_eq] at allowed
    rcases allowed with (((((digit | rfl) | rfl) | rfl) | rfl) | rfl) | rfl
    · have low : 48 ≤ c.toNat := digit.1
      have high : c.toNat ≤ 57 := digit.2
      omega
    all_goals decide
  rw [Text.utf8EncodeChar_ascii range.2, List.mem_singleton] at encoded
  subst encoded
  have value : (UInt8.ofNat c.toNat).toNat = c.toNat := by
    rw [UInt8.toNat_ofNat']
    omega
  have below : (UInt8.ofNat c.toNat).toNat < 0x20 := control
  omega

theorem hexByte_splits :
    Framing.Splits Set.univ (id : UInt8 → UInt8) Text.hexByte :=
  Framing.Splits.of_fixedWidth 2 (fun _ _ => rfl)
    (fun _ _ _ _ same => Text.hexByte_injective same)

theorem flatMap_hexByte_injective :
    Function.Injective (fun bytes : List UInt8 => bytes.flatMap Text.hexByte) := by
  intro first second same
  have views := hexByte_splits.flatMap (fun byte _ => by simp [Text.hexByte])
    (fun _ _ => trivial) (fun _ _ => trivial) same
  rwa [List.map_id, List.map_id] at views

@[simp] theorem Uuid.length_bytes (uuid : Uuid) : uuid.bytes.length = 16 :=
  Framing.length_bigEndian 16 _

theorem Uuid.length_group (uuid : Uuid) {start count : Nat} (inside : start + count ≤ 16) :
    (uuid.group start count).length = 2 * count := by
  have uniform : ∀ bytes : List UInt8, (bytes.flatMap Text.hexByte).length = 2 * bytes.length := by
    intro bytes
    induction bytes with
    | nil => rfl
    | cons byte rest ih =>
        rw [List.flatMap_cons, List.length_append, ih, List.length_cons]
        simp only [Text.hexByte, List.length_cons, List.length_nil]
        omega
  rw [Uuid.group, uniform, List.length_take, List.length_drop, uuid.length_bytes]
  omega

theorem Uuid.group_inj {first second : Uuid} {start count : Nat}
    (same : first.group start count = second.group start count) :
    (first.bytes.drop start).take count = (second.bytes.drop start).take count :=
  flatMap_hexByte_injective same

theorem Uuid.bytes_injective : Function.Injective Uuid.bytes := by
  intro first second same
  have numbers := Framing.bigEndian_inj (by simpa using first.bits.isLt)
    (by simpa using second.bits.isLt) same
  cases first
  cases second
  exact congrArg Uuid.mk (BitVec.eq_of_toNat_eq numbers)

theorem Uuid.bytes_eq_append (uuid : Uuid) : uuid.bytes =
    (uuid.bytes.drop 0).take 4 ++ ((uuid.bytes.drop 4).take 2 ++ ((uuid.bytes.drop 6).take 2 ++
      ((uuid.bytes.drop 8).take 2 ++ (uuid.bytes.drop 10).take 6))) := by
  have cut : ∀ start count, uuid.bytes.drop start =
      (uuid.bytes.drop start).take count ++ uuid.bytes.drop (start + count) := by
    intro start count
    rw [← List.drop_drop, List.take_append_drop]
  have last : (uuid.bytes.drop 10).take 6 = uuid.bytes.drop 10 :=
    List.take_of_length_le (by simp)
  rw [last, ← cut 8 2, ← cut 6 2, ← cut 4 2, ← cut 0 4, List.drop_zero]

theorem Uuid.display_injective : Function.Injective Uuid.display := by
  intro first second same
  have lists := String.ofList_injective same
  have widths : ∀ {start count : Nat}, start + count ≤ 16 →
      (first.group start count).length = (second.group start count).length := by
    intro start count inside
    rw [first.length_group inside, second.length_group inside]
  obtain ⟨group₀, rest⟩ := List.append_inj lists (widths (by decide))
  obtain ⟨group₁, rest⟩ := List.append_inj (List.cons.inj rest).2 (widths (by decide))
  obtain ⟨group₂, rest⟩ := List.append_inj (List.cons.inj rest).2 (widths (by decide))
  obtain ⟨group₃, rest⟩ := List.append_inj (List.cons.inj rest).2 (widths (by decide))
  have group₄ := (List.cons.inj rest).2
  apply Uuid.bytes_injective
  rw [first.bytes_eq_append, second.bytes_eq_append, Uuid.group_inj group₀, Uuid.group_inj group₁,
    Uuid.group_inj group₂, Uuid.group_inj group₃, Uuid.group_inj group₄]

instance : Serialize Digest := ⟨fun digest => serialize digest.toList⟩
instance : Serialize Uuid := ⟨fun uuid => some (.str uuid.display)⟩
instance : Serialize Date := ⟨fun date => some (.arr [.num date.year, .num date.ordinal])⟩

instance : Serialize Time := ⟨fun time =>
  some (.arr [.num time.hour, .num time.minute, .num time.second, .num time.nanosecond])⟩

/-- `time::serde::rfc3339`, which fails on an instant RFC 3339 cannot express. -/
instance [Crates] : Serialize OffsetDateTime := ⟨fun instant => (formatRfc3339 instant).map .str⟩

instance : FaithfulJson Digest :=
  ⟨fun serialized serialized' => Vector.toList_inj.mp (FaithfulJson.inj serialized serialized')⟩

instance : FaithfulJson Uuid :=
  .of_injective (fun _ => rfl) fun _ _ same => Uuid.display_injective (Json.str.inj same)

instance : FaithfulJson Date := .of_injective (fun _ => rfl) fun first second same => by
  cases first
  cases second
  simpa [Int.natCast_inj] using Json.arr.inj same

instance : FaithfulJson Time := .of_injective (fun _ => rfl) fun first second same => by
  cases first
  cases second
  simpa [Int.natCast_inj] using Json.arr.inj same

instance [Crates] : FaithfulJson OffsetDateTime where
  inj := by
    intro first second json serialized serialized'
    obtain ⟨text, formatted, rfl⟩ := Option.map_eq_some_iff.mp serialized
    obtain ⟨text', formatted', same⟩ := Option.map_eq_some_iff.mp serialized'
    rw [Json.str.inj same] at formatted'
    exact Crates.rfc3339_inj first second text formatted formatted'

instance : NonNullJson Digest where
  ne_null := by
    intro digest same
    obtain ⟨items, -, null⟩ := Option.map_eq_some_iff.mp same
    cases null

instance : NonNullJson Date := ⟨fun _ same => by cases same⟩
instance : NonNullJson Time := ⟨fun _ same => by cases same⟩

end Chancela
