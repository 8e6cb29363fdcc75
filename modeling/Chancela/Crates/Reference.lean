import Chancela.Crates.Basic
import Chancela.Foundation.Sha256
import Mathlib.Data.List.TakeWhile

/-! # Reference implementation of the crates

The operations of `Chancela.Crates` as the crates document them: SHA-256, the text
forms of a UUID, RFC 3339 text of an instant, and compact JSON. `debugStr` follows
the escapes of printable text.
-/

namespace Chancela.Reference

def isHexDigit (c : Char) : Bool :=
  c.isDigit || ('a' ≤ c && c ≤ 'f') || ('A' ≤ c && c ≤ 'F')

/-- The hyphenated form: groups of 8, 4, 4, 4 and 12 digits. -/
def isHyphenated (text : List Char) : Bool :=
  let groups := text.splitOn '-'
  groups.map List.length == [8, 4, 4, 4, 12] && groups.all (·.all isHexDigit)

/-- `Uuid::parse_str`: simple, hyphenated, braced and URN forms. -/
def parseUuid (text : String) : Bool :=
  let chars := text.toList
  match text.length with
  | 32 => chars.all isHexDigit
  | 36 => isHyphenated chars
  | 38 => chars.head? == some '\x7b' && chars.getLast? == some '\x7d' &&
      isHyphenated (chars.tail.dropLast)
  | 45 => "urn:uuid:".toList.isPrefixOf chars && isHyphenated (chars.drop 9)
  | _ => false

def padded (width number : Nat) : List Char :=
  let digits := Nat.toDigits 10 number
  List.replicate (width - digits.length) '0' ++ digits

/-- The fraction of a second, without trailing zeros; absent when it is zero. -/
def fraction (nanosecond : Nat) : List Char :=
  if nanosecond = 0 then []
  else '.' :: ((padded 9 nanosecond).reverse.dropWhile (· == '0')).reverse

/-- The offset from UTC; hours and minutes carry its sign. -/
def offsetText (offset : Int) : List Char :=
  if offset = 0 then ['Z']
  else
    (if offset < 0 then '-' else '+') :: (padded 2 (offset.natAbs / 3600) ++
      ':' :: padded 2 (offset.natAbs / 60 % 60))

/-- The components are those of a date and a time of day. -/
def isDateTime (instant : OffsetDateTime) : Bool :=
  instant.month ≤ 12 && instant.day ≤ 31 && instant.hour ≤ 23 && instant.minute ≤ 59 &&
    instant.second ≤ 59 && instant.nanosecond ≤ 999999999

/-- `OffsetDateTime::format(&Rfc3339)`, which refuses years outside 0 to 9999 and
offsets with seconds or beyond 23 hours. -/
def formatRfc3339 (instant : OffsetDateTime) : Option String :=
  if instant.year < 0 ∨ 9999 < instant.year ∨ 24 ≤ instant.offset.natAbs / 3600 ∨
      instant.offset.natAbs % 60 ≠ 0 ∨ isDateTime instant = false then none
  else some (String.ofList (padded 4 instant.year.toNat ++ '-' :: (padded 2 instant.month ++
    '-' :: (padded 2 instant.day ++ 'T' :: (padded 2 instant.hour ++ ':' ::
      (padded 2 instant.minute ++ ':' :: (padded 2 instant.second ++
        (fraction instant.nanosecond ++ offsetText instant.offset))))))))

def jsonChar (c : Char) : List Char :=
  if c == '"' then ['\\', '"']
  else if c == '\\' then ['\\', '\\']
  else if c.toNat == 8 then ['\\', 'b']
  else if c.toNat == 12 then ['\\', 'f']
  else if c == '\n' then ['\\', 'n']
  else if c == '\r' then ['\\', 'r']
  else if c == '\t' then ['\\', 't']
  else if c.toNat < 32 then ['\\', 'u', '0', '0'] ++ Text.hexByte (UInt8.ofNat c.toNat)
  else [c]

def jsonString (text : String) : List Char := '"' :: (text.toList.flatMap jsonChar ++ ['"'])

mutual

/-- `serde_json::to_string`: compact JSON text. -/
def jsonChars : Json → List Char
  | .null => "null".toList
  | .bool value => if value then "true".toList else "false".toList
  | .num value => (toString value).toList
  | .str value => jsonString value
  | .arr items => '[' :: (jsonItems true items ++ [']'])
  | .obj fields => '\x7b' :: (jsonFields true fields ++ ['\x7d'])

/-- Items of a sequence, a comma before all but the first. -/
def jsonItems : Bool → List Json → List Char
  | _, [] => []
  | first, item :: rest => (if first then [] else [',']) ++ (jsonChars item ++ jsonItems false rest)

/-- Fields of an object, a comma before all but the first. -/
def jsonFields : Bool → List (String × Json) → List Char
  | _, [] => []
  | first, (key, value) :: rest =>
      (if first then [] else [',']) ++
        (jsonString key ++ ':' :: (jsonChars value ++ jsonFields false rest))

end

/-- `Debug` of a printable string. -/
def debugStr (text : String) : String :=
  String.ofList ('"' :: (text.toList.flatMap fun c =>
    if c == '"' || c == '\\' then ['\\', c]
    else if c == '\n' then ['\\', 'n']
    else if c == '\r' then ['\\', 'r']
    else if c == '\t' then ['\\', 't']
    else [c]) ++ ['"'])

theorem parseUuid_length (text : String) (parsed : parseUuid text = true) :
    text.length = 32 ∨ text.length = 36 ∨ text.length = 38 ∨ text.length = 45 := by
  unfold parseUuid at parsed
  simp only at parsed
  split at parsed
  · exact .inl ‹_›
  · exact .inr (.inl ‹_›)
  · exact .inr (.inr (.inl ‹_›))
  · exact .inr (.inr (.inr ‹_›))
  · cases parsed

theorem isDigit_padded {width number : Nat} {c : Char} (member : c ∈ padded width number) :
    c.isDigit = true := by
  rcases List.mem_append.mp member with zero | digit
  · rw [(List.mem_replicate.mp zero).2]
    rfl
  · exact Nat.isDigit_of_mem_toDigits (by decide) (by decide) digit

theorem isRfc3339Char_padded {width number : Nat} {c : Char} (member : c ∈ padded width number) :
    isRfc3339Char c = true := by
  simp [isRfc3339Char, isDigit_padded member]

theorem isRfc3339Char_fraction {nanosecond : Nat} {c : Char} (member : c ∈ fraction nanosecond) :
    isRfc3339Char c = true := by
  unfold fraction at member
  split at member
  · cases member
  · rcases List.mem_cons.mp member with rfl | digit
    · rfl
    · rw [List.mem_reverse] at digit
      exact isRfc3339Char_padded (List.mem_reverse.mp ((List.dropWhile_sublist _).subset digit))

theorem isRfc3339Char_offsetText {offset : Int} {c : Char} (member : c ∈ offsetText offset) :
    isRfc3339Char c = true := by
  unfold offsetText at member
  split at member
  · rw [List.mem_singleton.mp member]
    rfl
  · rcases List.mem_cons.mp member with rfl | member
    · split <;> rfl
    · rcases List.mem_append.mp member with digits | member
      · exact isRfc3339Char_padded digits
      · rcases List.mem_cons.mp member with rfl | digits
        · rfl
        · exact isRfc3339Char_padded digits

theorem rfc3339_chars (instant : OffsetDateTime) (text : String)
    (formatted : formatRfc3339 instant = some text) :
    ∀ c ∈ text.toList, isRfc3339Char c = true := by
  unfold formatRfc3339 at formatted
  split at formatted
  · cases formatted
  · obtain rfl := Option.some.inj formatted
    intro c member
    rw [String.toList_ofList] at member
    simp only [List.mem_append, List.mem_cons] at member
    rcases member with digits | rfl | digits | rfl | digits | rfl | digits | rfl | digits | rfl |
      digits | digits | sign
    all_goals first
      | exact isRfc3339Char_padded digits
      | exact isRfc3339Char_fraction digits
      | exact isRfc3339Char_offsetText sign
      | rfl

theorem padded_injective (width : Nat) : Function.Injective (padded width) := by
  have value : ∀ number, Nat.ofDigitChars 10 (padded width number) 0 = number := by
    intro number
    rw [padded, Nat.ofDigitChars_append, Nat.ofDigitChars_replicate_zero, Nat.mul_zero,
      Nat.ofDigitChars_ten_toDigits]
  intro first second same
  rw [← value first, same, value second]

theorem length_padded {width number : Nat} (positive : 0 < width) (fits : number < 10 ^ width) :
    (padded width number).length = width := by
  have bound := (Nat.length_toDigits_le_iff (by decide) positive).mpr fits
  rw [padded, List.length_append, List.length_replicate]
  omega

theorem padded_append_inj {width first second : Nat} {rest rest' : List Char}
    (positive : 0 < width) (fits : first < 10 ^ width) (fits' : second < 10 ^ width)
    (same : padded width first ++ rest = padded width second ++ rest') :
    first = second ∧ rest = rest' := by
  have widths : (padded width first).length = (padded width second).length := by
    rw [length_padded positive fits, length_padded positive fits']
  obtain ⟨digits, rests⟩ := List.append_inj same widths
  exact ⟨padded_injective width digits, rests⟩

theorem eq_of_trimmed_eq {first second : List Char} (lengths : first.length = second.length)
    (same : (first.reverse.dropWhile (· == '0')).reverse =
      (second.reverse.dropWhile (· == '0')).reverse) : first = second := by
  have zeros : ∀ text : List Char, text.reverse =
      List.replicate (text.length - (text.reverse.dropWhile (· == '0')).length) '0' ++
        text.reverse.dropWhile (· == '0') := by
    intro text
    have run : text.reverse.takeWhile (· == '0') =
        List.replicate (text.reverse.takeWhile (· == '0')).length '0' :=
      List.eq_replicate_iff.mpr ⟨rfl, fun c member => by
        simpa using List.mem_takeWhile_imp member⟩
    have parts : text.reverse.takeWhile (· == '0') ++ text.reverse.dropWhile (· == '0') =
        text.reverse := List.takeWhile_append_dropWhile
    have total := congrArg List.length parts
    rw [List.length_append, List.length_reverse] at total
    have count : text.length - (text.reverse.dropWhile (· == '0')).length =
        (text.reverse.takeWhile (· == '0')).length := by omega
    rw [count, ← run, parts]
  apply List.reverse_injective
  rw [zeros first, zeros second, List.reverse_injective same, lengths]

theorem fraction_inj {first second : Nat} (fits : first < 10 ^ 9) (fits' : second < 10 ^ 9)
    (same : fraction first = fraction second) : first = second := by
  unfold fraction at same
  split at same
  · split at same
    · omega
    · cases same
  · split at same
    · cases same
    · have lengths : (padded 9 first).length = (padded 9 second).length := by
        rw [length_padded (by decide) fits, length_padded (by decide) fits']
      exact padded_injective 9 (eq_of_trimmed_eq lengths (List.cons.inj same).2)

theorem offsetText_inj {first second : Int} (hours : first.natAbs / 3600 < 24)
    (hours' : second.natAbs / 3600 < 24) (whole : first.natAbs % 60 = 0)
    (whole' : second.natAbs % 60 = 0) (same : offsetText first = offsetText second) :
    first = second := by
  have signed : ∀ offset : Int, offset ≠ 0 → offsetText offset =
      (if offset < 0 then '-' else '+') :: (padded 2 (offset.natAbs / 3600) ++
        ':' :: padded 2 (offset.natAbs / 60 % 60)) := by
    intro offset nonzero
    rw [offsetText, if_neg nonzero]
  have sign : ∀ offset : Int, (if offset < 0 then '-' else '+') ≠ 'Z' := by
    intro offset
    split <;> decide
  by_cases zero : first = 0 <;> by_cases zero' : second = 0
  · rw [zero, zero']
  · rw [zero, signed second zero'] at same
    exact (sign second (List.cons.inj same).1.symm).elim
  · rw [zero', signed first zero] at same
    exact (sign first (List.cons.inj same).1).elim
  · rw [signed first zero, signed second zero'] at same
    obtain ⟨signs, numbers⟩ := List.cons.inj same
    obtain ⟨hour, rest⟩ := padded_append_inj (by decide) (by omega) (by omega) numbers
    have minute := padded_injective 2 (List.cons.inj rest).2
    have negative : first < 0 ↔ second < 0 := by
      constructor
      · intro below
        by_contra above
        rw [if_pos below, if_neg above] at signs
        exact absurd signs (by decide)
      · intro below
        by_contra above
        rw [if_neg above, if_pos below] at signs
        exact absurd signs (by decide)
    omega

theorem fraction_append_offsetText_inj {first second : Nat} {offset offset' : Int}
    (same : fraction first ++ offsetText offset = fraction second ++ offsetText offset') :
    fraction first = fraction second ∧ offsetText offset = offsetText offset' := by
  have fractional : ∀ nanosecond, ∀ c ∈ fraction nanosecond, (c.isDigit || c == '.') = true := by
    intro nanosecond c member
    unfold fraction at member
    split at member
    · cases member
    · rcases List.mem_cons.mp member with rfl | digit
      · rfl
      · rw [List.mem_reverse] at digit
        have inside := List.mem_reverse.mp ((List.dropWhile_sublist _).subset digit)
        rw [isDigit_padded inside]
        rfl
  have ends : ∀ offset, ∃ lead rest, offsetText offset = lead :: rest ∧
      (lead.isDigit || lead == '.') = false := by
    intro offset
    unfold offsetText
    split
    · exact ⟨'Z', [], rfl, by decide⟩
    · refine ⟨_, _, rfl, ?_⟩
      split <;> decide
  have cut : ∀ nanosecond offset, (fraction nanosecond ++ offsetText offset).takeWhile
      (fun c => c.isDigit || c == '.') = fraction nanosecond := by
    intro nanosecond offset
    obtain ⟨lead, rest, shape, stop⟩ := ends offset
    rw [List.takeWhile_append_of_pos (fractional nanosecond), shape,
      List.takeWhile_cons_of_neg (by simp [stop]), List.append_nil]
  have fractions : fraction first = fraction second := by
    rw [← cut first offset, same, cut second offset']
  rw [fractions] at same
  exact ⟨fractions, List.append_cancel_left same⟩

theorem rfc3339_inj (first second : OffsetDateTime) (text : String)
    (formatted : formatRfc3339 first = some text) (formatted' : formatRfc3339 second = some text) :
    first = second := by
  unfold formatRfc3339 at formatted formatted'
  split at formatted
  · cases formatted
  rename_i fits
  split at formatted'
  · cases formatted'
  rename_i fits'
  have same := String.ofList_injective (Option.some.inj (formatted.trans formatted'.symm))
  simp only [isDateTime, not_or, Bool.not_eq_false, Bool.and_eq_true, decide_eq_true_eq,
    not_not] at fits fits'
  obtain ⟨low, high, hours, whole, ⟨⟨⟨⟨⟨month, day⟩, hour⟩, minute⟩, sec⟩, nano⟩⟩ := fits
  obtain ⟨low', high', hours', whole', ⟨⟨⟨⟨⟨month', day'⟩, hour'⟩, minute'⟩, sec'⟩, nano'⟩⟩ := fits'
  obtain ⟨years, same⟩ := padded_append_inj (by decide) (by omega) (by omega) same
  obtain ⟨months, same⟩ :=
    padded_append_inj (by decide) (by omega) (by omega) (List.cons.inj same).2
  obtain ⟨days, same⟩ := padded_append_inj (by decide) (by omega) (by omega) (List.cons.inj same).2
  obtain ⟨hoursIs, same⟩ :=
    padded_append_inj (by decide) (by omega) (by omega) (List.cons.inj same).2
  obtain ⟨minutes, same⟩ :=
    padded_append_inj (by decide) (by omega) (by omega) (List.cons.inj same).2
  obtain ⟨seconds, same⟩ :=
    padded_append_inj (by decide) (by omega) (by omega) (List.cons.inj same).2
  obtain ⟨fractions, offsets⟩ := fraction_append_offsetText_inj same
  have nanoseconds := fraction_inj (by omega) (by omega) fractions
  have offset := offsetText_inj (by omega) (by omega) whole whole' offsets
  have year : first.year = second.year := by omega
  cases first
  cases second
  simp_all

/-- The crates as documented. -/
scoped instance crates : Crates where
  sha256 := Sha256.hash
  parseUuid := parseUuid
  formatRfc3339 := formatRfc3339
  debugStr := debugStr
  jsonToString := fun json => String.ofList (jsonChars json)
  parseUuid_length := parseUuid_length
  rfc3339_chars := rfc3339_chars
  rfc3339_inj := rfc3339_inj

end Chancela.Reference
