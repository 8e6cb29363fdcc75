import Chancela.Foundation.Regroup
import Chancela.Session.Totp

/-! # Secrets in Base32

A secret is bytes of eight bits written in digits of five. Both loops keep the bits that do not
yet fill a digit in the low bits of a word, whose high bits overflow: nothing that is still needed
is lost (`Chancela.Totp.holds_base32Write`, `Chancela.Totp.holds_base32Read`).
-/

namespace Chancela.Totp

open Regroup

/-- The bits of the bytes of a secret, taken five at a time. -/
def base32EncodeFrom : List UInt8 → UInt32 → Nat → List Char
  | [], buffer, bits =>
      if 0 < bits then
        [base32Alphabet.getD (buffer <<< UInt32.ofNat (5 - bits) &&& 0x1f).toNat 'A']
      else []
  | byte :: rest, buffer, bits =>
      let buffer := buffer <<< 8 ||| byte.toUInt32
      let symbol left := base32Alphabet.getD (buffer >>> UInt32.ofNat left &&& 0x1f).toNat 'A'
      let bits := bits + 8
      if 10 ≤ bits then
        symbol (bits - 5) :: symbol (bits - 10) :: base32EncodeFrom rest buffer (bits - 10)
      else symbol (bits - 5) :: base32EncodeFrom rest buffer (bits - 5)

def base32Encode (bytes : List UInt8) : String := String.ofList (base32EncodeFrom bytes 0 0)

/-- What a loop has written, and the buffer with the bits on hold. -/
structure Pending (α : Type) where
  out : List α
  buffer : UInt32
  bits : Nat

/-- `BASE32_ALPHABET[index]`, of an index below 32. -/
def base32Digit (index : Nat) : Char := base32Alphabet.getD index 'A'

/-- The inner loop of `base32_encode`: a character while there are five bits. -/
def base32Drain (buffer : UInt32) (bits : Nat) (out : List Char) : Pending Char :=
  if 5 ≤ bits then
    base32Drain buffer (bits - 5)
      (out ++ [base32Digit (buffer >>> UInt32.ofNat (bits - 5) &&& 0x1f).toNat])
  else ⟨out, buffer, bits⟩
termination_by bits

/-- A byte in `base32_encode`. -/
def base32Write (state : Pending Char) (byte : UInt8) : Pending Char :=
  base32Drain (state.buffer <<< 8 ||| byte.toUInt32) (state.bits + 8) state.out

/-- What `base32_encode` writes in the end. -/
def base32Finish (state : Pending Char) : List Char :=
  if 0 < state.bits then
    state.out ++ [base32Digit (state.buffer <<< UInt32.ofNat (5 - state.bits) &&& 0x1f).toNat]
  else state.out

/-- A character that `base32_decode` passes over. -/
def IsSeparator (c : Char) : Prop := c = '=' ∨ c = ' '

instance : DecidablePred IsSeparator := fun c => inferInstanceAs (Decidable (c = '=' ∨ c = ' '))

/-- The position of a character in the alphabet, of either case. -/
def base32Value (c : Char) : Option Nat := base32Alphabet.findIdx? (· = c.toUpper)

/-- A character in `base32_decode`. -/
def base32Read (state : Pending UInt8) (c : Char) : Option (Pending UInt8) :=
  if IsSeparator c then some state
  else
    (base32Value c).map fun value =>
      let buffer := state.buffer <<< 5 ||| UInt32.ofNat value
      let bits := state.bits + 5
      if 8 ≤ bits then
        ⟨state.out ++ [(buffer >>> UInt32.ofNat (bits - 8)).toUInt8], buffer, bits - 8⟩
      else ⟨state.out, buffer, bits⟩

theorem base32Write_eq {state : Pending Char} (few : state.bits < 5) (byte : UInt8) :
    base32Write state byte =
      let buffer := state.buffer <<< 8 ||| byte.toUInt32
      let symbol left := base32Digit (buffer >>> UInt32.ofNat left &&& 0x1f).toNat
      let bits := state.bits + 8
      if 10 ≤ bits then
        ⟨state.out ++ [symbol (bits - 5), symbol (bits - 10)], buffer, bits - 10⟩
      else ⟨state.out ++ [symbol (bits - 5)], buffer, bits - 5⟩ := by
  unfold base32Write
  dsimp only
  rw [base32Drain, if_pos (by omega), base32Drain]
  split
  · rw [base32Drain, if_neg (by omega), if_pos (by omega), List.append_assoc, Nat.sub_sub]
    rfl
  · rw [if_neg (by omega)]

theorem base32EncodeFrom_eq (bytes : List UInt8) {state : Pending Char} (few : state.bits < 5) :
    state.out ++ base32EncodeFrom bytes state.buffer state.bits =
      base32Finish (bytes.foldl base32Write state) := by
  induction bytes generalizing state with
  | nil =>
      rw [List.foldl_nil, base32EncodeFrom, base32Finish]
      by_cases some_ : 0 < state.bits
      · rw [if_pos some_, if_pos some_]
        rfl
      · rw [if_neg some_, if_neg some_, List.append_nil]
  | cons byte rest ih =>
      rw [List.foldl_cons, base32Write_eq few, base32EncodeFrom]
      dsimp only
      split
      · rw [← ih (by dsimp only; omega), List.append_assoc]
        rfl
      · rw [← ih (by dsimp only; omega), List.append_assoc]
        rfl

/-- The loop of `base32_encode`, a byte at a time. -/
theorem base32Encode_eq (bytes : List UInt8) :
    base32Encode bytes = String.ofList (base32Finish (bytes.foldl base32Write ⟨[], 0, 0⟩)) := by
  rw [← base32EncodeFrom_eq bytes (by decide)]
  rfl

/-- The loop of `base32_decode`, a character at a time. -/
theorem base32DecodeFrom_eq (text : List Char) (state : Pending UInt8) :
    base32DecodeFrom text state.buffer state.bits state.out.reverse =
      (text.foldlM base32Read state).map Pending.out := by
  induction text generalizing state with
  | nil => exact congrArg some state.out.reverse_reverse
  | cons c rest ih =>
      rw [List.foldlM_cons]
      by_cases separator : IsSeparator c
      · have passed : base32Read state c = some state := if_pos separator
        rw [base32DecodeFrom, if_pos (show c = '=' ∨ c = ' ' from separator), passed]
        exact ih state
      · rw [base32DecodeFrom, if_neg (show ¬(c = '=' ∨ c = ' ') from separator), base32Read,
          if_neg separator]
        unfold base32Value
        cases base32Alphabet.findIdx? (· = c.toUpper) with
        | none => rfl
        | some value =>
            dsimp only [Option.map_some, Option.bind_eq_bind, Option.bind_some]
            split
            · rw [← ih]
              simp only [List.reverse_append, List.reverse_singleton, List.singleton_append]
            · rw [← ih]

theorem base32Decode_eq (text : String) :
    base32Decode text = (text.toList.foldlM base32Read ⟨[], 0, 0⟩).map Pending.out :=
  base32DecodeFrom_eq text.toList ⟨[], 0, 0⟩

/-! ### The alphabet -/

theorem base32Value_base32Digit : ∀ index < 32,
    base32Value (base32Digit index) = some index ∧ ¬IsSeparator (base32Digit index) := by
  decide

theorem base32Digit_of_base32Value {c : Char} {value : Nat} (found : base32Value c = some value) :
    value < 32 ∧ base32Digit value = c.toUpper := by
  obtain ⟨bound, same, -⟩ := List.findIdx?_eq_some_iff_getElem.mp found
  refine ⟨bound, ?_⟩
  unfold base32Digit
  rw [List.getD_eq_getElem?_getD, List.getElem?_eq_getElem bound, Option.getD_some]
  exact of_decide_eq_true same

theorem base32Value_eq_none_iff {c : Char} :
    base32Value c = none ↔ c.toUpper ∉ base32Alphabet := by
  unfold base32Value
  rw [List.findIdx?_eq_none_iff]
  constructor
  · intro apart member
    exact of_decide_eq_false (apart _ member) rfl
  · intro outside letter member
    exact decide_eq_false fun same => outside (same ▸ member)

theorem toNat_and_31 (word : UInt32) : (word &&& 0x1f).toNat = word.toNat % 2 ^ 5 := by
  rw [UInt32.toNat_and]
  exact Nat.and_two_pow_sub_one_eq_mod word.toNat 5

/-! ### What the loops hold -/

/-- Everything that `base32_encode` has taken is written or held in its buffer. -/
def HoldsWritten (state : Pending Char) (bytes : List UInt8) : Prop :=
  ∃ digits, state.out = digits.map base32Digit ∧
    Accounts 8 5 (bytes.map UInt8.toNat) digits state.bits (held state.buffer state.bits)

/-- Everything that `base32_decode` has taken is written or held in its buffer. -/
def HoldsRead (state : Pending UInt8) (digits : List Nat) : Prop :=
  Accounts 5 8 digits (state.out.map UInt8.toNat) state.bits (held state.buffer state.bits) ∧
    state.bits < 8

theorem holds_base32Drain {bytes : List UInt8} {buffer : UInt32} {bits : Nat} {out : List Char}
    (holds : HoldsWritten ⟨out, buffer, bits⟩ bytes) (room : bits ≤ 32) :
    HoldsWritten (base32Drain buffer bits out) bytes ∧ (base32Drain buffer bits out).bits < 5 := by
  fun_induction base32Drain buffer bits out with
  | case1 bits out five ih =>
      refine ih ?_ (by omega)
      obtain ⟨digits, rfl, account⟩ := holds
      obtain ⟨rest, rfl⟩ := Nat.exists_eq_add_of_le' five
      have emitted := account.shiftOut
      rw [held_div (by omega), held_mod, ← toNat_and_31] at emitted
      rw [Nat.add_sub_cancel]
      exact ⟨_, by rw [List.map_append, List.map_singleton], emitted⟩
  | case2 bits out few => exact ⟨holds, Nat.not_le.mp few⟩

theorem holds_base32Write {state : Pending Char} {bytes : List UInt8} {byte : UInt8}
    (holds : HoldsWritten state bytes) (few : state.bits < 5) :
    HoldsWritten (base32Write state byte) (bytes ++ [byte]) ∧
    (base32Write state byte).bits < 5 := by
  refine holds_base32Drain ?_ (by omega)
  obtain ⟨digits, same, account⟩ := holds
  refine ⟨digits, same, ?_⟩
  have small : byte.toUInt32.toNat < 2 ^ 8 := byte.toNat_lt
  have shifted : held (state.buffer <<< 8 ||| byte.toUInt32) (state.bits + 8) =
      held state.buffer state.bits * 2 ^ 8 + byte.toUInt32.toNat :=
    @held_shiftIn state.buffer state.bits 8 byte.toUInt32 (by omega) (by omega) small
  rw [List.map_append, List.map_singleton, shifted]
  exact account.shiftIn small

theorem holds_foldl_base32Write (bytes : List UInt8) :
    HoldsWritten (bytes.foldl base32Write ⟨[], 0, 0⟩) bytes ∧
      (bytes.foldl base32Write ⟨[], 0, 0⟩).bits < 5 := by
  induction bytes using List.reverseRecOn with
  | nil => exact ⟨⟨[], rfl, .start⟩, by decide⟩
  | append_singleton bytes byte ih =>
      rw [List.foldl_append]
      exact holds_base32Write ih.1 ih.2

def base32Digits (c : Char) : Option (List Nat) :=
  if IsSeparator c then some [] else (base32Value c).map ([·])

theorem holds_base32Read {state : Pending UInt8} {digits : List Nat}
    (holds : HoldsRead state digits)
    (c : Char) :
    (base32Read state c = none ↔ base32Digits c = none) ∧
      ∀ next, base32Read state c = some next →
        ∃ more, base32Digits c = some more ∧ HoldsRead next (digits ++ more) := by
  unfold base32Read base32Digits
  by_cases separator : IsSeparator c
  · rw [if_pos separator, if_pos separator]
    refine ⟨iff_of_false nofun nofun, fun next passed => ⟨[], rfl, ?_⟩⟩
    rw [List.append_nil, ← Option.some.inj passed]
    exact holds
  · rw [if_neg separator, if_neg separator]
    cases found : base32Value c with
    | none => exact ⟨iff_of_true rfl rfl, nofun⟩
    | some value =>
        refine ⟨iff_of_false nofun nofun, fun next taken => ⟨[value], rfl, ?_⟩⟩
        obtain ⟨account, few⟩ := holds
        have small : value < 2 ^ 5 := (base32Digit_of_base32Value found).1
        have word : (UInt32.ofNat value).toNat = value := by
          rw [UInt32.toNat_ofNat', Nat.mod_eq_of_lt (small.trans (by decide))]
        have shifted : held (state.buffer <<< 5 ||| UInt32.ofNat value) (state.bits + 5) =
            held state.buffer state.bits * 2 ^ 5 + value := by
          have step := @held_shiftIn state.buffer state.bits 5 (UInt32.ofNat value) (by omega)
            (by omega) (by rwa [word])
          rwa [word] at step
        have taken_ := account.shiftIn small
        rw [← shifted] at taken_
        rw [Option.map_some] at taken
        cases Option.some.inj taken
        dsimp only
        split
        · next full =>
            obtain ⟨rest, many⟩ := Nat.exists_eq_add_of_le' full
            rw [many] at taken_ ⊢
            rw [Nat.add_sub_cancel]
            have emitted := taken_.shiftOut
            rw [held_div (by omega), held_mod] at emitted
            refine ⟨?_, by dsimp only; omega⟩
            rw [List.map_append, List.map_singleton, UInt32.toNat_toUInt8]
            exact emitted
        · next short => exact ⟨taken_, Nat.not_le.mp short⟩

def base32Reading (text : List Char) : Option (List Nat) :=
  (text.mapM base32Digits).map List.flatten

theorem holds_foldlM_base32Read (text : List Char) {state : Pending UInt8} {digits : List Nat}
    (holds : HoldsRead state digits) :
    (text.foldlM base32Read state = none ↔ base32Reading text = none) ∧
      ∀ final, text.foldlM base32Read state = some final →
        ∃ more, base32Reading text = some more ∧ HoldsRead final (digits ++ more) := by
  induction text generalizing state digits with
  | nil =>
      refine ⟨iff_of_false nofun nofun, fun final done => ⟨[], rfl, ?_⟩⟩
      rw [List.append_nil, ← Option.some.inj done]
      exact holds
  | cons c rest ih =>
      obtain ⟨fails, takes⟩ := holds_base32Read holds c
      have reading : base32Reading (c :: rest) =
          (base32Digits c).bind fun front => (base32Reading rest).map (front ++ ·) := by
        unfold base32Reading
        rw [List.mapM_cons]
        cases base32Digits c with
        | none => rfl
        | some front => cases rest.mapM base32Digits <;> rfl
      rw [List.foldlM_cons, reading]
      cases taken : base32Read state c with
      | none =>
          rw [fails.mp taken]
          exact ⟨iff_of_true rfl rfl, nofun⟩
      | some next =>
          obtain ⟨front, found, held_⟩ := takes next taken
          obtain ⟨failsRest, takesRest⟩ := ih held_
          rw [found]
          refine ⟨failsRest.trans Option.map_eq_none_iff.symm, fun final done => ?_⟩
          obtain ⟨more, read, holdsFinal⟩ := takesRest final done
          refine ⟨front ++ more, congrArg (Option.map (front ++ ·)) read, ?_⟩
          rwa [← List.append_assoc]

theorem holdsRead_start : HoldsRead ⟨[], 0, 0⟩ [] := ⟨.start, by decide⟩

theorem base32Decode_eq_some_iff {text : String} {bytes : List UInt8} :
    base32Decode text = some bytes ↔ ∃ digits, base32Reading text.toList = some digits ∧
      ∃ bits rest, Accounts 5 8 digits (bytes.map UInt8.toNat) bits rest ∧ bits < 8 := by
  obtain ⟨fails, takes⟩ := holds_foldlM_base32Read text.toList holdsRead_start
  rw [base32Decode_eq]
  constructor
  · intro decoded
    obtain ⟨final, done, rfl⟩ := Option.map_eq_some_iff.mp decoded
    obtain ⟨digits, read, account, few⟩ := takes final done
    exact ⟨digits, read, _, _, account, few⟩
  · rintro ⟨digits, read, bits, rest, account, few⟩
    cases done : text.toList.foldlM base32Read ⟨[], 0, 0⟩ with
    | none =>
        rw [fails.mp done] at read
        cases read
    | some final =>
        obtain ⟨digits', read', account', few'⟩ := takes final done
        cases Option.some.inj (read.symm.trans read')
        have same := (account'.unique few' account few).1
        have written : final.out = bytes :=
          List.map_injective_iff.mpr (fun _ _ => UInt8.toNat_inj.mp) same
        rw [← written]
        rfl

theorem base32Decode_eq_none_iff {text : String} :
    base32Decode text = none ↔ base32Reading text.toList = none := by
  rw [base32Decode_eq, Option.map_eq_none_iff]
  exact (holds_foldlM_base32Read text.toList holdsRead_start).1

/-! ### The two loops together -/

theorem mem_digits_lt (bytes : List UInt8) : ∀ digit ∈ bytes.map UInt8.toNat, digit < 2 ^ 8 := by
  intro digit member
  obtain ⟨byte, -, rfl⟩ := List.mem_map.mp member
  exact byte.toNat_lt

theorem exists_base32Encode (bytes : List UInt8) :
    ∃ digits fill, (base32Encode bytes).toList = digits.map base32Digit ∧
      (∀ digit ∈ digits, digit < 32) ∧ fill < 5 ∧
      Accounts 5 8 digits (bytes.map UInt8.toNat) fill 0 := by
  obtain ⟨⟨digits, out, account⟩, few⟩ := holds_foldl_base32Write bytes
  rw [base32Encode_eq, String.toList_ofList]
  unfold base32Finish
  generalize bytes.foldl base32Write ⟨[], 0, 0⟩ = state at out account few ⊢
  split
  · next some_ =>
      obtain ⟨fill, whole⟩ := Nat.exists_eq_add_of_le few.le
      have low : held state.buffer state.bits * 2 ^ fill < 2 ^ 5 := by
        rw [whole, Nat.pow_add]
        exact Nat.mul_lt_mul_of_pos_right account.held_lt (Nat.two_pow_pos fill)
      have last : (state.buffer <<< UInt32.ofNat (5 - state.bits) &&& 0x1f).toNat =
          held state.buffer state.bits * 2 ^ fill := by
        have zero : (0 : UInt32).toNat < 2 ^ fill := Nat.two_pow_pos fill
        have shifted := @held_shiftIn state.buffer state.bits fill 0 (by omega) (by omega) zero
        rw [UInt32.or_zero, ← whole, UInt32.toNat_zero, Nat.add_zero] at shifted
        rw [toNat_and_31, show 5 - state.bits = fill by omega]
        exact shifted
      refine ⟨digits ++ [held state.buffer state.bits * 2 ^ fill], fill, ?_, ?_, by omega,
        account.filled whole.symm (mem_digits_lt bytes)⟩
      · rw [out, last, List.map_append, List.map_singleton]
      · intro digit member
        rcases List.mem_append.mp member with earlier | added
        · exact account.written_lt digit earlier
        · exact List.mem_singleton.mp added ▸ low
  · next none_ =>
      have zero : state.bits = 0 := Nat.eq_zero_of_not_pos none_
      rw [zero] at account
      exact ⟨digits, 0, out, account.written_lt, by omega, account.exact (mem_digits_lt bytes)⟩

theorem base32Reading_map {digits : List Nat} (small : ∀ digit ∈ digits, digit < 32) :
    base32Reading (digits.map base32Digit) = some digits := by
  unfold base32Reading
  induction digits with
  | nil => rfl
  | cons digit rest ih =>
      obtain ⟨value, letter⟩ := base32Value_base32Digit digit (small digit List.mem_cons_self)
      have later := ih fun other member => small other (List.mem_cons_of_mem _ member)
      have first : base32Digits (base32Digit digit) = some [digit] := by
        unfold base32Digits
        rw [if_neg letter, value, Option.map_some]
      obtain ⟨lists, read, flat⟩ := Option.map_eq_some_iff.mp later
      rw [List.map_cons, List.mapM_cons, first, read]
      exact congrArg (some <| digit :: ·) flat

theorem base32Decode_base32Encode (bytes : List UInt8) :
    base32Decode (base32Encode bytes) = some bytes := by
  obtain ⟨digits, fill, text, small, few, account⟩ := exists_base32Encode bytes
  refine base32Decode_eq_some_iff.mpr ⟨digits, ?_, fill, 0, account, by omega⟩
  rw [text, base32Reading_map small]

/-- A text without what the decoder passes over, its letters in upper case. -/
def plainText (text : String) : List Char :=
  (text.toList.filter fun c => ¬IsSeparator c).map Char.toUpper

theorem base32Reading_eq (text : String) :
    base32Reading text.toList =
      (plainText text).mapM fun letter => base32Alphabet.findIdx? (· = letter) := by
  unfold base32Reading plainText
  induction text.toList with
  | nil => rfl
  | cons c rest ih =>
      rw [List.mapM_cons]
      by_cases separator : IsSeparator c
      · rw [List.filter_cons_of_neg (by simpa using separator), ← ih]
        have none_ : base32Digits c = some [] := if_pos separator
        rw [none_]
        cases rest.mapM base32Digits <;> rfl
      · rw [List.filter_cons_of_pos (by simpa using separator), List.map_cons, List.mapM_cons, ← ih]
        have one : base32Digits c = (base32Value c).map ([·]) := if_neg separator
        rw [one, base32Value]
        cases base32Alphabet.findIdx? (· = c.toUpper) with
        | none => rfl
        | some value => cases rest.mapM base32Digits <;> rfl

theorem base32Decode_congr {first second : String} (same : plainText first = plainText second) :
    base32Decode first = base32Decode second := by
  have readings : base32Reading first.toList = base32Reading second.toList := by
    rw [base32Reading_eq, base32Reading_eq, same]
  refine Option.ext fun bytes => ?_
  rw [base32Decode_eq_some_iff, base32Decode_eq_some_iff, readings]

theorem base32Digits_eq_none_iff {c : Char} :
    base32Digits c = none ↔ ¬IsSeparator c ∧ c.toUpper ∉ base32Alphabet := by
  unfold base32Digits
  by_cases separator : IsSeparator c
  · rw [if_pos separator]
    exact iff_of_false nofun fun both => both.1 separator
  · rw [if_neg separator, Option.map_eq_none_iff, base32Value_eq_none_iff]
    exact (and_iff_right separator).symm

theorem base32Reading_eq_none_iff {text : List Char} :
    base32Reading text = none ↔ ∃ c ∈ text, ¬IsSeparator c ∧ c.toUpper ∉ base32Alphabet := by
  unfold base32Reading
  rw [Option.map_eq_none_iff]
  induction text with
  | nil => simp
  | cons c rest ih =>
      rw [List.exists_mem_cons_iff, ← ih, ← base32Digits_eq_none_iff, List.mapM_cons]
      cases base32Digits c with
      | none => exact iff_of_true rfl (.inl rfl)
      | some front => cases rest.mapM base32Digits <;> simp

/-- The length and the last bits of a text are those of an encoding. -/
def Canonical (text : List Char) : Prop :=
  5 * text.length % 8 < 5 ∧ ∀ c ∈ text.getLast?, ∀ value ∈ base32Value c,
    value % 2 ^ (5 * text.length % 8) = 0

theorem base32Reading_of_plain {text : List Char} {digits : List Nat}
    (plain : ∀ c ∈ text, ¬IsSeparator c) (read : base32Reading text = some digits) :
    digits.length = text.length ∧ digits.map base32Digit = text.map Char.toUpper ∧
      (∀ digit ∈ digits, digit < 32) ∧
      ∀ place : Nat, digits[place]? = text[place]?.bind base32Value := by
  have values : List.Forall₂ (fun c digit => base32Value c = some digit) text digits := by
    unfold base32Reading at read
    induction text generalizing digits with
    | nil =>
        cases Option.some.inj read
        exact .nil
    | cons c rest ih =>
        have one : base32Digits c = (base32Value c).map ([·]) :=
          if_neg (plain c List.mem_cons_self)
        rw [List.mapM_cons, one] at read
        cases value : base32Value c with
        | none =>
            rw [value] at read
            cases read
        | some digit =>
            rw [value] at read
            cases later : rest.mapM base32Digits with
            | none =>
                rw [later] at read
                cases read
            | some lists =>
                rw [later] at read
                cases Option.some.inj read
                exact .cons value (ih (fun other member =>
                  plain other (List.mem_cons_of_mem _ member)) (congrArg _ later))
  clear read plain
  induction values with
  | nil => exact ⟨rfl, rfl, nofun, fun _ => rfl⟩
  | @cons c digit text digits value rest ih =>
      obtain ⟨long, letters, small, places⟩ := ih
      obtain ⟨bound, letter⟩ := base32Digit_of_base32Value value
      refine ⟨congrArg Nat.succ long, ?_, List.forall_mem_cons.mpr ⟨bound, small⟩, ?_⟩
      · rw [List.map_cons, List.map_cons, letter, letters]
      · intro place
        cases place with
        | zero => exact value.symm
        | succ place => exact places place

theorem digits_eq_of_map {first second : List Nat} (small : ∀ digit ∈ first, digit < 32)
    (small' : ∀ digit ∈ second, digit < 32)
    (same : first.map base32Digit = second.map base32Digit) : first = second := by
  have readings := congrArg base32Reading same
  rw [base32Reading_map small, base32Reading_map small'] at readings
  exact Option.some.inj readings

theorem base32Encode_base32Decode_iff {text : String} {bytes : List UInt8}
    (plain : ∀ c ∈ text.toList, ¬IsSeparator c) (decoded : base32Decode text = some bytes) :
    (base32Encode bytes).toList = text.toList.map Char.toUpper ↔ Canonical text.toList := by
  obtain ⟨digits, read, bits, rest, account, few⟩ := base32Decode_eq_some_iff.mp decoded
  obtain ⟨digits', fill, encoded, small', few', account'⟩ := exists_base32Encode bytes
  obtain ⟨long, letters, small, places⟩ := base32Reading_of_plain plain read
  have bitsLeft : 5 * text.toList.length % 8 = bits := by
    rw [← long, account.length, Nat.mul_add_mod, Nat.mod_eq_of_lt few]
  have lastPlace : digits.getLast? = text.toList.getLast?.bind base32Value := by
    rw [List.getLast?_eq_getElem?, List.getLast?_eq_getElem?, long]
    exact places _
  have lastBits : (∀ c ∈ text.toList.getLast?, ∀ value ∈ base32Value c, value % 2 ^ bits = 0) ↔
      ∀ value ∈ digits.getLast?, value % 2 ^ bits = 0 := by
    rw [lastPlace]
    simp only [Option.mem_def, Option.bind_eq_some_iff]
    exact ⟨fun all value ⟨c, last, found⟩ => all c last value found,
      fun all c last value found => all value ⟨c, last, found⟩⟩
  have heldBack : bits ≤ 5 → (rest = 0 ↔ ∀ value ∈ digits.getLast?, value % 2 ^ bits = 0) := by
    intro short
    cases digits using List.reverseRecOn with
    | nil =>
        refine iff_of_true ?_ nofun
        have none_ := account.value
        rw [number_nil] at none_
        omega
    | append_singleton front last =>
        rw [account.held_eq short, List.getLast?_concat]
        simp only [Option.mem_def, Option.some.injEq, forall_eq']
  unfold Canonical
  rw [bitsLeft, lastBits, encoded, ← letters]
  constructor
  · intro same
    cases digits_eq_of_map small' small same
    obtain ⟨-, sameBits, none_⟩ := account.unique few account' (by omega)
    have short : bits < 5 := sameBits ▸ few'
    exact ⟨short, (heldBack short.le).mp none_⟩
  · rintro ⟨short, zeros⟩
    cases (heldBack short.le).mpr zeros
    have lengths : 5 * digits.length + fill = 5 * digits'.length + bits := by
      have first := account.length
      have second := account'.length
      omega
    have sameBits : bits = fill := by omega
    subst sameBits
    have values : number 5 digits' = number 5 digits := account'.value.trans account.value.symm
    rw [number_injective (by decide) (by omega) small' small values]

/-- **Base32 secrets**: bytes are read back; a text is decoded by its plain text alone, and is not
just where some other character of it is outside the alphabet; a text without separators is the
encoding of what it is decoded to just where its length and its last bits are canonical; and both
loops have all that they took either written or in the low bits of the buffer. -/
theorem base32_secrets :
    (∀ bytes, base32Decode (base32Encode bytes) = some bytes) ∧
    (∀ first second : String, plainText first = plainText second →
      base32Decode first = base32Decode second) ∧
    (∀ text, base32Decode text = none ↔
      ∃ c ∈ text.toList, ¬IsSeparator c ∧ c.toUpper ∉ base32Alphabet) ∧
    (∀ (text : String) (bytes : List UInt8), (∀ c ∈ text.toList, ¬IsSeparator c) →
      base32Decode text = some bytes →
        ((base32Encode bytes).toList = text.toList.map Char.toUpper ↔ Canonical text.toList)) ∧
    (∀ bytes, HoldsWritten (bytes.foldl base32Write ⟨[], 0, 0⟩) bytes ∧
      (bytes.foldl base32Write ⟨[], 0, 0⟩).bits < 5) ∧
    ∀ text : List Char, ∀ final, text.foldlM base32Read ⟨[], 0, 0⟩ = some final →
      ∃ digits, base32Reading text = some digits ∧ HoldsRead final digits := by
  refine ⟨base32Decode_base32Encode, fun first second => base32Decode_congr, fun text => ?_,
    fun text bytes => base32Encode_base32Decode_iff, holds_foldl_base32Write,
    fun text => (holds_foldlM_base32Read text holdsRead_start).2⟩
  rw [base32Decode_eq_none_iff, base32Reading_eq_none_iff]

end Chancela.Totp
