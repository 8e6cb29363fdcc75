import Chancela.Pades.Pdf
import Chancela.Pades.Reader

/-! # Objects written and read back

What the writer writes of an object is read back as that object, in full and no further, but for
the carriage returns of literal strings: the writer leaves them as they are, and a reader takes
each, with the line feed behind it, for a line feed
(`Chancela.Pades.read_writeObject_iff`).
-/

namespace Chancela.Pades

open Lopdf Decimal Reader Pdf

/-! ### Tokens -/

def Ended (rest : List UInt8) : Prop := ∀ byte ∈ rest.head?, isRegular byte = false

/-- A text that does not go on with the keyword of a reference. -/
def Unreferenced (rest : List UInt8) : Prop := (skipBlanks rest).takeWhile isRegular ≠ [82]

/-- A text that can stand behind an object. -/
structure Follows (rest : List UInt8) : Prop where
  ended : Ended rest
  unreferenced : Unreferenced rest
  unnumbered : readReferenceTail rest = none

def Opens (byte : UInt8) : Prop := isPdfWhitespace byte = false ∧ byte ≠ 37

section Tokens

variable {token rest : List UInt8} {byte : UInt8}

theorem ended_blank : Ended (32 :: rest) := by
  intro byte head
  obtain rfl := Option.some.inj head
  rfl

theorem takeWhile_token (regular : ∀ byte ∈ token, isRegular byte = true) (ended : Ended rest) :
    (token ++ rest).takeWhile isRegular = token := by
  rw [List.takeWhile_append_of_pos regular]
  cases rest with
  | nil => exact List.append_nil token
  | cons byte rest =>
      rw [List.takeWhile_cons_of_neg, List.append_nil]
      rw [ended byte rfl]
      exact Bool.false_ne_true

theorem dropWhile_token (regular : ∀ byte ∈ token, isRegular byte = true) (ended : Ended rest) :
    (token ++ rest).dropWhile isRegular = rest := by
  rw [List.dropWhile_append_of_pos regular]
  cases rest with
  | nil => rfl
  | cons byte rest =>
      rw [List.dropWhile_cons_of_neg]
      rw [ended byte rfl]
      exact Bool.false_ne_true

theorem skipBlanks_of_opens (opens : Opens byte) : skipBlanks (byte :: rest) = byte :: rest := by
  unfold skipBlanks
  rw [skipFrom, if_neg, if_neg opens.2]
  rw [opens.1]
  exact Bool.false_ne_true

theorem skipBlanks_blank : skipBlanks (32 :: rest) = skipBlanks rest := rfl

theorem readObject_blank (fuel : Nat) : readObject fuel (32 :: rest) = readObject fuel rest := by
  cases fuel with
  | zero => rw [readObject, readObject]
  | succ fuel => rw [readObject, readObject, skipBlanks_blank]

theorem readItems_blank (fuel : Nat) : readItems fuel (32 :: rest) = readItems fuel rest := by
  cases fuel with
  | zero => rw [readItems, readItems]
  | succ fuel =>
      rw [readItems, readItems, skipBlanks_blank, readObject_blank]

theorem opens_of_regular (regular : isRegular byte = true) : Opens byte := by
  unfold isRegular at regular
  obtain ⟨inked, plain⟩ := Bool.and_eq_true_iff.mp regular
  refine ⟨by simpa using inked, ?_⟩
  intro comment
  subst comment
  cases plain

theorem isDelimiter_of_regular (regular : isRegular byte = true) : isDelimiter byte = false := by
  unfold isRegular at regular
  simpa using (Bool.and_eq_true_iff.mp regular).2

theorem ne_of_regular {other : UInt8} (regular : isRegular byte = true)
    (delimiter : isDelimiter other = true) : byte ≠ other := by
  intro same
  subst same
  rw [isDelimiter_of_regular regular] at delimiter
  cases delimiter

theorem follows_delimiter (delimiter : isDelimiter byte = true) (comment : byte ≠ 37) :
    Follows (byte :: rest) ∧ Follows (32 :: byte :: rest) := by
  have irregular : ¬isRegular byte = true := fun regular => by
    rw [isDelimiter_of_regular regular] at delimiter
    cases delimiter
  have inked : isPdfWhitespace byte = false := by
    unfold isDelimiter at delimiter
    simp only [List.mem_cons, List.not_mem_nil, or_false, decide_eq_true_eq] at delimiter
    rcases delimiter with rfl | rfl | rfl | rfl | rfl | rfl | rfl | rfl | rfl | rfl <;> rfl
  have skipped : skipBlanks (byte :: rest) = byte :: rest := skipBlanks_of_opens ⟨inked, comment⟩
  have nothing : (byte :: rest).takeWhile isRegular = [] := List.takeWhile_cons_of_neg irregular
  have unreferenced : Unreferenced (byte :: rest) := by
    unfold Unreferenced
    rw [skipped, nothing]
    exact (List.cons_ne_nil _ _).symm
  have unnumbered : readReferenceTail (byte :: rest) = none := by
    unfold readReferenceTail
    rw [skipped, nothing]
    rfl
  refine ⟨⟨?_, unreferenced, unnumbered⟩, ended_blank, unreferenced, unnumbered⟩
  intro first head
  obtain rfl := Option.some.inj head
  exact Bool.eq_false_of_not_eq_true irregular

theorem follows_bracket : Follows (93 :: rest) :=
  (follows_delimiter (show isDelimiter 93 = true from rfl) nofun).1

theorem follows_nil : Follows [] where
  ended _ head := nomatch head
  unreferenced := (List.cons_ne_nil _ _).symm
  unnumbered := rfl

theorem skipBlanks_token (regular : ∀ byte ∈ token, isRegular byte = true) (nonempty : token ≠ []) :
    skipBlanks (32 :: (token ++ rest)) = token ++ rest := by
  obtain ⟨byte, others, rfl⟩ := List.exists_cons_of_ne_nil nonempty
  exact skipBlanks_of_opens (opens_of_regular (regular byte List.mem_cons_self))

theorem unreferenced_token (regular : ∀ byte ∈ token, isRegular byte = true) (nonempty : token ≠ [])
    (keyword : token ≠ [82]) (ended : Ended rest) : Unreferenced (32 :: (token ++ rest)) := by
  unfold Unreferenced
  rw [skipBlanks_token regular nonempty, takeWhile_token regular ended]
  exact keyword

theorem follows_token (regular : ∀ byte ∈ token, isRegular byte = true) (nonempty : token ≠ [])
    (keyword : token ≠ [82]) (ended : Ended rest)
    (unreferenced : readNatural token ≠ none → Unreferenced rest) :
    Follows (32 :: (token ++ rest)) := by
  refine ⟨ended_blank, unreferenced_token regular nonempty keyword ended, ?_⟩
  unfold readReferenceTail
  rw [skipBlanks_token regular nonempty, takeWhile_token regular ended,
    dropWhile_token regular ended]
  cases read : readNatural token with
  | none => rfl
  | some generation =>
      dsimp only [Option.bind_eq_bind, Option.bind_some]
      rw [if_neg]
      exact unreferenced (by rw [read]; exact Option.some_ne_none generation)

theorem isRegular_of_isDigit (digit : isDigit byte = true) : isRegular byte = true := by
  unfold isDigit at digit
  obtain ⟨low, high⟩ := Bool.and_eq_true_iff.mp digit
  have lower : 48 ≤ byte.toNat := UInt8.le_iff_toNat_le.mp (of_decide_eq_true low)
  have upper : byte.toNat ≤ 57 := UInt8.le_iff_toNat_le.mp (of_decide_eq_true high)
  have each : ∀ digit : Fin 10, isRegular (UInt8.ofNat (48 + digit)) = true := by decide
  have found := each ⟨byte.toNat - 48, by omega⟩
  rw [Nat.add_sub_cancel' lower, UInt8.ofNat_toNat] at found
  exact found

end Tokens

/-! ### Numbers -/

section Numbers

variable {rest : List UInt8}

theorem readNatural_decimal (number : Nat) : readNatural (decimal number) = some number := by
  obtain ⟨nonempty, digits, valued⟩ := numeral_decimal number
  unfold readNatural
  rw [if_pos ⟨nonempty, List.all_eq_true.mpr digits⟩, valued]

theorem decimal_regular (number : Nat) : ∀ byte ∈ decimal number, isRegular byte = true :=
  fun byte member => isRegular_of_isDigit ((numeral_decimal number).digits byte member)

theorem decimal_ne {token : List UInt8} (number : Nat) (undigit : token.head?.any isDigit = false) :
    decimal number ≠ token := by
  intro same
  obtain ⟨nonempty, digits, -⟩ := numeral_decimal number
  obtain ⟨byte, others, shape⟩ := List.exists_cons_of_ne_nil nonempty
  rw [← same, shape] at undigit
  rw [List.head?_cons, Option.any_some, digits byte (by rw [shape]; exact List.mem_cons_self)]
    at undigit
  cases undigit

theorem displayInt_regular (number : Int) : ∀ byte ∈ displayInt number, isRegular byte = true := by
  unfold displayInt
  split
  · intro byte member
    obtain rfl | digit := List.mem_cons.mp member
    · rfl
    · exact decimal_regular _ byte digit
  · exact decimal_regular _

theorem displayInt_ne {token : List UInt8} (number : Int)
    (undigit : token.head?.any isDigit = false) (unsigned : token.head? ≠ some 45) :
    displayInt number ≠ token := by
  unfold displayInt
  split
  · intro same
    rw [← same] at unsigned
    exact unsigned rfl
  · exact decimal_ne _ undigit

theorem readInteger_displayInt (number : Int) : readInteger (displayInt number) = some number := by
  unfold displayInt readInteger
  split
  · next negative =>
      rw [if_pos List.head?_cons, List.tail_cons, readNatural_decimal, Option.map_some,
        Int.ofNat_natAbs_of_nonpos negative.le, Int.neg_neg]
  · next positive =>
      have unheaded : ∀ byte, isDigit byte = false → (decimal number.natAbs).head? ≠ some byte := by
        intro byte undigit head
        have member := List.mem_of_mem_head? head
        exact notMem_of_digits (numeral_decimal _).digits undigit member
      rw [if_neg (unheaded 45 rfl), if_neg (unheaded 43 rfl), readNatural_decimal, Option.map_some]
      exact congrArg some (Int.natAbs_of_nonneg (Int.not_lt.mp positive))

theorem readWord_token {token : List UInt8} (regular : ∀ byte ∈ token, isRegular byte = true)
    (ended : Ended rest) (null : token ≠ Text.utf8 "null") (yes : token ≠ Text.utf8 "true")
    (no : token ≠ Text.utf8 "false") : readWord (token ++ rest) = readNumber token rest := by
  unfold readWord
  rw [takeWhile_token regular ended, dropWhile_token regular ended]
  dsimp only
  rw [if_neg null, if_neg yes, if_neg no]

theorem readWord_displayInt (number : Int) (follows : Follows rest) :
    readWord (displayInt number ++ rest) = some (.integer number, rest) := by
  rw [readWord_token (displayInt_regular number) follows.ended (displayInt_ne number rfl nofun)
    (displayInt_ne number rfl nofun) (displayInt_ne number rfl nofun)]
  unfold readNumber
  rw [readInteger_displayInt, follows.unnumbered]
  cases readNatural (displayInt number) <;> rfl

theorem readReferenceTail_written (generation : Nat) (ended : Ended rest) :
    readReferenceTail (32 :: (decimal generation ++ Text.utf8 " R") ++ rest) =
      some (generation, rest) := by
  obtain ⟨nonempty, -, -⟩ := numeral_decimal generation
  have shape : 32 :: (decimal generation ++ Text.utf8 " R") ++ rest =
      32 :: (decimal generation ++ 32 :: 82 :: rest) := by
    rw [List.cons_append, List.append_assoc]
    rfl
  have keyword : skipBlanks (32 :: 82 :: rest) = [82] ++ rest := by
    rw [skipBlanks_blank]
    exact skipBlanks_of_opens (opens_of_regular rfl)
  have single : ∀ byte ∈ [(82 : UInt8)], isRegular byte = true := by
    intro byte member
    rw [List.mem_singleton.mp member]
    rfl
  unfold readReferenceTail
  rw [shape, skipBlanks_token (decimal_regular generation) nonempty,
    takeWhile_token (decimal_regular generation) ended_blank,
    dropWhile_token (decimal_regular generation) ended_blank, keyword, readNatural_decimal]
  dsimp only [Option.bind_eq_bind, Option.bind_some]
  rw [takeWhile_token single ended, dropWhile_token single ended, if_pos rfl]

theorem readWord_reference (id : ObjectId) (ended : Ended rest) :
    readWord (decimal id.1.toNat ++ 32 :: (decimal id.2.toNat ++ Text.utf8 " R") ++ rest) =
      some (.reference id, rest) := by
  have integer : readInteger (decimal id.1.toNat) = some (id.1.toNat : Int) :=
    readInteger_displayInt (id.1.toNat : Int)
  rw [List.append_assoc, List.cons_append, readWord_token (decimal_regular _) ended_blank
    (decimal_ne _ rfl) (decimal_ne _ rfl) (decimal_ne _ rfl), ← List.cons_append]
  unfold readNumber
  rw [integer, readNatural_decimal, readReferenceTail_written _ ended]
  dsimp only [Option.bind_eq_bind, Option.bind_some]
  rw [if_pos ⟨id.1.toNat_lt, id.2.toNat_lt⟩, UInt32.ofNat_toNat, UInt16.ofNat_toNat]
  rfl

end Numbers

/-! ### Names and strings -/

section Names

variable {rest : List UInt8}

theorem hexValue_hexDigit {nibble : Nat} (small : nibble < 16) :
    hexValue (hexDigit nibble) = some (UInt8.ofNat nibble) := by
  have each : ∀ nibble : Fin 16, hexValue (hexDigit nibble) = some (UInt8.ofNat nibble) := by
    decide
  exact each ⟨nibble, small⟩

theorem isRegular_hexDigit {nibble : Nat} (small : nibble < 16) :
    isRegular (hexDigit nibble) = true ∧ isPdfWhitespace (hexDigit nibble) = false ∧
      hexDigit nibble ≠ 60 ∧ hexDigit nibble ≠ 62 := by
  have each : ∀ nibble : Fin 16, isRegular (hexDigit nibble) = true ∧
      isPdfWhitespace (hexDigit nibble) = false ∧ hexDigit nibble ≠ 60 ∧ hexDigit nibble ≠ 62 := by
    decide
  exact each ⟨nibble, small⟩

theorem nibbles (byte : UInt8) :
    UInt8.ofNat (byte.toNat / 16) <<< 4 ||| UInt8.ofNat (byte.toNat % 16) = byte := by
  apply UInt8.toNat_inj.mp
  have small := byte.toNat_lt
  have high : (byte.toNat / 16) <<< ((4 : UInt8).toNat % 8) % 2 ^ 8 =
      2 ^ 4 * (byte.toNat / 16) := by
    rw [Nat.shiftLeft_eq]
    change byte.toNat / 16 * 2 ^ 4 % 2 ^ 8 = _
    omega
  rw [UInt8.toNat_or, UInt8.toNat_shiftLeft,
    UInt8.toNat_ofNat_of_lt' (show _ < 256 by omega),
    UInt8.toNat_ofNat_of_lt' (show _ < 256 by omega), high,
    ← Nat.two_pow_add_eq_or_of_lt (by omega)]
  exact Nat.div_add_mod byte.toNat 16

def nameByte (byte : UInt8) : List UInt8 :=
  if isAsciiGraphic byte && byte ∉ Text.utf8 "()<>[]\x7b\x7d/%#" then [byte]
  else [35, hexDigit (byte.toNat / 16), hexDigit (byte.toNat % 16)]

theorem nameByte_regular (byte : UInt8) : ∀ written ∈ nameByte byte, isRegular written = true := by
  have upper : byte.toNat / 16 < 16 := Nat.div_lt_of_lt_mul byte.toNat_lt
  have lower : byte.toNat % 16 < 16 := Nat.mod_lt _ (by omega)
  unfold nameByte
  split
  · next unescaped =>
      obtain ⟨graphic, free⟩ := Bool.and_eq_true_iff.mp unescaped
      have listed : Text.utf8 "()<>[]\x7b\x7d/%#" =
          [40, 41, 60, 62, 91, 93, 123, 125, 47, 37, 35] := rfl
      have undelimited := of_decide_eq_true free
      rw [listed] at undelimited
      intro written member
      rw [List.mem_singleton.mp member]
      unfold isRegular
      rw [Bool.and_eq_true, Bool.not_eq_true', Bool.not_eq_true']
      constructor
      · by_contra blank
        have blank := of_decide_eq_true (Bool.eq_true_of_not_eq_false blank)
        simp only [List.mem_cons, List.not_mem_nil, or_false] at blank
        rcases blank with rfl | rfl | rfl | rfl | rfl | rfl <;> cases graphic
      · by_contra delimiter
        have delimiter := of_decide_eq_true (Bool.eq_true_of_not_eq_false delimiter)
        simp only [List.mem_cons, List.not_mem_nil, or_false] at delimiter undelimited
        tauto
  · intro written member
    obtain rfl | others := List.mem_cons.mp member
    · rfl
    obtain rfl | others := List.mem_cons.mp others
    · exact (isRegular_hexDigit upper).1
    · rw [List.mem_singleton.mp others]
      exact (isRegular_hexDigit lower).1

theorem decodeName_plain {byte : UInt8} (unhashed : byte ≠ 35) (others : List UInt8) :
    decodeName (byte :: others) = (decodeName others).map (byte :: ·) := by
  rw [decodeName.eq_def]
  dsimp only
  rw [if_neg unhashed]
  rfl

theorem decodeName_nameByte (byte : UInt8) (others : List UInt8) :
    decodeName (nameByte byte ++ others) = (decodeName others).map (byte :: ·) := by
  have upper : byte.toNat / 16 < 16 := Nat.div_lt_of_lt_mul byte.toNat_lt
  have lower : byte.toNat % 16 < 16 := Nat.mod_lt _ (by omega)
  unfold nameByte
  split
  · next unescaped =>
      obtain ⟨graphic, free⟩ := Bool.and_eq_true_iff.mp unescaped
      have undelimited := of_decide_eq_true free
      have unhashed : byte ≠ 35 := by
        intro hash
        subst hash
        exact undelimited (by decide)
      rw [List.singleton_append, decodeName_plain unhashed]
  · rw [List.cons_append, List.cons_append, List.singleton_append, decodeName, if_pos rfl,
      hexValue_hexDigit upper, hexValue_hexDigit lower]
    dsimp only [Option.bind_eq_bind, Option.bind_some]
    rw [nibbles]
    cases decodeName others <;> rfl

theorem decodeName_written (name : List UInt8) :
    decodeName (name.flatMap nameByte) = some name := by
  induction name with
  | nil => rfl
  | cons byte name ih => rw [List.flatMap_cons, decodeName_nameByte, ih, Option.map_some]

theorem readName_written (name : List UInt8) (ended : Ended rest) :
    readName (name.flatMap nameByte ++ rest) = some (name, rest) := by
  have regular : ∀ byte ∈ name.flatMap nameByte, isRegular byte = true := by
    intro written member
    obtain ⟨byte, -, inside⟩ := List.mem_flatMap.mp member
    exact nameByte_regular byte written inside
  unfold readName
  rw [takeWhile_token regular ended, dropWhile_token regular ended, decodeName_written,
    Option.map_some]

theorem hexStringValue_toHex (bytes : List UInt8) : hexStringValue (toHex bytes) = some bytes := by
  induction bytes with
  | nil => rfl
  | cons byte bytes ih =>
      have upper : byte.toNat / 16 < 16 := Nat.div_lt_of_lt_mul byte.toNat_lt
      have lower : byte.toNat % 16 < 16 := Nat.mod_lt _ (by omega)
      have shape : toHex (byte :: bytes) = hexDigit (byte.toNat / 16) ::
          hexDigit (byte.toNat % 16) :: toHex bytes := rfl
      unfold hexStringValue at ih ⊢
      obtain ⟨digits, read, paired⟩ := Option.map_eq_some_iff.mp ih
      rw [shape, List.filter_cons_of_pos (by rw [(isRegular_hexDigit upper).2.1]; rfl),
        List.filter_cons_of_pos (by rw [(isRegular_hexDigit lower).2.1]; rfl), List.mapM_cons,
        List.mapM_cons, hexValue_hexDigit upper, hexValue_hexDigit lower, read]
      dsimp only [Option.bind_eq_bind, Option.bind_some, Option.pure_def, Option.map_some]
      rw [pairUp, nibbles, paired]

theorem mem_toHex {written : UInt8} {bytes : List UInt8} (member : written ∈ toHex bytes) :
    written ≠ 60 ∧ written ≠ 62 := by
  obtain ⟨byte, -, inside⟩ := List.mem_flatMap.mp member
  have upper : byte.toNat / 16 < 16 := Nat.div_lt_of_lt_mul byte.toNat_lt
  have lower : byte.toNat % 16 < 16 := Nat.mod_lt _ (by omega)
  obtain rfl | inside := List.mem_cons.mp inside
  · exact (isRegular_hexDigit upper).2.2
  · rw [List.mem_singleton.mp inside]
    exact (isRegular_hexDigit lower).2.2

theorem readHexString_written (bytes : List UInt8) :
    readHexString (toHex bytes ++ 62 :: rest) = some (bytes, rest) := by
  have inside : ∀ byte ∈ toHex bytes, decide (byte ≠ 62) = true :=
    fun byte member => decide_eq_true (mem_toHex member).2
  unfold readHexString
  rw [List.dropWhile_append_of_pos inside, List.takeWhile_append_of_pos inside,
    List.dropWhile_cons_of_neg (by decide), List.takeWhile_cons_of_neg (by decide),
    List.append_nil]
  dsimp only
  rw [hexStringValue_toHex, Option.map_some]

/-- What a reader takes a text for: each end of line a line feed. -/
def unixEol (bytes : List UInt8) : List UInt8 :=
  match bytes with
  | [] => []
  | byte :: rest =>
      if byte = 13 then 10 :: unixEol (skipLineFeed rest) else byte :: unixEol rest
termination_by bytes.length
decreasing_by
  · exact Nat.lt_succ_of_le (length_skipLineFeed rest)
  · exact Nat.lt_succ_self _

theorem escapeLiteral_cons (byte : UInt8) (bytes : List UInt8) :
    escapeLiteral (byte :: bytes) =
      (if isEscaped byte then [92, byte] else [byte]) ++ escapeLiteral bytes := rfl

theorem skipLineFeed_escaped (bytes : List UInt8) :
    skipLineFeed (escapeLiteral bytes ++ 41 :: rest) =
      escapeLiteral (skipLineFeed bytes) ++ 41 :: rest := by
  cases bytes with
  | nil => rfl
  | cons byte bytes =>
      rw [escapeLiteral_cons]
      by_cases feed : byte = 10
      · subst feed
        rfl
      · have kept : skipLineFeed (byte :: bytes) = byte :: bytes := by
          unfold skipLineFeed
          rw [if_neg]
          exact fun head => feed (Option.some.inj head)
        rw [kept, escapeLiteral_cons]
        unfold skipLineFeed
        rw [if_neg]
        split
        · exact nofun
        · exact fun head => feed (Option.some.inj head)

theorem carriageReturn_ne : (13 : UInt8) ≠ 41 ∧ (13 : UInt8) ≠ 40 ∧ (13 : UInt8) ≠ 92 := by decide

theorem backslash_ne : (92 : UInt8) ≠ 41 ∧ (92 : UInt8) ≠ 40 := by decide

theorem readLiteral_written (bytes : List UInt8) :
    readLiteral 0 (escapeLiteral bytes ++ 41 :: rest) = some (unixEol bytes, rest) := by
  induction bytes using unixEol.induct with
  | case1 =>
      rw [unixEol]
      change readLiteral 0 (41 :: rest) = _
      rw [readLiteral, if_pos rfl, if_pos rfl]
  | case2 bytes ih =>
      rw [unixEol, if_pos rfl, escapeLiteral_cons]
      change readLiteral 0 (13 :: (escapeLiteral bytes ++ 41 :: rest)) = _
      rw [readLiteral, if_neg carriageReturn_ne.1, if_neg carriageReturn_ne.2.1,
        if_neg carriageReturn_ne.2.2, if_pos rfl, skipLineFeed_escaped, ih, Option.map_some]
  | case3 byte bytes unreturned ih =>
      rw [unixEol, if_neg unreturned, escapeLiteral_cons]
      by_cases escaped : isEscaped byte = true
      · rw [if_pos escaped]
        change readLiteral 0 (92 :: byte :: (escapeLiteral bytes ++ 41 :: rest)) = _
        have read : readEscape (byte :: (escapeLiteral bytes ++ 41 :: rest)) =
            ([byte], escapeLiteral bytes ++ 41 :: rest) := by
          have kind := of_decide_eq_true escaped
          simp only [List.mem_cons, List.not_mem_nil, or_false] at kind
          rcases kind with rfl | rfl | rfl <;> rfl
        rw [readLiteral, if_neg backslash_ne.1, if_neg backslash_ne.2, if_pos rfl, read, ih,
          Option.map_some]
        rfl
      · rw [if_neg escaped]
        change readLiteral 0 (byte :: (escapeLiteral bytes ++ 41 :: rest)) = _
        have plain : byte ≠ 40 ∧ byte ≠ 41 ∧ byte ≠ 92 := by
          have kind := mt decide_eq_true escaped
          simpa only [List.mem_cons, List.not_mem_nil, or_false, not_or] using kind
        obtain ⟨opening, closing, backslash⟩ := plain
        rw [readLiteral, if_neg closing, if_neg opening, if_neg backslash, if_neg unreturned, ih,
          Option.map_some]

end Names

/-! ### What is read back -/

mutual

/-- Neither streams nor real numbers, and dictionaries with distinct keys. -/
def Plain : Object → Prop
  | .real _ => False
  | .stream _ _ => False
  | .array items => PlainItems items
  | .dictionary entries => (entries.map Prod.fst).Nodup ∧ PlainEntries entries
  | _ => True

def PlainItems : List Object → Prop
  | [] => True
  | item :: rest => Plain item ∧ PlainItems rest

def PlainEntries : List (List UInt8 × Object) → Prop
  | [] => True
  | (_, value) :: rest => Plain value ∧ PlainEntries rest

end

mutual

/-- What a reader takes an object for: its literal strings with line feeds for ends of lines. -/
def settled : Object → Object
  | .string bytes .literal => .string (unixEol bytes) .literal
  | .array items => .array (settledItems items)
  | .dictionary entries => .dictionary (settledEntries entries)
  | obj => obj

def settledItems : List Object → List Object
  | [] => []
  | item :: rest => settled item :: settledItems rest

def settledEntries : List (List UInt8 × Object) → List (List UInt8 × Object)
  | [] => []
  | (key, value) :: rest => (key, settled value) :: settledEntries rest

end

mutual

/-- No literal string in the object holds a carriage return. -/
def Returnless : Object → Prop
  | .string bytes .literal => 13 ∉ bytes
  | .array items => ReturnlessItems items
  | .dictionary entries => ReturnlessEntries entries
  | _ => True

def ReturnlessItems : List Object → Prop
  | [] => True
  | item :: rest => Returnless item ∧ ReturnlessItems rest

def ReturnlessEntries : List (List UInt8 × Object) → Prop
  | [] => True
  | (_, value) :: rest => Returnless value ∧ ReturnlessEntries rest

end

theorem unixEol_eq_iff (bytes : List UInt8) : unixEol bytes = bytes ↔ 13 ∉ bytes := by
  induction bytes using unixEol.induct with
  | case1 => exact iff_of_true (by rw [unixEol]) List.not_mem_nil
  | case2 bytes ih =>
      rw [unixEol, if_pos rfl]
      refine iff_of_false ?_ (fun absent => absent List.mem_cons_self)
      intro same
      cases (List.cons.inj same).1
  | case3 byte bytes unreturned ih =>
      rw [unixEol, if_neg unreturned, List.mem_cons, not_or, List.cons.injEq, ih]
      exact ⟨fun same => ⟨fun returned => unreturned returned.symm, same.2⟩,
        fun free => ⟨rfl, free.2⟩⟩

mutual

/-- **The objects read back as they are** are those without a carriage return. -/
theorem settled_eq_iff : (obj : Object) → (settled obj = obj ↔ Returnless obj)
  | .null | .boolean _ | .integer _ | .real _ | .name _ | .stream _ _ | .reference _ => by
      simp only [settled, Returnless]
  | .string bytes .hexadecimal => by simp only [settled, Returnless]
  | .string bytes .literal => by
      simp only [settled, Returnless, Object.string.injEq, and_true]
      exact unixEol_eq_iff bytes
  | .array items => by
      simp only [settled, Returnless, Object.array.injEq]
      exact settledItems_eq_iff items
  | .dictionary entries => by
      simp only [settled, Returnless, Object.dictionary.injEq]
      exact settledEntries_eq_iff entries

theorem settledItems_eq_iff : (items : List Object) →
    (settledItems items = items ↔ ReturnlessItems items)
  | [] => by simp only [settledItems, ReturnlessItems]
  | item :: rest => by
      simp only [settledItems, ReturnlessItems, List.cons.injEq]
      exact and_congr (settled_eq_iff item) (settledItems_eq_iff rest)

theorem settledEntries_eq_iff : (entries : List (List UInt8 × Object)) →
    (settledEntries entries = entries ↔ ReturnlessEntries entries)
  | [] => by simp only [settledEntries, ReturnlessEntries]
  | (key, value) :: rest => by
      simp only [settledEntries, ReturnlessEntries, List.cons.injEq, Prod.mk.injEq, true_and]
      exact and_congr (settled_eq_iff value) (settledEntries_eq_iff rest)

end

theorem keys_settledEntries (entries : List (List UInt8 × Object)) :
    (settledEntries entries).map Prod.fst = entries.map Prod.fst := by
  induction entries with
  | nil => rw [settledEntries]
  | cons entry rest ih => rw [settledEntries, List.map_cons, List.map_cons, ih]

theorem collectEntries_of_distinct {entries : List (List UInt8 × Object)}
    (distinct : (entries.map Prod.fst).Nodup) : collectEntries entries = entries := by
  suffices general : ∀ dict : Dictionary, ((dict ++ entries).map Prod.fst).Nodup →
      entries.foldl (fun dict entry =>
        if dict.any (·.1 = entry.1) then
          dict.map fun old => if old.1 = entry.1 then entry else old
        else dict ++ [entry]) dict = dict ++ entries by
    exact general [] distinct
  clear distinct
  induction entries with
  | nil => exact fun dict distinct => (List.append_nil dict).symm
  | cons entry rest ih =>
      intro dict distinct
      have fresh : ¬dict.any (·.1 = entry.1) = true := by
        intro known
        obtain ⟨old, member, same⟩ := List.any_eq_true.mp known
        rw [List.map_append, List.map_cons] at distinct
        have apart := (List.nodup_append.mp distinct).2.2
        exact apart old.1 (List.mem_map_of_mem member) entry.1 List.mem_cons_self
          (of_decide_eq_true same)
      rw [List.foldl_cons, if_neg fresh, ih, List.append_assoc, List.singleton_append]
      rw [List.append_assoc, List.singleton_append]
      exact distinct

/-! ### The writer's text -/

/-- A text that reads as an object wherever another can follow it. -/
structure Legible (obj : Object) (text : List UInt8) : Prop where
  starts : ∃ byte others, text = byte :: others ∧ Opens byte ∧ byte ≠ 93
  follows : ∀ rest, Follows rest → Follows (32 :: (text ++ rest))
  reads : ∀ fuel rest, text.length ≤ fuel → Follows rest →
    readObject fuel (text ++ rest) = some (settled obj, rest)

structure LegibleItems (items : List Object) (inner : List UInt8) : Prop where
  follows : items ≠ [] → ∀ rest, Follows rest → Follows (32 :: (inner ++ rest))
  reads : ∀ fuel rest, inner.length + 1 ≤ fuel →
    readItems fuel (inner ++ 93 :: rest) = some (settledItems items, rest)

structure LegibleEntries (entries : List (List UInt8 × Object)) (inner : List UInt8) : Prop where
  follows : ∀ rest, Follows (inner ++ 32 :: 62 :: rest)
  reads : ∀ fuel rest, inner.length + 1 ≤ fuel →
    readEntries fuel (inner ++ 32 :: 62 :: 62 :: rest) = some (settledEntries entries, rest)

section Leaves

variable {obj : Object} {text : List UInt8} {byte : UInt8}

theorem legible_delimited (delimiter : isDelimiter byte = true) (comment : byte ≠ 37)
    (bracket : byte ≠ 93)
    (reads : ∀ fuel rest, text.length ≤ fuel → Follows rest →
      readObject (fuel + 1) (byte :: (text ++ rest)) = some (settled obj, rest)) :
    Legible obj (byte :: text) where
  starts := by
    refine ⟨byte, text, rfl, ⟨?_, comment⟩, bracket⟩
    unfold isDelimiter at delimiter
    simp only [List.mem_cons, List.not_mem_nil, or_false, decide_eq_true_eq] at delimiter
    rcases delimiter with rfl | rfl | rfl | rfl | rfl | rfl | rfl | rfl | rfl | rfl <;> rfl
  follows rest _ := (follows_delimiter delimiter comment).2
  reads fuel rest enough follows := by
    obtain ⟨fuel, rfl⟩ := Nat.exists_eq_succ_of_ne_zero (Nat.ne_zero_of_lt enough)
    exact reads fuel rest (Nat.le_of_succ_le_succ enough) follows

theorem readObject_word (fuel : Nat) (rest : List UInt8) (regular : isRegular byte = true) :
    readObject (fuel + 1) (byte :: rest) = readWord (byte :: rest) := by
  rw [readObject, skipBlanks_of_opens (opens_of_regular regular)]
  dsimp only
  rw [if_neg (ne_of_regular regular rfl), if_neg (ne_of_regular regular rfl),
    if_neg (ne_of_regular regular rfl), if_neg (ne_of_regular regular rfl)]

theorem legible_word (nonempty : text ≠ [])
    (opening : ∀ byte ∈ text.head?, isRegular byte = true)
    (follows : ∀ rest, Follows rest → Follows (32 :: (text ++ rest)))
    (reads : ∀ rest, Follows rest → readWord (text ++ rest) = some (settled obj, rest)) :
    Legible obj text where
  starts := by
    obtain ⟨byte, others, rfl⟩ := List.exists_cons_of_ne_nil nonempty
    have regular := opening byte rfl
    exact ⟨byte, others, rfl, opens_of_regular regular, ne_of_regular regular rfl⟩
  follows := follows
  reads fuel rest enough behind := by
    obtain ⟨byte, others, rfl⟩ := List.exists_cons_of_ne_nil nonempty
    obtain ⟨fuel, rfl⟩ := Nat.exists_eq_succ_of_ne_zero (Nat.ne_zero_of_lt enough)
    rw [List.cons_append, readObject_word fuel _ (opening byte rfl)]
    exact reads rest behind

theorem legible_keyword (regular : ∀ byte ∈ text, isRegular byte = true) (nonempty : text ≠ [])
    (keyword : text ≠ [82]) (unnumbered : readNatural text = none)
    (reads : ∀ rest, Follows rest → readWord (text ++ rest) = some (settled obj, rest)) :
    Legible obj text :=
  legible_word nonempty (fun byte head => regular byte (List.mem_of_mem_head? head))
    (fun _ follows => follows_token regular nonempty keyword follows.ended
      fun number => absurd unnumbered number) reads

theorem legible_null : Legible .null (Text.utf8 "null") := by
  have regular : ∀ byte ∈ Text.utf8 "null", isRegular byte = true := List.all_eq_true.1 rfl
  refine legible_keyword regular nofun nofun rfl ?_
  intro rest follows
  unfold readWord
  rw [takeWhile_token regular follows.ended, dropWhile_token regular follows.ended]
  rfl

theorem legible_boolean (value : Bool) :
    Legible (.boolean value) (Text.utf8 (if value then "true" else "false")) := by
  have regular : ∀ byte ∈ Text.utf8 (if value then "true" else "false"), isRegular byte = true := by
    cases value <;> exact List.all_eq_true.1 rfl
  refine legible_keyword regular ?_ ?_ ?_ ?_
  · cases value <;> exact nofun
  · cases value <;> exact nofun
  · cases value <;> rfl
  · intro rest follows
    unfold readWord
    rw [takeWhile_token regular follows.ended, dropWhile_token regular follows.ended]
    cases value <;> rfl

theorem legible_integer (number : Int) : Legible (.integer number) (displayInt number) := by
  have regular := displayInt_regular number
  have nonempty : displayInt number ≠ [] := displayInt_ne number rfl nofun
  refine legible_word nonempty (fun byte head => regular byte (List.mem_of_mem_head? head)) ?_ ?_
  · intro rest follows
    exact follows_token regular nonempty (displayInt_ne number rfl nofun) follows.ended
      fun _ => follows.unreferenced
  · intro rest follows
    exact readWord_displayInt number follows

theorem legible_reference (id : ObjectId) :
    Legible (.reference id)
      (decimal id.1.toNat ++ 32 :: (decimal id.2.toNat ++ Text.utf8 " R")) := by
  have regular := decimal_regular id.1.toNat
  have nonempty := (numeral_decimal id.1.toNat).nonempty
  refine legible_word (List.append_ne_nil_of_left_ne_nil nonempty _) ?_ ?_ ?_
  · intro byte head
    rw [List.head?_append_of_ne_nil _ nonempty] at head
    exact regular byte (List.mem_of_mem_head? head)
  · intro rest follows
    rw [List.append_assoc]
    refine follows_token regular nonempty (decimal_ne _ rfl) ended_blank fun _ => ?_
    -- The token behind the object number is the generation.
    have shape : 32 :: (decimal id.2.toNat ++ Text.utf8 " R") ++ rest =
        32 :: (decimal id.2.toNat ++ 32 :: 82 :: rest) := by
      rw [List.cons_append, List.append_assoc]
      rfl
    rw [shape]
    exact unreferenced_token (decimal_regular _) (numeral_decimal _).nonempty (decimal_ne _ rfl)
      ended_blank
  · intro rest follows
    exact readWord_reference id follows.ended

theorem legible_name (name : List UInt8) : Legible (.name name) (writeName name) := by
  apply legible_delimited (show isDelimiter 47 = true from rfl) nofun nofun
  intro fuel rest _ follows
  rw [readObject, skipBlanks_of_opens (show Opens 47 from ⟨rfl, nofun⟩)]
  dsimp only
  rw [if_pos rfl]
  change (readName (name.flatMap nameByte ++ rest)).map _ = _
  rw [readName_written name follows.ended]
  rfl

theorem legible_literal (bytes : List UInt8) :
    Legible (.string bytes .literal) (writeString bytes .literal) := by
  apply legible_delimited (show isDelimiter 40 = true from rfl) nofun nofun
  intro fuel rest _ follows
  rw [readObject, skipBlanks_of_opens (show Opens 40 from ⟨rfl, nofun⟩)]
  dsimp only
  rw [if_neg nofun, if_pos rfl, List.append_assoc, List.singleton_append, readLiteral_written]
  rfl

theorem legible_hexadecimal (bytes : List UInt8) :
    Legible (.string bytes .hexadecimal) (writeString bytes .hexadecimal) := by
  apply legible_delimited (show isDelimiter 60 = true from rfl) nofun nofun
  intro fuel rest _ follows
  have single : (toHex bytes ++ [62] ++ rest).head? ≠ some 60 := by
    cases shape : toHex bytes with
    | nil => exact nofun
    | cons byte others =>
        have member : byte ∈ toHex bytes := by
          rw [shape]
          exact List.mem_cons_self
        exact fun head => (mem_toHex member).1 (Option.some.inj head)
  rw [readObject, skipBlanks_of_opens (show Opens 60 from ⟨rfl, nofun⟩)]
  dsimp only
  rw [if_neg nofun, if_neg nofun, if_neg nofun, if_pos rfl, if_neg single, List.append_assoc,
    List.singleton_append, readHexString_written]
  rfl

end Leaves

section Nested

variable {item : Object} {items : List Object} {entries : List (List UInt8 × Object)}
  {key text inner : List UInt8}

theorem legible_array (legible : LegibleItems items inner) :
    Legible (.array items) (91 :: (inner ++ [93])) := by
  apply legible_delimited (show isDelimiter 91 = true from rfl) nofun nofun
  intro fuel rest enough follows
  rw [List.length_append, List.length_singleton] at enough
  rw [readObject, skipBlanks_of_opens (show Opens 91 from ⟨rfl, nofun⟩)]
  dsimp only
  rw [if_neg nofun, if_neg nofun, if_pos rfl, List.append_assoc, List.singleton_append,
    legible.reads fuel rest enough, settled]
  rfl

theorem legible_dictionary (legible : LegibleEntries entries inner)
    (distinct : (entries.map Prod.fst).Nodup) :
    Legible (.dictionary entries) (Text.utf8 "<<" ++ inner ++ Text.utf8 " >>") := by
  have shape : Text.utf8 "<<" ++ inner ++ Text.utf8 " >>" =
      60 :: (60 :: (inner ++ [32, 62, 62])) := rfl
  rw [shape]
  apply legible_delimited (show isDelimiter 60 = true from rfl) nofun nofun
  intro fuel rest enough follows
  rw [List.length_cons, List.length_append] at enough
  rw [readObject, skipBlanks_of_opens (show Opens 60 from ⟨rfl, nofun⟩)]
  dsimp only
  rw [if_neg nofun, if_neg nofun, if_neg nofun, if_pos rfl, List.cons_append, List.head?_cons,
    if_pos rfl, List.tail_cons, List.append_assoc]
  change (readEntries fuel (inner ++ 32 :: 62 :: 62 :: rest)).map _ = _
  rw [legible.reads fuel rest (by omega), Option.map_some, settled, collectEntries_of_distinct]
  rw [keys_settledEntries]
  exact distinct

theorem readItems_item {fuel : Nat} {behind : List UInt8} (legible : Legible item text)
    (enough : text.length ≤ fuel) (follows : Follows behind) :
    readItems (fuel + 1) (text ++ behind) =
      (readItems fuel behind).map fun read => (settled item :: read.1, read.2) := by
  obtain ⟨byte, others, shape, opens, unclosed⟩ := legible.starts
  have unopened : (skipBlanks (text ++ behind)).head? ≠ some 93 := by
    rw [shape, List.cons_append, skipBlanks_of_opens opens]
    exact fun head => unclosed (Option.some.inj head)
  rw [readItems, if_neg unopened, legible.reads fuel behind enough follows]
  dsimp only [Option.bind_eq_bind, Option.bind_some]
  cases readItems fuel behind <;> rfl

theorem legibleItems_nil : LegibleItems [] [] where
  follows filled := absurd rfl filled
  reads fuel rest enough := by
    obtain ⟨fuel, rfl⟩ := Nat.exists_eq_succ_of_ne_zero (Nat.ne_zero_of_lt enough)
    rw [readItems, List.nil_append, skipBlanks_of_opens (show Opens 93 from ⟨rfl, nofun⟩),
      if_pos List.head?_cons, settledItems]
    rfl

theorem legibleItems_one (legible : Legible item text) : LegibleItems [item] text where
  follows _ := legible.follows
  reads fuel rest enough := by
    obtain ⟨fuel, rfl⟩ := Nat.exists_eq_succ_of_ne_zero (Nat.ne_zero_of_lt enough)
    obtain ⟨byte, others, shape, -, -⟩ := legible.starts
    have filled : 0 + 1 ≤ text.length := by
      rw [shape]
      exact Nat.succ_le_of_lt (Nat.succ_pos _)
    have fits : text.length ≤ fuel := Nat.le_of_succ_le_succ enough
    rw [readItems_item legible fits follows_bracket]
    have closed : readItems fuel (93 :: rest) = _ :=
      legibleItems_nil.reads fuel rest (filled.trans fits)
    rw [closed, settledItems]
    rfl

theorem legibleItems_cons (legible : Legible item text) (others : LegibleItems items inner)
    (more : items ≠ []) : LegibleItems (item :: items) (text ++ 32 :: inner) where
  follows _ rest follows := by
    rw [List.append_assoc]
    exact legible.follows _ (others.follows more rest follows)
  reads fuel rest enough := by
    obtain ⟨fuel, rfl⟩ := Nat.exists_eq_succ_of_ne_zero (Nat.ne_zero_of_lt enough)
    rw [List.length_append, List.length_cons] at enough
    rw [List.append_assoc, List.cons_append, readItems_item legible (by omega)
      (others.follows more _ follows_bracket), readItems_blank,
      others.reads fuel rest (by omega), settledItems]
    rfl

theorem legibleEntries_nil : LegibleEntries [] [] where
  follows _ := (follows_delimiter (show isDelimiter 62 = true from rfl) nofun).2
  reads fuel rest enough := by
    obtain ⟨fuel, rfl⟩ := Nat.exists_eq_succ_of_ne_zero (Nat.ne_zero_of_lt enough)
    rw [readEntries, List.nil_append, skipBlanks_blank,
      skipBlanks_of_opens (show Opens 62 from ⟨rfl, nofun⟩), settledEntries]
    rfl

theorem legibleEntries_cons (legible : Legible item text) (others : LegibleEntries entries inner) :
    LegibleEntries ((key, item) :: entries) (32 :: (writeName key ++ 32 :: (text ++ inner))) where
  follows _ := (follows_delimiter (show isDelimiter 47 = true from rfl) nofun).2
  reads fuel rest enough := by
    obtain ⟨fuel, rfl⟩ := Nat.exists_eq_succ_of_ne_zero (Nat.ne_zero_of_lt enough)
    simp only [List.length_append, List.length_cons] at enough
    have shape : 32 :: (writeName key ++ 32 :: (text ++ inner)) ++ 32 :: 62 :: 62 :: rest =
        32 :: 47 :: (key.flatMap nameByte ++
          32 :: (text ++ (inner ++ 32 :: 62 :: 62 :: rest))) := by
      simp only [List.cons_append, List.append_assoc, writeName]
      rfl
    rw [shape, readEntries, skipBlanks_blank, skipBlanks_of_opens (show Opens 47 from ⟨rfl, nofun⟩)]
    dsimp only
    rw [if_neg nofun, if_pos rfl, readName_written key ended_blank]
    dsimp only [Option.bind_eq_bind, Option.bind_some]
    rw [readObject_blank, legible.reads fuel _ (by omega) (others.follows _)]
    dsimp only [Option.bind_some]
    rw [others.reads fuel rest (by omega), settledEntries]
    rfl

end Nested

mutual

/-- **What is written is read back**, but for the carriage returns of literal strings. -/
theorem legible_writeObject : (obj : Object) → Plain obj →
    ∃ text, writeObject obj = .ok text ∧ Legible obj text
  | .null, _ => ⟨_, by rw [writeObject], legible_null⟩
  | .boolean value, _ => ⟨_, by rw [writeObject], legible_boolean value⟩
  | .integer value, _ => ⟨_, by rw [writeObject], legible_integer value⟩
  | .name bytes, _ => ⟨_, by rw [writeObject], legible_name bytes⟩
  | .string bytes .literal, _ => ⟨_, by rw [writeObject], legible_literal bytes⟩
  | .string bytes .hexadecimal, _ => ⟨_, by rw [writeObject], legible_hexadecimal bytes⟩
  | .reference (number, generation), _ =>
      ⟨_, by rw [writeObject], legible_reference (number, generation)⟩
  | .array items, plain => by
      rw [Plain] at plain
      obtain ⟨inner, written, legible⟩ := legible_writeItems items plain
      refine ⟨_, ?_, legible_array legible⟩
      rw [writeObject, written]
      rfl
  | .dictionary entries, plain => by
      rw [Plain] at plain
      obtain ⟨inner, written, legible⟩ := legible_writeEntries entries plain.2
      refine ⟨_, ?_, legible_dictionary legible plain.1⟩
      rw [writeObject, written]
      rfl
  | .real _, plain => by
      rw [Plain] at plain
      exact plain.elim
  | .stream _ _, plain => by
      rw [Plain] at plain
      exact plain.elim

theorem legible_writeItems : (items : List Object) → PlainItems items →
    ∃ inner, writeItems items = .ok inner ∧ LegibleItems items inner
  | [], _ => ⟨[], by rw [writeItems], legibleItems_nil⟩
  | [item], plain => by
      rw [PlainItems] at plain
      obtain ⟨text, written, legible⟩ := legible_writeObject item plain.1
      refine ⟨text, ?_, legibleItems_one legible⟩
      rw [writeItems, written]
  | item :: other :: rest, plain => by
      rw [PlainItems] at plain
      obtain ⟨text, written, legible⟩ := legible_writeObject item plain.1
      obtain ⟨inner, written', legible'⟩ := legible_writeItems (other :: rest) plain.2
      refine ⟨_, ?_, legibleItems_cons legible legible' (List.cons_ne_nil _ _)⟩
      rw [writeItems, written, written']
      rfl

theorem legible_writeEntries : (entries : List (List UInt8 × Object)) → PlainEntries entries →
    ∃ inner, writeEntries entries = .ok inner ∧ LegibleEntries entries inner
  | [], _ => ⟨[], by rw [writeEntries], legibleEntries_nil⟩
  | (key, value) :: rest, plain => by
      rw [PlainEntries] at plain
      obtain ⟨text, written, legible⟩ := legible_writeObject value plain.1
      obtain ⟨inner, written', legible'⟩ := legible_writeEntries rest plain.2
      refine ⟨_, ?_, legibleEntries_cons legible legible'⟩
      rw [writeEntries, written, written']
      rfl

end

/-- An object is written, and its text read back as the object with nothing left, exactly when no
literal string in it holds a carriage return. -/
theorem read_writeObject_iff {obj : Object} (plain : Plain obj) :
    (∃ text, writeObject obj = .ok text ∧ read text = some (obj, [])) ↔ Returnless obj := by
  obtain ⟨text, written, legible⟩ := legible_writeObject obj plain
  have back : read text = some (settled obj, []) := by
    have found := legible.reads (text.length + 1) [] (Nat.le_succ _) follows_nil
    rw [List.append_nil] at found
    exact found
  rw [← settled_eq_iff]
  constructor
  · intro stable
    obtain ⟨text', written', back'⟩ := stable
    obtain rfl := Except.ok.inj (written.symm.trans written')
    rw [back] at back'
    exact (Prod.mk.inj (Option.some.inj back')).1
  · intro stable
    refine ⟨text, written, ?_⟩
    rw [back, stable]

/-- A page label that keeps its line feeds, under a name with a blank in it. -/
theorem read_writeObject_iff_label :
    (∃ text, writeObject (.dictionary [(Text.utf8 "P a", .array [.string [40, 10, 255] .literal,
        .integer (-7), .reference (2, 0)])]) = .ok text ∧
      read text = some (.dictionary [(Text.utf8 "P a", .array [.string [40, 10, 255] .literal,
        .integer (-7), .reference (2, 0)])], [])) := by
  refine (read_writeObject_iff ?_).mpr ?_
  · simp [Plain, PlainEntries, PlainItems]
  · simp [Returnless, ReturnlessEntries, ReturnlessItems]

/-- A carriage return alone is read back as a line feed. -/
theorem not_read_writeObject_return :
    ¬∃ text, writeObject (.string [13] .literal) = .ok text ∧
      read text = some (.string [13] .literal, []) := by
  intro stable
  obtain ⟨text, written, back⟩ := stable
  rw [writeObject] at written
  obtain rfl := Except.ok.inj written
  have found : read (writeString [13] .literal) = some (.string [10] .literal, []) := by
    change readObject 4 (40 :: (escapeLiteral [13] ++ 41 :: [])) = _
    rw [readObject, skipBlanks_of_opens (show Opens 40 from ⟨rfl, nofun⟩)]
    dsimp only
    rw [if_neg nofun, if_pos rfl, readLiteral_written, unixEol, if_pos rfl]
    change some (Object.string (10 :: unixEol []) _, _) = _
    rw [unixEol]
  rw [found] at back
  injection back with pair
  injection pair with strings
  injection strings with bytes
  cases bytes

end Chancela.Pades
