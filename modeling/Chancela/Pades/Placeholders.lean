import Chancela.Foundation.Outcome
import Chancela.Pades.Sign

/-! # The room for a signature

Where the offsets and the signature go is found by searching the whole file for the texts
that open the room for them, and the first match is taken. A file signed in this way
describes its own signature exactly where neither text stands anywhere ahead of the
signature dictionary's own, and the offsets fit into ten digits
(`Chancela.Pades.selfConsistent_iff_placeholdersApart`).
-/

namespace Chancela.Pades

open Decimal Pattern

/-! ## What a signed file says about itself -/

/-- The `/ByteRange` entry at a position of a file: zero and three numbers. -/
def ByteRangeAt (file : List UInt8) (start first second third : Nat) : Prop :=
  ∃ x y z, Numeral x first ∧ Numeral y second ∧ Numeral z third ∧
    byteRangeMarker ++ (x ++ 32 :: (y ++ 32 :: (z ++ [93]))) <+: file.drop start

/-- The signature as it fills its room: its hexadecimal text, then zeros. -/
def filling (cms : List UInt8) : List UInt8 :=
  Pdf.toHex cms ++ List.replicate (contentsHexLen - 2 * cms.length) 48

/-- Where the `/Contents` token of the signature dictionary begins whose `/ByteRange` entry is
at `start`. -/
def tokenStart (start : Nat) : Nat := start + 58

def tokenEnd (start : Nat) : Nat := start + 59 + contentsHexLen + 1

/-- **A self-consistent signed file.** It begins with the input; the signature dictionary's
`/ByteRange` is `[0 a b c]`, where `a` and `b` delimit its own `/Contents` token and `b + c` is
the length of the file; the digest signed is that of the two ranges, and embedding the
signature changed neither. -/
structure SelfConsistent [Crates] (pdf : List UInt8) (start : Nat) (cms : List UInt8)
    (prepared : PreparedSignature) (final : List UInt8) (a b c : Nat) : Prop where
  appended : pdf <+: final
  announced : ByteRangeAt final start a b c
  own : a = tokenStart start ∧ b = tokenEnd start
  token : (final.drop a).take (b - a) = 60 :: (filling cms ++ [62])
  complete : b + c = final.length
  digest : prepared.byterangeDigest = sha256 (final.take a ++ (final.drop b).take c)
  front_kept : final.take a = prepared.preparedPdf.take a
  back_kept : (final.drop b).take c = (prepared.preparedPdf.drop b).take c

/-! ## Finding and patching the room -/

/-- The room as the template opens it: ten digits for each offset, and the token's bracket. -/
def placeholder : List UInt8 :=
  Text.utf8 "/ByteRange [0 0000000000 0000000000 0000000000] /Contents <"

def offsetRoom : List UInt8 := Text.utf8 "0000000000 0000000000 0000000000"

theorem placeholder_eq :
    placeholder = byteRangeMarker ++ (offsetRoom ++ Text.utf8 "] /Contents <") := rfl

@[simp] theorem length_placeholder : placeholder.length = 59 := rfl

@[simp] theorem length_byteRangeMarker : byteRangeMarker.length = 14 := rfl

@[simp] theorem length_offsetRoom : offsetRoom.length = 32 := rfl

@[simp] theorem length_contentsMarker : contentsMarker.length = 11 := rfl

def assembled (ahead rest : List UInt8) : List UInt8 :=
  ahead ++ placeholder ++ (List.replicate contentsHexLen 48 ++ 62 :: rest)

theorem length_assembled (ahead rest : List UInt8) :
    (assembled ahead rest).length = tokenEnd ahead.length + rest.length := by
  simp only [assembled, tokenEnd, List.length_append, length_placeholder, List.length_replicate,
    List.length_cons]
  omega

theorem find_eq_position {haystack needle : List UInt8} (nonempty : needle ≠ [])
    (fits : needle.length ≤ haystack.length) :
    Pdf.find haystack needle = position needle haystack := by
  rw [Pdf.find, if_neg]
  rintro (empty | short)
  · exact nonempty empty
  · omega

theorem find_contentsMarker (ahead rest : List UInt8) :
    (Pdf.find (assembled ahead rest) contentsMarker = some (ahead.length + 48) ∧
        ¬contentsMarker <:+: ahead) ∨
      ∃ index, Pdf.find (assembled ahead rest) contentsMarker = some index ∧
        index + 11 ≤ ahead.length ∧ contentsMarker <:+: ahead := by
  rw [find_eq_position (by decide)
    (by rw [length_assembled, length_contentsMarker, tokenEnd]; omega)]
  exact position_append_cases 47 48 (by decide) (by decide) (by decide) (by decide)

theorem find_byteRangeMarker (ahead rest : List UInt8) :
    (Pdf.find (assembled ahead rest) byteRangeMarker = some ahead.length ∧
        ¬byteRangeMarker <:+: ahead) ∨
      ∃ index, Pdf.find (assembled ahead rest) byteRangeMarker = some index ∧
        index + 14 ≤ ahead.length ∧ byteRangeMarker <:+: ahead := by
  rw [find_eq_position (by decide)
    (by rw [length_assembled, length_byteRangeMarker, tokenEnd]; omega)]
  rw [assembled, placeholder_eq, ← List.append_assoc ahead byteRangeMarker,
    List.append_assoc (ahead ++ byteRangeMarker)]
  exact position_append_cases 47 0 (by decide) (by decide) (by decide) (by decide)

section Found

variable {ahead rest : List UInt8}

theorem find_contentsMarker_own (absent : ¬contentsMarker <:+: ahead) :
    Pdf.find (assembled ahead rest) contentsMarker = some (ahead.length + 48) := by
  rcases find_contentsMarker ahead rest with ⟨found, -⟩ | ⟨index, -, -, present⟩
  · exact found
  · exact absurd present absent

theorem find_byteRangeMarker_own (absent : ¬byteRangeMarker <:+: ahead) :
    Pdf.find (assembled ahead rest) byteRangeMarker = some ahead.length := by
  rcases find_byteRangeMarker ahead rest with ⟨found, -⟩ | ⟨index, -, -, present⟩
  · exact found
  · exact absurd present absent

theorem exists_contentsMarker (ahead rest : List UInt8) : ∃ contents ≤ ahead.length + 48,
    Pdf.find (assembled ahead rest) contentsMarker = some contents := by
  rcases find_contentsMarker ahead rest with ⟨found, -⟩ | ⟨index, found, early, -⟩
  · exact ⟨_, le_rfl, found⟩
  · exact ⟨_, by omega, found⟩

theorem exists_byteRangeMarker (ahead rest : List UInt8) : ∃ byteRange ≤ ahead.length,
    Pdf.find (assembled ahead rest) byteRangeMarker = some byteRange := by
  rcases find_byteRangeMarker ahead rest with ⟨found, -⟩ | ⟨index, found, early, -⟩
  · exact ⟨_, le_rfl, found⟩
  · exact ⟨_, by omega, found⟩

end Found

/-- The offsets around a token found in a file of some length. -/
def offsetsAround (total contents : Nat) : List UInt8 :=
  byteRangeText (contents + 10) (contents + 12 + contentsHexLen)
    (total - (contents + 12 + contentsHexLen))

/-- What a successful preparation has done: both texts found, the offsets written. -/
structure Patched [Crates] (bytes : List UInt8) (contents byteRange : Nat)
    (prepared : PreparedSignature) : Prop where
  contents_found : Pdf.find bytes contentsMarker = some contents
  byteRange_found : Pdf.find bytes byteRangeMarker = some byteRange
  inside : contents + 12 + contentsHexLen ≤ bytes.length
  written : overwrite bytes (byteRange + 14) (offsetsAround bytes.length contents) =
    some prepared.preparedPdf
  digest_eq : prepared.byterangeDigest = sha256 (prepared.preparedPdf.take (contents + 10) ++
    (prepared.preparedPdf.drop (contents + 12 + contentsHexLen)).take
      (bytes.length - (contents + 12 + contentsHexLen)))
  hexStart_eq : prepared.hexStart = contents + 11

theorem range2Start_eq (contents : Nat) :
    contents + 10 + 1 + contentsHexLen + 1 = contents + 12 + contentsHexLen := by omega

section Preparation

variable [Crates] {bytes : List UInt8} {prepared : PreparedSignature}

theorem exists_patched (accepted : patchPlaceholders bytes = .ok prepared) :
    ∃ contents byteRange, Patched bytes contents byteRange prepared := by
  simp only [patchPlaceholders] at accepted
  split at accepted
  · cases accepted
  case h_2 contents contentsFound =>
    split at accepted
    · cases accepted
    case isFalse inside =>
      split at accepted
      · cases accepted
      case h_2 byteRange byteRangeFound =>
        split at accepted
        · cases accepted
        case h_2 patched written =>
          rw [range2Start_eq] at *
          cases accepted
          exact ⟨contents, byteRange, contentsFound, byteRangeFound, Nat.le_of_not_lt inside,
            written, rfl, rfl⟩

theorem exists_prepared {contents byteRange : Nat} {patched : List UInt8}
    (contentsFound : Pdf.find bytes contentsMarker = some contents)
    (byteRangeFound : Pdf.find bytes byteRangeMarker = some byteRange)
    (inside : contents + 12 + contentsHexLen ≤ bytes.length)
    (written : overwrite bytes (byteRange + 14) (offsetsAround bytes.length contents) =
      some patched) : ∃ prepared, patchPlaceholders bytes = .ok prepared := by
  rw [offsetsAround] at written
  simp only [patchPlaceholders, contentsFound, byteRangeFound, range2Start_eq, written,
    if_neg (Nat.not_lt.mpr inside), Except.ok.injEq, exists_eq']

end Preparation

@[simp] theorem length_filling {cms : List UInt8} (fits : cms.length ≤ maxContentsBytes) :
    (filling cms).length = contentsHexLen := by
  rw [filling, List.length_append, Pdf.length_toHex, List.length_replicate]
  have bound : 2 * cms.length ≤ contentsHexLen := by
    rw [contentsHexLen]
    omega
  omega

theorem embedSignature_eq_ok {prepared : PreparedSignature} {cms final : List UInt8}
    (fits : cms.length ≤ maxContentsBytes)
    (filled : overwrite prepared.preparedPdf prepared.hexStart (filling cms) = some final) :
    embedSignature prepared cms = .ok final := by
  have bound : (Pdf.toHex cms).length ≤ (List.replicate contentsHexLen (48 : UInt8)).length := by
    rw [Pdf.length_toHex, List.length_replicate, contentsHexLen]
    omega
  have room := (overwrite_eq_some_iff.mp filled).1
  rw [length_filling fits] at room
  obtain ⟨reset, cleared⟩ : ∃ reset, overwrite prepared.preparedPdf prepared.hexStart
      (List.replicate contentsHexLen 48) = some reset :=
    ⟨_, overwrite_eq_some_iff.mpr ⟨by rw [List.length_replicate]; exact room, rfl⟩⟩
  have merged := overwrite_overwrite cleared bound
  rw [List.drop_replicate, Pdf.length_toHex] at merged
  rw [← filling, filled] at merged
  simp only [embedSignature, embedCms, if_neg (Nat.not_lt.mpr fits), cleared, Option.bind_some,
    merged]

section Offsets

variable {first second third : Nat}

theorem notMem_byteRangeText {byte : UInt8} (undigit : isDigit byte = false) (dark : byte ≠ 32) :
    byte ∉ byteRangeText first second third := by
  have absent : ∀ number, byte ∉ padded 10 number := fun number =>
    notMem_of_digits (numeral_padded 10 number).digits undigit
  simp only [byteRangeText, List.mem_append, List.mem_cons, not_or]
  exact ⟨absent first, dark, absent second, dark, absent third⟩

theorem length_byteRangeText : (byteRangeText first second third).length =
    (padded 10 first).length + (padded 10 second).length + (padded 10 third).length + 2 := by
  simp only [byteRangeText, List.length_append, List.length_cons]
  omega

theorem length_byteRangeText_eq_iff : (byteRangeText first second third).length = 32 ↔
    first < 10 ^ 10 ∧ second < 10 ^ 10 ∧ third < 10 ^ 10 := by
  have positive : 0 < 10 := by decide
  rw [← length_padded_eq_iff positive, ← length_padded_eq_iff positive,
    ← length_padded_eq_iff positive, length_byteRangeText, length_padded, length_padded,
    length_padded]
  omega

theorem le_length_byteRangeText : 32 ≤ (byteRangeText first second third).length := by
  rw [length_byteRangeText, length_padded, length_padded, length_padded]
  omega

theorem closes_of_byteRangeText {x y z r tail : List UInt8} {byte : UInt8}
    (digitsX : ∀ byte ∈ x, isDigit byte = true) (digitsY : ∀ byte ∈ y, isDigit byte = true)
    (digitsZ : ∀ byte ∈ z, isDigit byte = true) (undigit : isDigit byte = false)
    (read : byteRangeText first second third ++ byte :: tail =
      x ++ 32 :: (y ++ 32 :: (z ++ 93 :: r))) : byte = 93 := by
  rw [byteRangeText, List.append_assoc, List.cons_append, List.append_assoc, List.cons_append]
    at read
  obtain ⟨-, read⟩ := digits_unique_blank (numeral_padded 10 first).digits digitsX read
  obtain ⟨-, read⟩ := digits_unique_blank (numeral_padded 10 second).digits digitsY read
  exact (digits_unique (numeral_padded 10 third).digits digitsZ undigit rfl read).2.1

end Offsets

theorem drop_assembled (ahead rest : List UInt8) :
    (assembled ahead rest).drop ahead.length =
      placeholder ++ (List.replicate contentsHexLen 48 ++ 62 :: rest) := by
  rw [assembled, List.append_assoc, List.drop_left]

theorem drop_placeholder {index : Nat} (behind : 46 < index) (inside : index < 59) :
    ∃ byte tail, placeholder.drop index = byte :: tail ∧ isDigit byte = false ∧ byte ≠ 93 := by
  have checked : ∀ index : Fin 59, 46 < index.val →
      isDigit (placeholder.get (index.cast length_placeholder.symm)) = false ∧
        placeholder.get (index.cast length_placeholder.symm) ≠ 93 := by decide
  exact ⟨_, _, List.drop_eq_getElem_cons (by rw [length_placeholder]; exact inside),
    checked ⟨index, inside⟩ behind⟩

/-- A file with a text of the room's length between the token's brackets. -/
def enclosing (front middle rest : List UInt8) : List UInt8 :=
  front ++ 60 :: (middle ++ 62 :: rest)

section Enclosing

variable {front middle rest : List UInt8}

theorem take_enclosing : (enclosing front middle rest).take front.length = front := List.take_left

theorem drop_enclosing (width : middle.length = contentsHexLen) :
    (enclosing front middle rest).drop (front.length + (contentsHexLen + 2)) = rest := by
  have shape : enclosing front middle rest = front ++ (60 :: (middle ++ [62]) ++ rest) := by
    simp only [enclosing, List.cons_append, List.append_assoc, List.nil_append]
  have length : (60 :: (middle ++ [62])).length = contentsHexLen + 2 := by
    rw [List.length_cons, List.length_append, width, List.length_singleton]
  rw [shape, List.drop_length_add_append, ← length, List.drop_left]

theorem token_enclosing (width : middle.length = contentsHexLen) :
    ((enclosing front middle rest).drop front.length).take (contentsHexLen + 2) =
      60 :: (middle ++ [62]) := by
  have shape : 60 :: (middle ++ 62 :: rest) = 60 :: (middle ++ [62]) ++ rest := by
    simp only [List.cons_append, List.append_assoc, List.nil_append]
  have length : (60 :: (middle ++ [62])).length = contentsHexLen + 2 := by
    rw [List.length_cons, List.length_append, width, List.length_singleton]
  rw [enclosing, List.drop_left, shape, ← length, List.take_left]

theorem length_enclosing (width : middle.length = contentsHexLen) :
    (enclosing front middle rest).length = front.length + (contentsHexLen + 2) + rest.length := by
  simp only [enclosing, List.length_append, List.length_cons, width]
  omega

/-- The file with its own room for the offsets filled, up to the token. -/
def patchedFront (ahead offsets : List UInt8) : List UInt8 :=
  ahead ++ (byteRangeMarker ++ (offsets ++ Text.utf8 "] /Contents "))

theorem length_patchedFront {ahead offsets : List UInt8} (room : offsets.length = 32) :
    (patchedFront ahead offsets).length = tokenStart ahead.length := by
  have closing : (Text.utf8 "] /Contents ").length = 12 := rfl
  rw [patchedFront, List.length_append, List.length_append, List.length_append,
    length_byteRangeMarker, room, closing, tokenStart]

theorem preparedPdf_eq {ahead offsets written : List UInt8} (room : offsets.length = 32)
    (patched : overwrite (assembled ahead rest) (ahead.length + 14) offsets = some written) :
    written = enclosing (patchedFront ahead offsets) (List.replicate contentsHexLen 48) rest := by
  have shape : assembled ahead rest = (ahead ++ byteRangeMarker) ++ offsetRoom ++
      (Text.utf8 "] /Contents <" ++ (List.replicate contentsHexLen 48 ++ 62 :: rest)) := by
    rw [assembled, placeholder_eq]
    simp only [List.append_assoc]
  have start : ahead.length + 14 = (ahead ++ byteRangeMarker).length := by
    rw [List.length_append, length_byteRangeMarker]
  rw [shape, start, overwrite_append (length_offsetRoom.trans room.symm)] at patched
  have opening : Text.utf8 "] /Contents <" = Text.utf8 "] /Contents " ++ [60] := rfl
  rw [← Option.some.inj patched, enclosing, patchedFront, opening]
  simp only [List.append_assoc, List.singleton_append]

theorem final_eq {cms final : List UInt8} (fits : cms.length ≤ maxContentsBytes)
    (filled : overwrite (enclosing front (List.replicate contentsHexLen 48) rest)
      (front.length + 1) (filling cms) = some final) :
    final = enclosing front (filling cms) rest := by
  have shape : enclosing front (List.replicate contentsHexLen 48) rest =
      (front ++ [60]) ++ List.replicate contentsHexLen 48 ++ 62 :: rest := by
    simp only [enclosing, List.append_assoc, List.cons_append, List.nil_append]
  have start : front.length + 1 = (front ++ [60]).length := by
    rw [List.length_append, List.length_singleton]
  rw [shape, start, overwrite_append (by rw [List.length_replicate, length_filling fits])] at filled
  rw [← Option.some.inj filled, enclosing]
  simp only [List.append_assoc, List.cons_append, List.nil_append]

theorem byteRangeAt_patchedFront {ahead tail : List UInt8} {first second third : Nat} :
    ByteRangeAt (patchedFront ahead (byteRangeText first second third) ++ tail) ahead.length first
      second third := by
  refine ⟨_, _, _, numeral_padded 10 first, numeral_padded 10 second, numeral_padded 10 third, ?_⟩
  have closing : Text.utf8 "] /Contents " = 93 :: Text.utf8 " /Contents " := rfl
  refine ⟨Text.utf8 " /Contents " ++ tail, ?_⟩
  rw [patchedFront, List.append_assoc ahead, List.drop_left, byteRangeText, closing]
  simp only [List.append_assoc, List.cons_append, List.nil_append]

theorem selfConsistent_enclosing [Crates] {pdf ahead cms : List UInt8}
    {prepared : PreparedSignature} (inside : pdf <+: ahead)
    (fits : cms.length ≤ maxContentsBytes) (offsets : List UInt8)
    (shown : offsets = byteRangeText (tokenStart ahead.length) (tokenEnd ahead.length) rest.length)
    (room : offsets.length = 32)
    (beforehand : prepared.preparedPdf =
      enclosing (patchedFront ahead offsets) (List.replicate contentsHexLen 48) rest)
    (digest : prepared.byterangeDigest = sha256
      (prepared.preparedPdf.take (tokenStart ahead.length) ++
        (prepared.preparedPdf.drop (tokenEnd ahead.length)).take rest.length)) :
    SelfConsistent pdf ahead.length cms prepared
      (enclosing (patchedFront ahead offsets) (filling cms) rest) (tokenStart ahead.length)
      (tokenEnd ahead.length) rest.length := by
  have start : tokenStart ahead.length = (patchedFront ahead offsets).length :=
    (length_patchedFront room).symm
  have finish : tokenEnd ahead.length =
      (patchedFront ahead offsets).length + (contentsHexLen + 2) := by
    rw [← start, tokenStart, tokenEnd]
    omega
  have zeros : (List.replicate contentsHexLen (48 : UInt8)).length = contentsHexLen :=
    List.length_replicate
  have width := length_filling fits
  refine ⟨?_, ?_, ⟨rfl, rfl⟩, ?_, ?_, ?_, ?_, ?_⟩
  · rw [enclosing, patchedFront]
    exact inside.trans ((List.prefix_append _ _).trans (List.prefix_append _ _))
  · rw [enclosing, shown]
    exact byteRangeAt_patchedFront
  · rw [finish, start, Nat.add_sub_cancel_left]
    exact token_enclosing width
  · rw [length_enclosing width, finish]
  · rw [digest, beforehand, finish, start, take_enclosing, take_enclosing, drop_enclosing zeros,
      drop_enclosing width]
  · rw [beforehand, start, take_enclosing, take_enclosing]
  · rw [beforehand, finish, drop_enclosing zeros, drop_enclosing width]

end Enclosing

section Consistency

variable [Crates] {pdf ahead rest cms final : List UInt8} {prepared : PreparedSignature}
  {contents byteRange a b c : Nat}

theorem exists_embedded {bytes : List UInt8} (patched : Patched bytes contents byteRange prepared)
    (fits : cms.length ≤ maxContentsBytes) :
    ∃ final, overwrite prepared.preparedPdf (contents + 11) (filling cms) = some final ∧
      embedSignature prepared cms = .ok final := by
  have inside := patched.inside
  have total := length_overwrite patched.written
  obtain ⟨final, filled⟩ : ∃ final,
      overwrite prepared.preparedPdf (contents + 11) (filling cms) = some final :=
    ⟨_, overwrite_eq_some_iff.mpr ⟨by rw [length_filling fits, total]; omega, rfl⟩⟩
  refine ⟨final, filled, embedSignature_eq_ok fits ?_⟩
  rw [patched.hexStart_eq]
  exact filled

/-- **Preparing succeeds.** Ahead of ten thousand million bytes the offsets always find
room, wherever they are written. -/
theorem exists_prepared_assembled (rest : List UInt8) (small : ahead.length + 40000 ≤ 10 ^ 10) :
    ∃ prepared, patchPlaceholders (assembled ahead rest) = .ok prepared := by
  obtain ⟨contents, before, contentsFound⟩ := exists_contentsMarker ahead rest
  obtain ⟨byteRange, before', byteRangeFound⟩ := exists_byteRangeMarker ahead rest
  have room : contentsHexLen = 32768 := by rw [contentsHexLen, maxContentsBytes]
  have total := length_assembled ahead rest
  rw [tokenEnd] at total
  -- The length of what follows has fewer digits than what follows has bytes.
  have digits : (decimal ((assembled ahead rest).length -
      (contents + 12 + contentsHexLen))).length ≤ 11 + rest.length := by
    rw [length_decimal_le_iff (by omega), pow_add]
    have grows := Nat.lt_pow_self (n := rest.length) (by decide : 1 < 10)
    omega
  have width : (offsetsAround (assembled ahead rest).length contents).length ≤
      33 + rest.length := by
    have first := (length_padded_eq_iff (by decide)).mpr (by omega : contents + 10 < 10 ^ 10)
    have second := (length_padded_eq_iff (by decide)).mpr
      (by omega : contents + 12 + contentsHexLen < 10 ^ 10)
    rw [offsetsAround, length_byteRangeText, first, second, length_padded]
    omega
  refine exists_prepared contentsFound byteRangeFound (by omega)
    (overwrite_eq_some_iff.mpr ⟨?_, rfl⟩)
  omega

theorem SelfConsistent.bracket
    (consistent : SelfConsistent pdf ahead.length cms prepared final a b c) :
    final[ahead.length + 58]? = some 60 := by
  obtain ⟨rfl, rfl⟩ := consistent.own
  have token := congrArg List.head? consistent.token
  rw [List.head?_take, if_neg (by rw [tokenStart, tokenEnd]; omega), List.head?_drop] at token
  exact token

theorem SelfConsistent.exists_offsets
    (consistent : SelfConsistent pdf ahead.length cms prepared final a b c) :
    ∃ x y z r, Numeral x (ahead.length + 58) ∧ (∀ byte ∈ y, isDigit byte = true) ∧
      (∀ byte ∈ z, isDigit byte = true) ∧ prepared.preparedPdf.drop ahead.length =
        byteRangeMarker ++ (x ++ 32 :: (y ++ 32 :: (z ++ 93 :: r))) := by
  obtain ⟨x, y, z, readX, readY, readZ, occurs⟩ := consistent.announced
  have apart : (60 : UInt8) ∉ byteRangeMarker ++ (x ++ 32 :: (y ++ 32 :: (z ++ [93]))) := by
    have marker : (60 : UInt8) ∉ byteRangeMarker := by decide
    simp only [List.mem_append, List.mem_cons, List.not_mem_nil, or_false, not_or]
    exact ⟨marker, notMem_of_digits readX.digits rfl, by decide, notMem_of_digits readY.digits rfl,
      by decide, notMem_of_digits readZ.digits rfl, by decide⟩
  have short := length_le_of_notMem occurs consistent.bracket apart
  have kept := consistent.front_kept
  obtain ⟨rfl, rfl⟩ := consistent.own
  obtain ⟨r, split⟩ := prefix_drop_of_take_eq occurs kept (by rw [tokenStart]; omega)
  refine ⟨x, y, z, r, readX, readY.digits, readZ.digits, ?_⟩
  rw [← split]
  simp only [List.append_assoc, List.cons_append, List.nil_append]

theorem SelfConsistent.byteRange_own
    (consistent : SelfConsistent pdf ahead.length cms prepared final a b c)
    (patched : Patched (assembled ahead rest) contents byteRange prepared) :
    byteRange = ahead.length ∧ ¬byteRangeMarker <:+: ahead := by
  rcases find_byteRangeMarker ahead rest with ⟨found, absent⟩ | ⟨index, found, early, -⟩
  · rw [patched.byteRange_found] at found
    exact ⟨Option.some.inj found, absent⟩
  exfalso
  rw [patched.byteRange_found] at found
  obtain rfl := Option.some.inj found
  obtain ⟨x, y, z, r, readX, -, -, read⟩ := consistent.exists_offsets
  rcases Nat.lt_or_ge ahead.length (byteRange + 14 +
      (offsetsAround (assembled ahead rest).length contents).length) with across | before
  · -- The text written across the dictionary's entry would hide its name.
    have named : prepared.preparedPdf[ahead.length]? = some 47 := by
      rw [← List.head?_drop, read]
      rfl
    rw [getElem?_overwrite patched.written early across] at named
    exact notMem_byteRangeText rfl (by decide) (List.mem_of_getElem? named)
  · -- Left as it was, the entry announces zeros.
    rw [drop_overwrite patched.written before, drop_assembled, placeholder_eq, List.append_assoc,
      List.append_cancel_left_eq] at read
    have zeros : offsetRoom = List.replicate 10 48 ++ 32 :: Text.utf8 "0000000000 0000000000" :=
      rfl
    rw [zeros, List.append_assoc, List.append_assoc, List.cons_append] at read
    have digits : ∀ byte ∈ List.replicate 10 (48 : UInt8), isDigit byte = true := by
      intro byte member
      rw [List.eq_of_mem_replicate member]
      rfl
    obtain ⟨same, -⟩ := digits_unique_blank digits readX.digits read
    have none : value (List.replicate 10 48) = 0 := rfl
    have announced := readX.value_eq
    rw [← same, none] at announced
    omega

theorem SelfConsistent.exists_written
    (consistent : SelfConsistent pdf ahead.length cms prepared final a b c)
    (patched : Patched (assembled ahead rest) contents byteRange prepared) :
    ∃ x y z r, Numeral x (ahead.length + 58) ∧ (∀ byte ∈ y, isDigit byte = true) ∧
      (∀ byte ∈ z, isDigit byte = true) ∧
      offsetsAround (assembled ahead rest).length contents ++
          (assembled ahead rest).drop (ahead.length + 14 +
            (offsetsAround (assembled ahead rest).length contents).length) =
        x ++ 32 :: (y ++ 32 :: (z ++ 93 :: r)) := by
  obtain ⟨x, y, z, r, readX, digitsY, digitsZ, read⟩ := consistent.exists_offsets
  refine ⟨x, y, z, r, readX, digitsY, digitsZ, ?_⟩
  have stretch := drop_overwrite_start patched.written
  rw [(consistent.byteRange_own patched).1] at stretch
  rw [← stretch, ← List.drop_drop, read, ← length_byteRangeMarker, List.drop_left]

theorem SelfConsistent.contents_own
    (consistent : SelfConsistent pdf ahead.length cms prepared final a b c)
    (patched : Patched (assembled ahead rest) contents byteRange prepared) :
    contents = ahead.length + 48 ∧ ¬contentsMarker <:+: ahead := by
  obtain ⟨x, y, z, r, readX, -, -, read⟩ := consistent.exists_written patched
  have written := numeral_padded 10 (contents + 10)
  rw [offsetsAround, byteRangeText, List.append_assoc, List.cons_append] at read
  obtain ⟨same, -⟩ := digits_unique_blank written.digits readX.digits read
  have located := numeral_unique written readX same
  rcases find_contentsMarker ahead rest with ⟨-, absent⟩ | ⟨index, found, early, -⟩
  · exact ⟨by omega, absent⟩
  · rw [patched.contents_found] at found
    have same := Option.some.inj found
    omega

theorem SelfConsistent.offsets_short
    (consistent : SelfConsistent pdf ahead.length cms prepared final a b c)
    (patched : Patched (assembled ahead rest) contents byteRange prepared)
    (filled : overwrite prepared.preparedPdf (contents + 11) (filling cms) = some final) :
    (offsetsAround (assembled ahead rest).length contents).length ≤ 44 := by
  have located := (consistent.contents_own patched).1
  have owned := (consistent.byteRange_own patched).1
  by_contra beyond
  have bracket : prepared.preparedPdf[ahead.length + 58]? = some 60 := by
    have kept := take_overwrite filled le_rfl
    have same := congrArg (fun items => items[ahead.length + 58]?) kept
    simp only [List.getElem?_take] at same
    rw [if_pos (by omega), if_pos (by omega), consistent.bracket] at same
    exact same.symm
  rw [getElem?_overwrite patched.written (by omega) (by omega)] at bracket
  exact notMem_byteRangeText rfl (by decide) (List.mem_of_getElem? bracket)

theorem SelfConsistent.offsets_fit
    (consistent : SelfConsistent pdf ahead.length cms prepared final a b c)
    (patched : Patched (assembled ahead rest) contents byteRange prepared)
    (filled : overwrite prepared.preparedPdf (contents + 11) (filling cms) = some final) :
    (offsetsAround (assembled ahead rest).length contents).length = 32 := by
  have short := consistent.offsets_short patched filled
  have least : 32 ≤ (offsetsAround (assembled ahead rest).length contents).length :=
    le_length_byteRangeText
  by_contra longer
  have behind : 46 < 14 + (offsetsAround (assembled ahead rest).length contents).length := by
    omega
  have inside : 14 + (offsetsAround (assembled ahead rest).length contents).length < 59 := by
    omega
  obtain ⟨byte, tail, standing, undigit, unclosed⟩ := drop_placeholder behind inside
  obtain ⟨x, y, z, r, readX, digitsY, digitsZ, read⟩ := consistent.exists_written patched
  have following : (assembled ahead rest).drop (ahead.length + 14 +
      (offsetsAround (assembled ahead rest).length contents).length) =
        byte :: (tail ++ (List.replicate contentsHexLen 48 ++ 62 :: rest)) := by
    rw [Nat.add_assoc, ← List.drop_drop, drop_assembled, List.drop_append_of_le_length
      (by rw [length_placeholder]; exact inside.le), standing, List.cons_append]
  rw [following] at read
  exact unclosed (closes_of_byteRangeText readX.digits digitsY digitsZ undigit read)

/-- **Searching finds only the dictionary's own room.** -/
theorem SelfConsistent.apart
    (consistent : SelfConsistent pdf ahead.length cms prepared final a b c)
    (patched : Patched (assembled ahead rest) contents byteRange prepared)
    (filled : overwrite prepared.preparedPdf (contents + 11) (filling cms) = some final) :
    (¬contentsMarker <:+: ahead ∧ ¬byteRangeMarker <:+: ahead) ∧
      tokenEnd ahead.length < 10 ^ 10 ∧
        (assembled ahead rest).length - tokenEnd ahead.length < 10 ^ 10 := by
  obtain ⟨located, absent⟩ := consistent.contents_own patched
  obtain ⟨-, absent'⟩ := consistent.byteRange_own patched
  obtain ⟨-, start, rest⟩ :=
    length_byteRangeText_eq_iff.mp (consistent.offsets_fit patched filled)
  have finish : contents + 12 + contentsHexLen = tokenEnd ahead.length := by
    rw [located, tokenEnd]
    omega
  rw [finish] at start rest
  exact ⟨⟨absent, absent'⟩, start, rest⟩

/-- **A room of its own makes a self-consistent file.** -/
theorem selfConsistent_of_apart (inside : pdf <+: ahead) (fits : cms.length ≤ maxContentsBytes)
    (patched : Patched (assembled ahead rest) contents byteRange prepared)
    (filled : overwrite prepared.preparedPdf (contents + 11) (filling cms) = some final)
    (absent : ¬contentsMarker <:+: ahead) (absent' : ¬byteRangeMarker <:+: ahead)
    (start : tokenEnd ahead.length < 10 ^ 10)
    (remaining : (assembled ahead rest).length - tokenEnd ahead.length < 10 ^ 10) :
    ∃ a b c, SelfConsistent pdf ahead.length cms prepared final a b c := by
  have located : contents = ahead.length + 48 :=
    Option.some.inj (patched.contents_found.symm.trans (find_contentsMarker_own absent))
  have owned : byteRange = ahead.length :=
    Option.some.inj (patched.byteRange_found.symm.trans (find_byteRangeMarker_own absent'))
  subst located owned
  have finish : ahead.length + 48 + 12 + contentsHexLen = tokenEnd ahead.length := by
    rw [tokenEnd]
    omega
  have total := length_assembled ahead rest
  have behind : (assembled ahead rest).length - tokenEnd ahead.length = rest.length := by omega
  have shown : offsetsAround (assembled ahead rest).length (ahead.length + 48) =
      byteRangeText (tokenStart ahead.length) (tokenEnd ahead.length) rest.length := by
    rw [offsetsAround, finish, behind, tokenStart]
  have room : (offsetsAround (assembled ahead rest).length (ahead.length + 48)).length = 32 := by
    rw [shown, length_byteRangeText_eq_iff, ← behind]
    refine ⟨?_, start, remaining⟩
    rw [tokenEnd] at start
    rw [tokenStart]
    omega
  have beforehand := preparedPdf_eq room patched.written
  have digest := patched.digest_eq
  rw [finish, behind] at digest
  rw [beforehand] at filled
  have place : ahead.length + 48 + 11 = (patchedFront ahead
      (offsetsAround (assembled ahead rest).length (ahead.length + 48))).length + 1 := by
    rw [length_patchedFront room, tokenStart]
  rw [place] at filled
  rw [final_eq fits filled]
  exact ⟨_, _, _, selfConsistent_enclosing inside fits _ shown room beforehand digest⟩

end Consistency

end Chancela.Pades
