import Chancela.Pades.AppendedXref
import Chancela.Pades.Coverage
import Chancela.Pades.HexString
import Chancela.Pades.Sign

/-! # What a signature covers

The `/ByteRange` of a signature names two parts of the file whose digest is signed. The validator
takes four numbers from the file, keeps both parts within it, and compares what lies between them
with the value of `/Contents`. Unless it calls the range malformed, the digest leaves out one
hexadecimal string of the signed revision and nothing else (`Chancela.Pades.byteRange_coverage`).
-/

namespace Chancela.Pades

open Lopdf Slices

/-- The bytes of a file: a sequence of at most `isize::MAX` of them. -/
structure PdfFile where
  bytes : List UInt8
  addressable : bytes.length < 2 ^ 63

/-- `PadesError`, as far as the reading of a signature's range raises it. -/
inductive ValidationError where
  | pdfParse (message : String)
  | noSignature
  | invalidByteRange
  | invalidContents
deriving DecidableEq

inductive PdfSignatureCoverage where
  | wholeDocument
  | ltvAugmentedSignedRevision
  | alteredAfterSigning
  | malformed
deriving DecidableEq

/-- The `/ByteRange` of a signature: `[start1 len1 start2 len2]`. -/
structure ByteRange where
  start1 : Nat
  len1 : Nat
  start2 : Nat
  len2 : Nat
deriving DecidableEq

def ByteRange.objects (range : ByteRange) : List Object :=
  [.integer range.start1, .integer range.len1, .integer range.start2, .integer range.len2]

def asI64 : Object → Option Int
  | .integer value => some value
  | _ => none

def asStr : Object → Option (List UInt8)
  | .string bytes _ => some bytes
  | _ => none

variable {ε : Type}

def gapMatchesContents (pdf : List UInt8) (gapStart gapEnd : Nat) (contents : List UInt8) :
    Except (Stop ε) Bool := do
  if gapEnd ≤ gapStart ∨ pdf.length < gapEnd then return false
  else
    let gap ← slice pdf gapStart gapEnd
    if gap.head? ≠ some 60 ∨ gap.getLast? ≠ some 62 then return false
    else
      let last ← subUsize gap.length 1
      let inner ← slice gap 1 last
      return decodeInner inner none [] = some contents

def usizeOf (value : Int) : Except (Stop ValidationError) Nat :=
  if 0 ≤ value ∧ value < 2 ^ 64 then .ok value.toNat else .error (.refused .invalidByteRange)

/-- `signature_dictionaries`: in the order of their identifiers. -/
def signatureDictionaries (doc : Document) : List (ObjectId × Dictionary) :=
  (doc.objects.entries.filterMap fun entry => do
    let dict ← entry.2.asDict
    guard (dict.getType = some (Text.utf8 "Sig"))
    return (entry.1, dict)).mergeSort fun first second =>
      first.1.1 < second.1.1 || first.1.1 == second.1.1 && first.1.2 ≤ second.1.2

/-- The four numbers of a `/ByteRange`. -/
def parseByteRange (sig : Dictionary) : Except (Stop ValidationError) ByteRange := do
  let items ← orRefused .invalidByteRange (sig.array? "ByteRange")
  match items with
  | [s1, l1, s2, l2] =>
      let s1 ← orRefused .invalidByteRange (asI64 s1)
      let l1 ← orRefused .invalidByteRange (asI64 l1)
      let s2 ← orRefused .invalidByteRange (asI64 s2)
      let l2 ← orRefused .invalidByteRange (asI64 l2)
      return ⟨← usizeOf s1, ← usizeOf l1, ← usizeOf s2, ← usizeOf l2⟩
  | _ => .error (.refused .invalidByteRange)

/-- What the validator has found of a signature's range: the numbers, the bytes that are hashed,
the two lengths, the value of `/Contents`, and whether the gap is exactly that. -/
structure CheckedRange where
  byteRange : ByteRange
  digested : List UInt8
  coveredLen : Nat
  signedRevisionLen : Nat
  contents : List UInt8
  gapIsExactlyContents : Bool

/-- `validate_pdf_signature`, from the signature's dictionary to the comparison of the gap. -/
def checkRange (pdf : List UInt8) (sig : Dictionary) :
    Except (Stop ValidationError) CheckedRange := do
  let byteRange ← parseByteRange sig
  let ⟨s1, l1, s2, l2⟩ := byteRange
  if (checkedAddUsize s1 l1).all (pdf.length < ·) ∨
      (checkedAddUsize s2 l2).all (pdf.length < ·) then
    .error (.refused .invalidByteRange)
  else
    let first ← slice pdf s1 (← addUsize s1 l1)
    let second ← slice pdf s2 (← addUsize s2 l2)
    let coveredLen ← addUsize l1 l2
    let signedRevisionLen ← addUsize s2 l2
    let contents ← orRefused .invalidContents ((sig.get "Contents").bind asStr)
    let gapIsExactlyContents ←
      if s1 = 0 then gapMatchesContents pdf (← addUsize s1 l1) s2 contents else pure false
    return ⟨byteRange, first ++ second, coveredLen, signedRevisionLen, contents,
      gapIsExactlyContents⟩

section Validator

variable [LopdfCrate]

def classifyLaterUpdates (full : Document) (pdf : List UInt8) (signedRevisionLen : Nat) :
    Except (Stop ε) LaterUpdateClass :=
  match slice? pdf 0 signedRevisionLen with
  | none => .ok .notProvenBenign
  | some signedRevision =>
      match LopdfCrate.loadMem signedRevision with
      | .error _ => .ok .notProvenBenign
      | .ok base => do
          if ← appendedXrefSectionsFreeNothing pdf signedRevisionLen then
            return classifyDocuments full base
          else return .notProvenBenign

/-- The first signature of a document and its checked range. -/
def rangeOf (pdf : List UInt8) : Except (Stop ValidationError) (Document × CheckedRange) :=
  match LopdfCrate.loadMem pdf with
  | .error message => .error (.refused (.pdfParse message))
  | .ok doc =>
      match (signatureDictionaries doc).head? with
      | none => .error (.refused .noSignature)
      | some (_, sig) => (doc, ·) <$> checkRange pdf sig

/-- `validate_pdf_signature`, up to the coverage that it reports. -/
def coverageOf (pdf : List UInt8) :
    Except (Stop ValidationError) (CheckedRange × PdfSignatureCoverage) := do
  let (doc, checked) ← rangeOf pdf
  if !checked.gapIsExactlyContents then return (checked, .malformed)
  else if !(checked.signedRevisionLen < pdf.length) then return (checked, .wholeDocument)
  else
    match ← classifyLaterUpdates doc pdf checked.signedRevisionLen with
    | .ltvAugmentationOnly => return (checked, .ltvAugmentedSignedRevision)
    | .notProvenBenign => return (checked, .alteredAfterSigning)

end Validator

/-! ### Archive timestamps -/

/-- `DocTimeStampFailureReason`, as far as the reading of the range gives it. -/
inductive DocTimeStampFailureReason where
  | missingByteRange
  | invalidByteRange
  | invalidContents
deriving DecidableEq

def endsAtRevisionBoundary (pdf : List UInt8) (stop : Nat) : Bool :=
  if pdf.length < stop then false
  else if stop = pdf.length then true
  else
    let cut := (pdf.take stop).rdropWhile fun byte => byte == 13 || byte == 10
    Text.utf8 "%%EOF" <:+ cut

/-- `usize::try_from(item.as_i64()?)`. -/
def rangeNumber (item : Object) : Except (Stop DocTimeStampFailureReason) Nat := do
  let value ← orRefused .invalidByteRange (asI64 item)
  if 0 ≤ value ∧ value < 2 ^ 64 then return value.toNat
  else .error (.refused .invalidByteRange)

/-- `parse_byte_range`. -/
def docTimestampByteRange (dict : Dictionary) (pdf : List UInt8) :
    Except (Stop DocTimeStampFailureReason) ByteRange := do
  let items ← orRefused .missingByteRange (dict.array? "ByteRange")
  match items with
  | [s1, l1, s2, l2] =>
      let s1 ← rangeNumber s1
      let l1 ← rangeNumber l1
      let s2 ← rangeNumber s2
      let l2 ← rangeNumber l2
      if (checkedAddUsize s1 l1).all (pdf.length < ·) ∨
          (checkedAddUsize s2 l2).all (pdf.length < ·) then
        .error (.refused .invalidByteRange)
      else if s1 ≠ 0 then .error (.refused .invalidByteRange)
      else
        let contents ← orRefused .invalidContents ((dict.get "Contents").bind asStr)
        if !(← gapMatchesContents pdf (← addUsize s1 l1) s2 contents) then
          .error (.refused .invalidByteRange)
        else if !endsAtRevisionBoundary pdf (← addUsize s2 l2) then
          .error (.refused .invalidByteRange)
        else return ⟨s1, l1, s2, l2⟩
  | _ => .error (.refused .invalidByteRange)

/-! ### The gap -/

/-- Between two offsets stands one hexadecimal string of a value. -/
def TokenBetween (pdf : List UInt8) (start stop : Nat) (contents : List UInt8) : Prop :=
  start < stop ∧ stop ≤ pdf.length ∧
    ∃ inner, (pdf.take stop).drop start = 60 :: (inner ++ [62]) ∧
      hexStringValue inner = some contents

section Gap

variable {pdf contents : List UInt8} {start stop : Nat}

theorem hexStringValue_eq {inner : List UInt8} :
    decodeInner inner none [] = hexStringValue inner := decodeInner_eq none []

theorem exists_inner {gap : List UInt8} (first : gap.head? = some 60)
    (last : gap.getLast? = some 62) : ∃ inner, gap = 60 :: (inner ++ [62]) := by
  cases gap with
  | nil => cases first
  | cons byte rest =>
      obtain rfl := Option.some.inj first
      rcases List.eq_nil_or_concat' rest with rfl | ⟨inner, byte, rfl⟩
      · cases last
      · rw [← List.cons_append, List.getLast?_concat] at last
        obtain rfl := Option.some.inj last
        exact ⟨inner, rfl⟩

/-- **The comparison of the gap** does not panic, and says whether it is the one token. -/
theorem gapMatchesContents_spec :
    ∃ answer, (gapMatchesContents pdf start stop contents : Except (Stop ε) Bool) = .ok answer ∧
      (answer = true ↔ TokenBetween pdf start stop contents) := by
  unfold gapMatchesContents TokenBetween
  by_cases outside : stop ≤ start ∨ pdf.length < stop
  · rw [if_pos outside]
    exact ⟨false, rfl, iff_of_false Bool.false_ne_true (by omega)⟩
  rw [if_neg outside, slice_of_le (by omega) (by omega)]
  dsimp only [Bind.bind, Except.bind]
  by_cases bare : ((pdf.take stop).drop start).head? ≠ some 60 ∨
      ((pdf.take stop).drop start).getLast? ≠ some 62
  · rw [if_pos bare]
    refine ⟨false, rfl, iff_of_false Bool.false_ne_true ?_⟩
    rintro ⟨-, -, inner, token, -⟩
    rw [token, ← List.cons_append, List.getLast?_concat] at bare
    rcases bare with bare | bare
    · exact bare rfl
    · exact bare rfl
  rw [if_neg bare]
  rw [not_or, not_not, not_not] at bare
  obtain ⟨inner, token⟩ := exists_inner bare.1 bare.2
  have length : (60 :: (inner ++ [62]) : List UInt8).length = inner.length + 2 := by simp
  rw [token, length, subUsize_of_le (Nat.le_add_left 1 _)]
  dsimp only
  rw [slice_of_le (by omega) (by rw [length]; omega)]
  have between : ((60 :: (inner ++ [62]) : List UInt8).take (inner.length + 2 - 1)).drop 1 =
      inner := by
    simp
  rw [between]
  dsimp only
  rw [hexStringValue_eq]
  refine ⟨_, rfl, ?_⟩
  rw [decide_eq_true_eq]
  constructor
  · intro decoded
    exact ⟨by omega, by omega, inner, rfl, decoded⟩
  · rintro ⟨-, -, other, same, decoded⟩
    rw [List.cons.injEq, List.append_cancel_right_eq] at same
    rw [same.2]
    exact decoded

end Gap

/-! ### The range -/

/-- A range covers a signed revision but for one token: it starts with the file, ends within it,
and leaves out one hexadecimal string of a value. -/
structure CoversAllBut (pdf : List UInt8) (range : ByteRange) (contents : List UInt8) : Prop where
  start : range.start1 = 0
  within : range.start2 + range.len2 ≤ pdf.length
  token : TokenBetween pdf (range.start1 + range.len1) range.start2 contents

/-- What was found of a signature's range is so. -/
structure Checks (pdf : List UInt8) (sig : Dictionary) (checked : CheckedRange) : Prop where
  numbers : sig.array? "ByteRange" = some checked.byteRange.objects
  first : checked.byteRange.start1 + checked.byteRange.len1 ≤ pdf.length
  second : checked.byteRange.start2 + checked.byteRange.len2 ≤ pdf.length
  digested : checked.digested =
    (pdf.take (checked.byteRange.start1 + checked.byteRange.len1)).drop checked.byteRange.start1 ++
      (pdf.take (checked.byteRange.start2 + checked.byteRange.len2)).drop checked.byteRange.start2
  coveredLen : checked.coveredLen = checked.byteRange.len1 + checked.byteRange.len2
  signedRevisionLen : checked.signedRevisionLen =
    checked.byteRange.start2 + checked.byteRange.len2
  contents : (sig.get "Contents").bind asStr = some checked.contents
  gap : checked.gapIsExactlyContents = true ↔
    CoversAllBut pdf checked.byteRange checked.contents

theorem checkedAdd_all {first second total : Nat} (addressable : total < 2 ^ 63) :
    (checkedAddUsize first second).all (total < ·) = true ↔ total < first + second := by
  unfold checkedAddUsize
  split
  · simp
  · simp only [Option.all_none, true_iff]
    omega

theorem settles_usizeOf {value : Int} : Settles (usizeOf value) fun number => value = number := by
  unfold usizeOf
  split
  · exact settles_ok (by omega)
  · exact settles_refused

theorem eq_integer_of_asI64 {object : Object} {value : Int} (found : asI64 object = some value) :
    object = .integer value := by
  cases object <;> cases found
  rfl

theorem settles_parseByteRange {sig : Dictionary} :
    Settles (parseByteRange sig) fun range => sig.array? "ByteRange" = some range.objects := by
  unfold parseByteRange
  refine settles_orRefused.bind fun items array => ?_
  split
  · rename_i first second third fourth
    refine settles_orRefused.bind fun s1 integer1 => ?_
    refine settles_orRefused.bind fun l1 integer2 => ?_
    refine settles_orRefused.bind fun s2 integer3 => ?_
    refine settles_orRefused.bind fun l2 integer4 => ?_
    refine settles_usizeOf.bind fun start1 value1 => ?_
    refine settles_usizeOf.bind fun len1 value2 => ?_
    refine settles_usizeOf.bind fun start2 value3 => ?_
    refine settles_usizeOf.bind fun len2 value4 => settles_ok ?_
    rw [array, eq_integer_of_asI64 integer1, eq_integer_of_asI64 integer2,
      eq_integer_of_asI64 integer3, eq_integer_of_asI64 integer4, value1, value2, value3, value4]
    rfl
  · exact settles_refused

/-- **The range of a signature is checked without a panic.** -/
theorem settles_checkRange (file : PdfFile) (sig : Dictionary) :
    Settles (checkRange file.bytes sig) (Checks file.bytes sig) := by
  have addressable := file.addressable
  unfold checkRange
  refine settles_parseByteRange.bind fun range numbers => ?_
  obtain ⟨s1, l1, s2, l2⟩ := range
  dsimp only
  split
  · exact settles_refused
  rename_i inside
  rw [not_or, checkedAdd_all addressable, checkedAdd_all addressable, not_lt, not_lt] at inside
  rw [addUsize_of_lt (by omega), addUsize_of_lt (by omega), addUsize_of_lt (by omega)]
  dsimp only [Bind.bind, Except.bind]
  rw [slice_of_le (by omega) inside.1]
  dsimp only
  rw [slice_of_le (by omega) inside.2]
  dsimp only
  refine settles_orRefused.bind fun contents found => ?_
  obtain ⟨answer, compared, token⟩ :=
    @gapMatchesContents_spec ValidationError file.bytes contents (s1 + l1) s2
  by_cases start : s1 = 0
  · rw [if_pos start, compared]
    refine settles_ok ⟨numbers, inside.1, inside.2, rfl, rfl, rfl, found, ?_⟩
    rw [token]
    exact ⟨fun between => ⟨start, inside.2, between⟩, fun covers => covers.token⟩
  · rw [if_neg start]
    refine settles_ok ⟨numbers, inside.1, inside.2, rfl, rfl, rfl, found, ?_⟩
    exact iff_of_false Bool.false_ne_true fun covers => start covers.start

theorem settles_rangeNumber {item : Object} :
    Settles (rangeNumber item) fun number => item = .integer number := by
  unfold rangeNumber
  refine settles_orRefused.bind fun value found => ?_
  split
  · refine settles_ok ?_
    rw [eq_integer_of_asI64 found]
    congr 1
    omega
  · exact settles_refused

/-- **The range of an archive timestamp is checked without a panic**, and covers all but its
token, to the end of a revision. -/
theorem settles_docTimestampByteRange (file : PdfFile) (dict : Dictionary) :
    Settles (docTimestampByteRange dict file.bytes) fun range =>
      dict.array? "ByteRange" = some range.objects ∧
      (∃ contents, (dict.get "Contents").bind asStr = some contents ∧
        CoversAllBut file.bytes range contents) ∧
      endsAtRevisionBoundary file.bytes (range.start2 + range.len2) = true := by
  have addressable := file.addressable
  unfold docTimestampByteRange
  refine settles_orRefused.bind fun items array => ?_
  split
  · rename_i first second third fourth
    refine settles_rangeNumber.bind fun s1 integer1 => ?_
    refine settles_rangeNumber.bind fun l1 integer2 => ?_
    refine settles_rangeNumber.bind fun s2 integer3 => ?_
    refine settles_rangeNumber.bind fun l2 integer4 => ?_
    split
    · exact settles_refused
    rename_i inside
    rw [not_or, checkedAdd_all addressable, checkedAdd_all addressable, not_lt, not_lt] at inside
    split
    · exact settles_refused
    rename_i start
    rw [not_not] at start
    refine settles_orRefused.bind fun contents found => ?_
    obtain ⟨answer, compared, token⟩ :=
      @gapMatchesContents_spec DocTimeStampFailureReason file.bytes contents (s1 + l1) s2
    rw [addUsize_of_lt (by omega), addUsize_of_lt (by omega)]
    dsimp only [Bind.bind, Except.bind]
    rw [compared]
    dsimp only
    split
    · exact settles_refused
    rename_i matched
    split
    · exact settles_refused
    rename_i ends
    rw [Bool.not_eq_true', Bool.not_eq_false] at matched ends
    refine settles_ok ⟨?_, ⟨contents, found, start, inside.2, token.mp matched⟩, ends⟩
    rw [array, integer1, integer2, integer3, integer4]
    rfl
  · exact settles_refused

/-! ### The coverage -/

section Hashed

variable {pdf : List UInt8}

def Digested (range : ByteRange) (index : Nat) : Prop :=
  range.start1 ≤ index ∧ index < range.start1 + range.len1 ∨
    range.start2 ≤ index ∧ index < range.start2 + range.len2

theorem CoversAllBut.inside {range : ByteRange} {contents : List UInt8} {index : Nat}
    (covers : CoversAllBut pdf range contents) (within : index < range.start2 + range.len2)
    (apart : ¬Digested range index) :
    range.start1 + range.len1 ≤ index ∧ index < range.start2 := by
  have start := covers.start
  have token := covers.token.1
  unfold Digested at apart
  omega

theorem TokenBetween.brackets {contents : List UInt8} {start stop : Nat}
    (token : TokenBetween pdf start stop contents) :
    pdf[start]? = some 60 ∧ pdf[stop - 1]? = some 62 := by
  obtain ⟨ordered, within, inner, text, -⟩ := token
  have length := congrArg List.length text
  rw [List.length_drop, List.length_take, List.length_cons, List.length_append,
    List.length_singleton, min_eq_left within] at length
  have at_ : ∀ index, start + index < stop →
      pdf[start + index]? = (60 :: (inner ++ [62]) : List UInt8)[index]? := by
    intro index inside
    rw [← text, getElem?_slice, if_pos inside]
  constructor
  · exact at_ 0 ordered
  · have last := at_ (inner.length + 1) (by omega)
    rw [show start + (inner.length + 1) = stop - 1 by omega] at last
    rw [last, List.getElem?_cons_succ, List.getElem?_concat_length]

theorem getElem?_of_digested {pdf' : List UInt8} {range : ByteRange} {index : Nat}
    (first : range.start1 + range.len1 ≤ pdf.length)
    (first' : range.start1 + range.len1 ≤ pdf'.length)
    (same : (pdf.take (range.start1 + range.len1)).drop range.start1 ++
        (pdf.take (range.start2 + range.len2)).drop range.start2 =
      (pdf'.take (range.start1 + range.len1)).drop range.start1 ++
        (pdf'.take (range.start2 + range.len2)).drop range.start2)
    (hashed : Digested range index) : pdf[index]? = pdf'[index]? := by
  have lengths : ((pdf.take (range.start1 + range.len1)).drop range.start1).length =
      ((pdf'.take (range.start1 + range.len1)).drop range.start1).length := by
    rw [List.length_drop, List.length_drop, List.length_take, List.length_take,
      min_eq_left first, min_eq_left first']
  obtain ⟨head, tail⟩ := List.append_inj same lengths
  rcases hashed with ⟨from_, to_⟩ | ⟨from_, to_⟩
  · have byte := congrArg (·[index - range.start1]?) head
    rw [getElem?_slice, getElem?_slice, Nat.add_sub_cancel' from_, if_pos to_, if_pos to_] at byte
    exact byte
  · have byte := congrArg (·[index - range.start2]?) tail
    rw [getElem?_slice, getElem?_slice, Nat.add_sub_cancel' from_, if_pos to_, if_pos to_] at byte
    exact byte

end Hashed

section Coverage

variable [LopdfCrate] {pdf : List UInt8} {checked : CheckedRange}
  {coverage : PdfSignatureCoverage}

/-- The range is that of the first signature of the document. -/
def OfFirstSignature (pdf : List UInt8) (checked : CheckedRange) : Prop :=
  ∃ doc id sig, LopdfCrate.loadMem pdf = .ok doc ∧
    (signatureDictionaries doc).head? = some (id, sig) ∧ Checks pdf sig checked

theorem settles_rangeOf (file : PdfFile) :
    Settles (rangeOf file.bytes) fun found => OfFirstSignature file.bytes found.2 := by
  unfold rangeOf
  cases loaded : LopdfCrate.loadMem file.bytes with
  | error message => exact settles_refused
  | ok doc =>
      dsimp only
      cases head : (signatureDictionaries doc).head? with
      | none => exact settles_refused
      | some entry =>
          exact (settles_checkRange file entry.2).map fun checked checks =>
            ⟨doc, entry.1, entry.2, loaded, head, checks⟩

theorem of_coverageOf (file : PdfFile) (reached : coverageOf file.bytes = .ok (checked, coverage)) :
    OfFirstSignature file.bytes checked ∧
      (coverage ≠ .malformed → checked.gapIsExactlyContents = true) ∧
      (coverage = .wholeDocument → file.bytes.length ≤ checked.signedRevisionLen) := by
  unfold coverageOf at reached
  rcases settles_rangeOf file with ⟨error, refused⟩ | ⟨⟨doc, found⟩, ranged, first⟩
  · rw [refused] at reached
    cases reached
  rw [ranged] at reached
  dsimp only [Bind.bind, Except.bind] at reached
  split at reached
  · cases reached
    exact ⟨first, fun sound => absurd rfl sound, nofun⟩
  rename_i exact_
  rw [Bool.not_eq_true', Bool.not_eq_false] at exact_
  split at reached
  · rename_i last
    cases reached
    refine ⟨first, fun _ => exact_, fun _ => ?_⟩
    simpa using last
  · cases classified : (classifyLaterUpdates doc file.bytes found.signedRevisionLen :
        Except (Stop ValidationError) LaterUpdateClass) with
    | error stop =>
        rw [classified] at reached
        cases reached
    | ok class_ =>
        rw [classified] at reached
        cases class_ <;> cases reached
        · exact ⟨first, fun _ => exact_, nofun⟩
        · exact ⟨first, fun _ => exact_, nofun⟩

theorem covers_of_coverageOf (file : PdfFile)
    (reached : coverageOf file.bytes = .ok (checked, coverage)) (sound : coverage ≠ .malformed) :
    CoversAllBut file.bytes checked.byteRange checked.contents ∧
      ∃ sig, Checks file.bytes sig checked := by
  obtain ⟨⟨doc, id, sig, -, -, checks⟩, exact_, -⟩ := of_coverageOf file reached
  exact ⟨checks.gap.mp (exact_ sound), sig, checks⟩

end Coverage

/-- **What a signature covers.** The range of a signature or of an archive timestamp is checked
without a panic. Unless a signature's coverage is called malformed, its range starts with the file,
ends within it and leaves out one hexadecimal string with the value of `/Contents`; for the whole
document it ends with the file. Two files with one length of their signed revision that agree in
all positions hashed differ in the revision inside the tokens only, and where their ranges are one
and the hashed bytes the same, between the brackets of the token. -/
theorem byteRange_coverage [LopdfCrate] :
    (∀ (file : PdfFile) (cause : Panic), rangeOf file.bytes ≠ .error (.panic cause)) ∧
    (∀ (file : PdfFile) (dict : Dictionary),
      (∀ cause, docTimestampByteRange dict file.bytes ≠ .error (.panic cause)) ∧
      ∀ range, docTimestampByteRange dict file.bytes = .ok range →
        (∃ contents, (dict.get "Contents").bind asStr = some contents ∧
          CoversAllBut file.bytes range contents) ∧
        endsAtRevisionBoundary file.bytes (range.start2 + range.len2) = true) ∧
    (∀ (file : PdfFile) (checked : CheckedRange) (coverage : PdfSignatureCoverage),
      coverageOf file.bytes = .ok (checked, coverage) → coverage ≠ .malformed →
        OfFirstSignature file.bytes checked ∧
        CoversAllBut file.bytes checked.byteRange checked.contents ∧
        (coverage = .wholeDocument →
          checked.byteRange.start2 + checked.byteRange.len2 = file.bytes.length)) ∧
    ∀ (file file' : PdfFile) (checked checked' : CheckedRange)
      (coverage coverage' : PdfSignatureCoverage),
      coverageOf file.bytes = .ok (checked, coverage) → coverage ≠ .malformed →
      coverageOf file'.bytes = .ok (checked', coverage') → coverage' ≠ .malformed →
      checked.signedRevisionLen = checked'.signedRevisionLen →
        ((∀ index, Digested checked.byteRange index ∨ Digested checked'.byteRange index →
            file.bytes[index]? = file'.bytes[index]?) →
          ∀ index < checked.signedRevisionLen, file.bytes[index]? ≠ file'.bytes[index]? →
            (checked.byteRange.start1 + checked.byteRange.len1 ≤ index ∧
              index < checked.byteRange.start2) ∧
            checked'.byteRange.start1 + checked'.byteRange.len1 ≤ index ∧
              index < checked'.byteRange.start2) ∧
        (checked.byteRange = checked'.byteRange → checked.digested = checked'.digested →
          ∀ index < checked.signedRevisionLen, file.bytes[index]? ≠ file'.bytes[index]? →
            checked.byteRange.start1 + checked.byteRange.len1 < index ∧
              index + 1 < checked.byteRange.start2) := by
  refine ⟨fun file => (settles_rangeOf file).not_panic, fun file dict => ?_,
    fun file checked coverage reached sound => ?_,
    fun file file' checked checked' coverage coverage' reached sound reached' sound' lengths => ?_⟩
  · have settles := settles_docTimestampByteRange file dict
    exact ⟨settles.not_panic, fun range given => (settles.of_ok given).2⟩
  · obtain ⟨covers, sig, checks⟩ := covers_of_coverageOf file reached sound
    obtain ⟨first, -, whole⟩ := of_coverageOf file reached
    refine ⟨first, covers, fun last => ?_⟩
    have reaches := whole last
    rw [checks.signedRevisionLen] at reaches
    exact le_antisymm covers.within reaches
  · obtain ⟨covers, sig, checks⟩ := covers_of_coverageOf file reached sound
    obtain ⟨covers', sig', checks'⟩ := covers_of_coverageOf file' reached' sound'
    rw [checks.signedRevisionLen, checks'.signedRevisionLen] at lengths
    rw [checks.signedRevisionLen]
    constructor
    · intro agree index within differ
      exact ⟨covers.inside within fun hashed => differ (agree index (.inl hashed)),
        covers'.inside (lengths ▸ within) fun hashed => differ (agree index (.inr hashed))⟩
    · intro ranges same index within differ
      rw [checks.digested, checks'.digested, ← ranges] at same
      have first' := checks'.first
      have token' := covers'.token.brackets
      rw [← ranges] at first' token'
      have apart : ¬Digested checked.byteRange index := fun hashed =>
        differ (getElem?_of_digested checks.first first' same hashed)
      obtain ⟨from_, to_⟩ := covers.inside within apart
      obtain ⟨opening, closing⟩ := covers.token.brackets
      constructor
      · refine lt_of_le_of_ne from_ fun bracket => differ ?_
        rw [← bracket, opening, token'.1]
      · refine lt_of_le_of_ne to_ fun bracket => differ ?_
        rw [show index = checked.byteRange.start2 - 1 by omega, closing, token'.2]

/-! ### A signed file -/

namespace SignedPage

def pdf : List UInt8 :=
  Text.utf8 "%PDF-1.4\n1 0 obj\n<</Type/Catalog>>\nendobj\n" ++
    Text.utf8 "2 0 obj\n<</Type/Sig/ByteRange[0 93 99 130]/Contents<3000>>>\nendobj\n" ++
    Text.utf8 "xref\n0 3\n0000000000 65535 f \n0000000009 00000 n \n0000000042 00000 n \n" ++
    Text.utf8 "trailer\n<</Size 3/Root 1 0 R>>\nstartxref\n109\n%%EOF\n"

def document : Document where
  objects := [⟨(1, 0), .dictionary [(Text.utf8 "Type", .name (Text.utf8 "Catalog"))]⟩,
    ⟨(2, 0), .dictionary [(Text.utf8 "Type", .name (Text.utf8 "Sig")),
      (Text.utf8 "ByteRange", .array [.integer 0, .integer 93, .integer 99, .integer 130]),
      (Text.utf8 "Contents", .string [0x30, 0x00] .hexadecimal)]⟩].toAList
  trailer := [(Text.utf8 "Size", .integer 3), (Text.utf8 "Root", .reference (1, 0))]
  maxId := 2

/-- The crate on this file. -/
scoped instance lopdf : LopdfCrate where
  loadMem bytes := if bytes = pdf then .ok document else .error "invalid file header"
  decompressedContent _ _ := none
  removeKey dict key := dict.filter fun entry => entry.1 ≠ Text.utf8 key

def file : PdfFile := ⟨pdf, by decide +kernel⟩

def coversWhole : Bool :=
  match coverageOf pdf with
  | .ok (checked, coverage) =>
      coverage = .wholeDocument && checked.byteRange = ⟨0, 93, 99, 130⟩
  | .error _ => false

end SignedPage

open scoped SignedPage in
theorem byteRange_coverage_signedPage :
    ∃ checked, coverageOf SignedPage.pdf = .ok (checked, .wholeDocument) ∧
      CoversAllBut SignedPage.pdf ⟨0, 93, 99, 130⟩ checked.contents := by
  have whole : SignedPage.coversWhole = true := by decide +kernel
  unfold SignedPage.coversWhole at whole
  cases reached : coverageOf SignedPage.pdf with
  | error stop =>
      rw [reached] at whole
      cases whole
  | ok found =>
      obtain ⟨checked, coverage⟩ := found
      rw [reached] at whole
      obtain ⟨covered, range⟩ := Bool.and_eq_true_iff.mp whole
      obtain rfl := of_decide_eq_true covered
      refine ⟨checked, rfl, ?_⟩
      rw [← of_decide_eq_true range]
      exact (byteRange_coverage.2.2.1 SignedPage.file checked .wholeDocument reached nofun).2.1

end Chancela.Pades
