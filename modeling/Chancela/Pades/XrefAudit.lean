import Chancela.Pades.ByteRange
import Chancela.Pades.ObjectRoundTrip
import Chancela.Pades.XrefReader

/-! # What the audit of appended sections vouches for

The audit reads on from a section at the first text `/Prev` behind its `trailer`. What it reads it
reads as a reader does: a table it passes frees nothing (`Chancela.Pades.freesNothing_of_table`).
But it adds to an offset before it knows that the file goes so far, and sections that a reader
comes to by another way it does not see: through `/XRefStm`, through a `/Prev` that stands behind
another text of that name, or out of the signed revision
(`Chancela.Pades.audit_sound_iff`).
-/

namespace Chancela.Pades

open Lopdf Decimal Reader Slices Pattern

/-! ### Tokens of a table -/

section Tokens

variable {byte : UInt8} {token text rest : List UInt8} {more : List (List UInt8)}

theorem isPdfWhitespace_of_ascii (blank : Pdf.isAsciiWhitespace byte = true) :
    isPdfWhitespace byte = true := by
  unfold Pdf.isAsciiWhitespace at blank
  simp only [List.mem_cons, List.not_mem_nil, or_false, decide_eq_true_eq] at blank
  rcases blank with rfl | rfl | rfl | rfl | rfl <;> rfl

theorem tokens_blank (blank : Pdf.isAsciiWhitespace byte = true) :
    tokens (byte :: text) = tokens text := by
  unfold tokens
  rw [List.splitOnP_cons_eq_if_modifyHead, if_pos blank, List.filter_cons_of_neg]
  exact fun filled => of_decide_eq_true filled rfl

theorem tokens_word (nonempty : token ≠ [])
    (inked : ∀ byte ∈ token, Pdf.isAsciiWhitespace byte = false)
    (ended : ∀ byte ∈ rest.head?, Pdf.isAsciiWhitespace byte = true) :
    tokens (token ++ rest) = token :: tokens rest := by
  have kept : ∀ others : List (List UInt8),
      (token :: others).filter (· ≠ []) = token :: others.filter (· ≠ []) :=
    fun others => List.filter_cons_of_pos (decide_eq_true nonempty)
  cases rest with
  | nil =>
      unfold tokens
      rw [List.append_nil, List.splitOnP_eq_singleton inked, kept]
      rfl
  | cons byte rest =>
      have blank := ended byte rfl
      rw [tokens_blank blank]
      unfold tokens
      rw [List.splitOnP_append_cons_of_forall_mem inked byte blank, kept]

theorem exists_word (inked : ¬Pdf.isAsciiWhitespace byte = true) :
    ∃ token tail, byte :: text = token ++ tail ∧ token ≠ [] ∧
      tokens (byte :: text) = token :: tokens tail ∧
      ∀ other ∈ tail.head?, Pdf.isAsciiWhitespace other = true := by
  have word : ∀ other ∈ (byte :: text).takeWhile (!Pdf.isAsciiWhitespace ·),
      Pdf.isAsciiWhitespace other = false := fun other member => by
    simpa using List.mem_takeWhile_imp member
  have ended : ∀ other ∈ ((byte :: text).dropWhile (!Pdf.isAsciiWhitespace ·)).head?,
      Pdf.isAsciiWhitespace other = true := fun other head => by
    have stops := List.head?_dropWhile_not (!Pdf.isAsciiWhitespace ·) (byte :: text)
    rw [Option.mem_def.mp head] at stops
    simpa using stops
  have nonempty : (byte :: text).takeWhile (!Pdf.isAsciiWhitespace ·) ≠ [] := by
    rw [List.takeWhile_cons_of_pos (by simpa using inked)]
    exact List.cons_ne_nil _ _
  have split := tokens_word nonempty word ended
  rw [List.takeWhile_append_dropWhile] at split
  exact ⟨_, _, List.takeWhile_append_dropWhile.symm, nonempty, split, ended⟩

theorem tokens_eq_cons (split : tokens text = token :: more) :
    ∃ blanks tail, text = blanks ++ (token ++ tail) ∧ token ≠ [] ∧ tokens tail = more ∧
      (∀ byte ∈ blanks, Pdf.isAsciiWhitespace byte = true) ∧
      ∀ byte ∈ tail.head?, Pdf.isAsciiWhitespace byte = true := by
  induction text with
  | nil => cases split
  | cons byte text ih =>
      by_cases blank : Pdf.isAsciiWhitespace byte = true
      · rw [tokens_blank blank] at split
        obtain ⟨blanks, tail, shape, nonempty, others, allBlank, ended⟩ := ih split
        refine ⟨byte :: blanks, tail, ?_, nonempty, others, ?_, ended⟩
        · rw [shape, List.cons_append]
        · exact List.forall_mem_cons.mpr ⟨blank, allBlank⟩
      · obtain ⟨word, tail, shape, nonempty, split', ended⟩ := exists_word blank
        rw [split] at split'
        obtain ⟨rfl, rfl⟩ := List.cons.inj split'
        exact ⟨[], tail, shape, nonempty, rfl, nofun, ended⟩

theorem blank_of_tokens_eq_nil (empty : tokens text = []) :
    ∀ byte ∈ text, Pdf.isAsciiWhitespace byte = true := by
  induction text with
  | nil => exact nofun
  | cons byte text ih =>
      by_cases blank : Pdf.isAsciiWhitespace byte = true
      · rw [tokens_blank blank] at empty
        exact List.forall_mem_cons.mpr ⟨blank, ih empty⟩
      · obtain ⟨word, tail, -, -, split, -⟩ := exists_word blank
        rw [empty] at split
        cases split

theorem skipBlanks_blanks {blanks : List UInt8}
    (blank : ∀ byte ∈ blanks, Pdf.isAsciiWhitespace byte = true) :
    skipBlanks (blanks ++ rest) = skipBlanks rest := by
  induction blanks with
  | nil => rfl
  | cons byte blanks ih =>
      obtain ⟨here, others⟩ := List.forall_mem_cons.mp blank
      rw [List.cons_append]
      unfold skipBlanks at ih ⊢
      rw [skipFrom, if_pos (isPdfWhitespace_of_ascii here), ih others]

theorem not_isDigit_of_ascii (blank : Pdf.isAsciiWhitespace byte = true) :
    isDigit byte = false := by
  unfold Pdf.isAsciiWhitespace at blank
  simp only [List.mem_cons, List.not_mem_nil, or_false, decide_eq_true_eq] at blank
  rcases blank with rfl | rfl | rfl | rfl | rfl <;> rfl

theorem readDigits_token {number : Nat} (split : tokens text = token :: more)
    (parsed : asciiU32 token = some number) (undigit : ∀ byte ∈ rest.head?, isDigit byte = false) :
    ∃ tail, tokens tail = more ∧ readDigits (text ++ rest) = some (number, tail ++ rest) := by
  obtain ⟨blanks, tail, rfl, nonempty, others, blank, ended⟩ := tokens_eq_cons split
  refine ⟨tail, others, ?_⟩
  unfold asciiU32 at parsed
  split at parsed
  · cases parsed
  rename_i fits
  simp only [not_or, Bool.not_eq_false] at fits
  obtain ⟨-, digits, -⟩ := fits
  have stops : ∀ byte ∈ (tail ++ rest).head?, ¬isDigit byte = true := by
    intro byte head
    cases tail with
    | nil => exact Bool.eq_false_iff.mp (undigit byte head)
    | cons first tail =>
        obtain rfl := Option.some.inj head
        exact Bool.eq_false_iff.mp (not_isDigit_of_ascii (ended first rfl))
  have skipped : skipBlanks (blanks ++ (token ++ tail) ++ rest) = token ++ (tail ++ rest) := by
    rw [List.append_assoc, skipBlanks_blanks blank, List.append_assoc]
    obtain ⟨byte, others, shape⟩ := List.exists_cons_of_ne_nil nonempty
    have digit : isDigit byte = true := List.all_eq_true.mp digits byte (by
      rw [shape]
      exact List.mem_cons_self)
    rw [shape]
    exact skipBlanks_of_opens (opens_of_regular (isRegular_of_isDigit digit))
  have taken : (token ++ (tail ++ rest)).takeWhile isDigit = token ∧
      (token ++ (tail ++ rest)).dropWhile isDigit = tail ++ rest := by
    rw [List.takeWhile_append_of_pos (List.all_eq_true.mp digits),
      List.dropWhile_append_of_pos (List.all_eq_true.mp digits)]
    cases shape : tail ++ rest with
    | nil => exact ⟨List.append_nil token, rfl⟩
    | cons byte others =>
        have stop := stops byte (by rw [shape]; rfl)
        exact ⟨by rw [List.takeWhile_cons_of_neg stop, List.append_nil],
          List.dropWhile_cons_of_neg stop⟩
  unfold readDigits readNatural
  rw [skipped, taken.1, taken.2, if_pos ⟨nonempty, digits⟩, Option.some.inj parsed]
  rfl

theorem readKind_token {number : Nat} (split : tokens text = token :: more)
    (admitted : admitsKind number token = true) (rest : List UInt8) :
    ∃ tail kind, tokens tail = more ∧ readKind (text ++ rest) = some (kind, tail ++ rest) ∧
      (kind = 110 ∨ number = 0) := by
  obtain ⟨blanks, tail, rfl, nonempty, others, blank, ended⟩ := tokens_eq_cons split
  unfold admitsKind at admitted
  rw [Bool.or_eq_true, Bool.and_eq_true, decide_eq_true_eq, decide_eq_true_eq,
    decide_eq_true_eq] at admitted
  unfold readKind
  rw [List.append_assoc, skipBlanks_blanks blank]
  rcases admitted with rfl | ⟨rfl, zero⟩
  · exact ⟨tail, 110, others, rfl, .inl rfl⟩
  · exact ⟨tail, 102, others, rfl, .inr zero⟩

theorem readXrefEntries_tokens {first index left : Nat}
    (parsed : entriesFreeNothing first index left (tokens text) = some more)
    (undigit : ∀ byte ∈ rest.head?, isDigit byte = false) :
    ∃ tail entries, tokens tail = more ∧
      readXrefEntries (first + index) left (text ++ rest) = some (entries, tail ++ rest) ∧
      ∀ entry ∈ entries, entry.kind = 110 ∨ entry.number = 0 := by
  induction left generalizing index text with
  | zero =>
      rw [entriesFreeNothing] at parsed
      cases parsed
      exact ⟨text, [], rfl, rfl, List.forall_mem_nil _⟩
  | succ left ih =>
      cases list : tokens text with
      | nil => rw [list, entriesFreeNothing] at parsed <;> cases parsed
      | cons offset list' =>
      cases list' with
      | nil => rw [list, entriesFreeNothing] at parsed <;> cases parsed
      | cons generation list' =>
      cases list' with
      | nil => rw [list, entriesFreeNothing] at parsed <;> cases parsed
      | cons kind list' =>
          rw [list, entriesFreeNothing] at parsed
          split at parsed
          · cases parsed
          rename_i good
          simp only [Bool.or_eq_true, not_or, Bool.not_eq_true, Option.isNone_eq_false_iff,
            Bool.not_eq_false', Option.isSome_iff_exists] at good
          obtain ⟨⟨⟨_, offsetRead⟩, _, generationRead⟩, admitted⟩ := good
          obtain ⟨behind, others, read⟩ := readDigits_token list offsetRead undigit
          obtain ⟨behind', others', read'⟩ := readDigits_token others generationRead undigit
          obtain ⟨tail, letter, more', read'', harmless⟩ :=
            readKind_token others' admitted rest
          rw [← more'] at parsed
          obtain ⟨tail', entries, last, readOthers, harmlessOthers⟩ := ih parsed
          refine ⟨tail', ⟨first + index, letter⟩ :: entries, last, ?_, ?_⟩
          · rw [readXrefEntries, readXrefEntry, read]
            dsimp only [Option.bind_eq_bind, Option.bind_some]
            rw [read']
            dsimp only [Option.bind_some]
            rw [read'']
            dsimp only [Option.bind_some, Option.pure_def]
            rw [Nat.add_assoc, readOthers]
            rfl
          · exact List.forall_mem_cons.mpr ⟨harmless, harmlessOthers⟩

theorem not_trailer_of_readDigits {read : Nat × List UInt8} (digits : readDigits text = some read) :
    ¬Text.utf8 "trailer" <+: skipBlanks text := by
  intro keyword
  obtain ⟨behind, shape⟩ := keyword
  unfold readDigits at digits
  rw [← shape] at digits
  cases digits

/-- **A table the audit passes frees nothing**, as the reader reads it. -/
theorem readSubsections_tokens {behind : List UInt8} (fuel : Nat)
    (passed : subsectionsFreeNothing (tokens text) = true) (enough : (tokens text).length < fuel) :
    ∃ entries, readSubsections fuel (text ++ (Text.utf8 "trailer" ++ behind)) =
        some (entries, behind) ∧ ∀ entry ∈ entries, entry.kind = 110 ∨ entry.number = 0 := by
  have undigit : ∀ byte ∈ (Text.utf8 "trailer" ++ behind).head?, isDigit byte = false := by
    intro byte head
    obtain rfl := Option.some.inj head
    rfl
  generalize list_eq : tokens text = list at passed enough
  induction fuel generalizing text list with
  | zero => exact absurd enough (Nat.not_lt_zero _)
  | succ fuel ih =>
      cases list with
      | nil =>
          have skipped : skipBlanks (text ++ (Text.utf8 "trailer" ++ behind)) =
              Text.utf8 "trailer" ++ behind := by
            rw [skipBlanks_blanks (blank_of_tokens_eq_nil list_eq)]
            exact skipBlanks_of_opens (show Opens 116 from ⟨rfl, nofun⟩)
          refine ⟨[], ?_, nofun⟩
          rw [readSubsections, skipped, if_pos (List.prefix_append _ _)]
          rfl
      | cons first list =>
      cases list with
      | nil =>
          rw [subsectionsFreeNothing] at passed
          cases passed
      | cons count list =>
          rw [subsectionsFreeNothing] at passed
          cases firstRead : asciiU32 first with
          | none =>
              rw [firstRead] at passed
              cases passed
          | some number =>
          cases countRead : asciiU32 count with
          | none =>
              rw [firstRead, countRead] at passed
              cases passed
          | some left =>
              rw [firstRead, countRead] at passed
              dsimp only at passed
              split at passed
              · rename_i others parsed
                have fewer := length_of_entriesFreeNothing parsed
                obtain ⟨tail, split, read⟩ := readDigits_token list_eq firstRead undigit
                obtain ⟨tail', split', read'⟩ := readDigits_token split countRead undigit
                rw [← split'] at parsed
                obtain ⟨tail'', entries, split'', read'', harmless⟩ :=
                  readXrefEntries_tokens parsed undigit
                simp only [List.length_cons] at enough
                obtain ⟨entries', readOthers, harmless'⟩ := ih others split'' passed (by omega)
                refine ⟨entries ++ entries', ?_, ?_⟩
                · rw [readSubsections, if_neg (not_trailer_of_readDigits read), read]
                  dsimp only [Option.bind_eq_bind, Option.bind_some]
                  rw [read']
                  dsimp only [Option.bind_some]
                  rw [← Nat.add_zero number, read'']
                  dsimp only [Option.bind_some]
                  rw [readOthers]
                  rfl
                · exact List.forall_mem_append.mpr ⟨harmless, harmless'⟩
              · cases passed

end Tokens

/-! ### The walk -/

section Walk

variable {pdf : List UInt8} {signedRevisionLen : Nat}

/-- The text of the table at an offset, and of the trailer behind it. -/
def tableAt (pdf : List UInt8) (offset : Nat) : Option (List UInt8 × List UInt8) :=
  if Text.utf8 "xref" <+: pdf.drop offset then
    (Pdf.find (pdf.drop offset) (Text.utf8 "trailer")).map fun found =>
      let trailer := pdf.drop (offset + found)
      (((pdf.drop offset).take found).drop 4,
        trailer.take ((Pdf.find trailer (Text.utf8 "startxref")).getD trailer.length))
  else none

def textualPrev (pdf : List UInt8) (offset : Nat) : Option Nat := do
  let (body, trailer) ← tableAt pdf offset
  if xrefTableFreesNothing body then trailerKeyInteger trailer (Text.utf8 "/Prev") else none

/-- The sections the audit comes to, with those it has read on the way. -/
inductive Walks (pdf : List UInt8) (signedRevisionLen : Nat) : List Nat → Nat → Prop
  | first {offset : Nat} (named : Pdf.lastStartxref pdf = some offset) :
      Walks pdf signedRevisionLen [] offset
  | next {seen : List Nat} {offset prev : Nat} (walked : Walks pdf signedRevisionLen seen offset)
      (appended : signedRevisionLen ≤ offset) (fresh : offset ∉ seen)
      (few : seen.length < maxAppendedXrefSections) (named : textualPrev pdf offset = some prev) :
      Walks pdf signedRevisionLen (offset :: seen) prev

def Passed (pdf : List UInt8) (signedRevisionLen offset : Nat) : Prop :=
  ∃ seen next, Walks pdf signedRevisionLen (offset :: seen) next

theorem prefix_of_find {haystack needle : List UInt8} {index : Nat}
    (found : Pdf.find haystack needle = some index) :
    needle <+: haystack.drop index ∧ index + needle.length ≤ haystack.length := by
  unfold Pdf.find at found
  split at found
  · cases found
  rename_i nonempty
  obtain ⟨occurs, -⟩ := position_spec found
  refine ⟨occurs, ?_⟩
  have fits := occurs.length_le
  rw [List.length_drop] at fits
  have positive : 0 < needle.length := List.length_pos_iff.mpr fun empty => nonempty (.inl empty)
  omega

theorem le_of_table {bytes : List UInt8} {found : Nat} (opened : Text.utf8 "xref" <+: bytes)
    (keyword : Text.utf8 "trailer" <+: bytes.drop found) : 4 ≤ found := by
  obtain ⟨rest, rfl⟩ := opened
  obtain ⟨behind, shape⟩ := keyword
  by_contra early
  have cases_ : found = 0 ∨ found = 1 ∨ found = 2 ∨ found = 3 := by omega
  rcases cases_ with rfl | rfl | rfl | rfl
  all_goals cases shape

/-- `get` of four bytes. -/
theorem slice?_eq_xref_iff {offset : Nat} :
    slice? pdf offset (offset + 4) = some (Text.utf8 "xref") ↔
      Text.utf8 "xref" <+: pdf.drop offset := by
  have part : (pdf.take (offset + 4)).drop offset = (pdf.drop offset).take 4 := by
    rw [List.drop_take, Nat.add_sub_cancel_left]
  unfold slice?
  rw [part]
  constructor
  · intro present
    split at present
    · rw [← Option.some.inj present]
      exact List.take_prefix _ _
    · cases present
  · intro opened
    have fits := opened.length_le
    rw [List.length_drop] at fits
    change 4 ≤ _ at fits
    rw [if_pos ⟨Nat.le_add_right _ _, by omega⟩, List.prefix_iff_eq_take.mp opened]
    rfl

/-- **A turn of the loop** reads on at the first text `/Prev` of what it passes. -/
theorem auditSection_eq {ε : Type} (file : PdfFile) {offset : Nat} (near : offset + 4 < 2 ^ 64) :
    (auditSection file.bytes offset : Except (Stop ε) (Option Nat)) =
      .ok (textualPrev file.bytes offset) := by
  have addressable := file.addressable
  unfold auditSection textualPrev tableAt
  rw [addUsize_of_lt near]
  dsimp only [bind, Except.bind]
  by_cases opened : Text.utf8 "xref" <+: file.bytes.drop offset
  swap
  · rw [if_neg (mt slice?_eq_xref_iff.mp opened), if_neg opened]
    rfl
  have within : offset ≤ file.bytes.length := by
    by_contra outside
    rw [List.drop_of_length_le (Nat.le_of_not_le outside)] at opened
    cases List.prefix_nil.mp opened
  rw [if_pos (slice?_eq_xref_iff.mpr opened), if_pos opened, slice_of_le within le_rfl,
    List.take_length]
  dsimp only
  cases search : Pdf.find (file.bytes.drop offset) (Text.utf8 "trailer") with
  | none => rfl
  | some found =>
      obtain ⟨keyword, fits⟩ := prefix_of_find search
      have behind := le_of_table opened keyword
      rw [List.length_drop] at fits
      change found + 7 ≤ _ at fits
      have body : (file.bytes.take (found + offset)).drop (offset + 4) =
          ((file.bytes.drop offset).take found).drop 4 := by
        rw [← List.drop_drop, List.drop_take, Nat.add_sub_cancel]
      dsimp only
      rw [addUsize_of_lt (by omega)]
      dsimp only
      rw [slice_of_le (by omega) (by omega), body]
      dsimp only [Option.map_some, Option.bind_some]
      split
      swap
      · rfl
      rw [slice_of_le (by omega) le_rfl, List.take_length, Nat.add_comm found offset]
      dsimp only
      cases closing : Pdf.find (file.bytes.drop (offset + found)) (Text.utf8 "startxref") with
      | none =>
          dsimp only [pure, Except.pure]
          rw [slice_of_le (by omega) le_rfl, List.take_length, Option.getD_none, List.take_length]
      | some length =>
          obtain ⟨-, fits'⟩ := prefix_of_find closing
          rw [List.length_drop] at fits'
          dsimp only
          rw [addUsize_of_lt (by omega)]
          dsimp only
          rw [slice_of_le (by omega) (by omega), List.drop_take, Nat.add_sub_cancel_left,
            Option.getD_some]
          rfl

theorem auditSection_overflow {ε : Type} {offset : Nat} (far : 2 ^ 64 ≤ offset + 4) :
    (auditSection pdf offset : Except (Stop ε) (Option Nat)) = .error (.panic .overflow) := by
  unfold auditSection addUsize
  rw [if_neg (Nat.not_lt.mpr far)]
  rfl

theorem length_tokens (text : List UInt8) : (tokens text).length ≤ text.length := by
  induction length_eq : text.length using Nat.strong_induction_on generalizing text with
  | _ length ih =>
      subst length_eq
      cases text with
      | nil => exact le_rfl
      | cons byte text =>
          by_cases blank : Pdf.isAsciiWhitespace byte = true
          · rw [tokens_blank blank]
            exact (ih _ (Nat.lt_succ_self _) text rfl).trans (Nat.le_succ _)
          · obtain ⟨word, tail, shape, nonempty, split, -⟩ := exists_word blank
            have positive := List.length_pos_iff.mpr nonempty
            have shorter : tail.length < (byte :: text).length := by
              rw [shape, List.length_append]
              omega
            have fewer := ih _ shorter tail rfl
            rw [split, List.length_cons]
            omega

theorem of_textualPrev {offset prev : Nat} (named : textualPrev pdf offset = some prev) :
    offset + 4 ≤ pdf.length ∧ FreesNothing pdf offset := by
  unfold textualPrev tableAt at named
  split at named
  swap
  · cases named
  rename_i opened
  cases search : Pdf.find (pdf.drop offset) (Text.utf8 "trailer") with
  | none =>
      rw [search] at named
      cases named
  | some found =>
      rw [search] at named
      dsimp only [Option.map_some, Option.bind_eq_bind, Option.bind_some] at named
      split at named
      swap
      · cases named
      rename_i passed
      obtain ⟨keyword, -⟩ := prefix_of_find search
      have behind := le_of_table opened keyword
      have fits := opened.length_le
      rw [List.length_drop] at fits
      change 4 ≤ _ at fits
      refine ⟨by omega, ?_⟩
      obtain ⟨rest, shape⟩ := keyword
      have body : (pdf.drop offset).drop 4 =
          ((pdf.drop offset).take found).drop 4 ++ (Text.utf8 "trailer" ++ rest) := by
        rw [shape, ← Nat.add_sub_cancel' behind, ← List.drop_drop, Nat.add_sub_cancel' behind,
          List.drop_take, List.take_append_drop]
      have enough : (tokens (((pdf.drop offset).take found).drop 4)).length <
          (pdf.drop offset).length := by
        have few := length_tokens (((pdf.drop offset).take found).drop 4)
        simp only [List.length_drop, List.length_take] at few ⊢
        omega
      obtain ⟨entries, read, harmless⟩ :=
        readSubsections_tokens (pdf.drop offset).length passed enough
      refine ⟨entries, rest, ?_, harmless⟩
      rw [readTable, if_pos opened, body, read]

theorem Walks.passed {seen : List Nat} {offset other : Nat}
    (walked : Walks pdf signedRevisionLen seen offset) (member : other ∈ seen) :
    Passed pdf signedRevisionLen other := by
  induction walked with
  | first named => cases member
  | next walked appended fresh few named ih =>
      obtain rfl | earlier := List.mem_cons.mp member
      · exact ⟨_, _, .next walked appended fresh few named⟩
      · exact ih earlier

theorem Passed.named {offset : Nat} (passed : Passed pdf signedRevisionLen offset) :
    signedRevisionLen ≤ offset ∧ ∃ prev, textualPrev pdf offset = some prev := by
  obtain ⟨seen, next, walked⟩ := passed
  cases walked with
  | next walked appended fresh few named => exact ⟨appended, _, named⟩

/-- **The loop follows the walk**, so that a section it comes to decides. -/
theorem Walks.outcome {ε : Type} {file : PdfFile} {seen : List Nat} {offset : Nat}
    (walked : Walks file.bytes signedRevisionLen seen offset) :
    (appendedXrefSectionsFreeNothing file.bytes signedRevisionLen : Except (Stop ε) Bool) =
      sectionsFreeNothing file.bytes signedRevisionLen seen offset := by
  induction walked with
  | first named => rw [appendedXrefSectionsFreeNothing, named]
  | @next seen offset prev walked appended fresh few named ih =>
      have addressable := file.addressable
      have within := (of_textualPrev named).1
      rw [ih, sectionsFreeNothing, if_neg (Nat.not_lt.mpr appended), if_neg, auditSection_eq file,
        named]
      · rfl
      · omega
      · rw [not_or]
        exact ⟨fresh, Nat.not_le.mpr few⟩

theorem exists_walks {ε : Type} {file : PdfFile} {seen : List Nat} {offset : Nat}
    (walked : Walks file.bytes signedRevisionLen seen offset) :
    ((sectionsFreeNothing file.bytes signedRevisionLen seen offset : Except (Stop ε) Bool) =
        .ok false) ∨
      (∃ seen offset, Walks file.bytes signedRevisionLen seen offset ∧
        offset < signedRevisionLen) ∨
      ∃ seen offset, Walks file.bytes signedRevisionLen seen offset ∧
        signedRevisionLen ≤ offset ∧ seen.length < maxAppendedXrefSections ∧
        2 ^ 64 ≤ offset + 4 := by
  induction room : maxAppendedXrefSections - seen.length generalizing seen offset with
  | zero =>
      rw [sectionsFreeNothing]
      split
      · rename_i inside
        exact .inr (.inl ⟨seen, offset, walked, inside⟩)
      · rw [if_pos (.inr (Nat.sub_eq_zero_iff_le.mp room))]
        exact .inl rfl
  | succ room ih =>
      rw [sectionsFreeNothing]
      split
      · rename_i inside
        exact .inr (.inl ⟨seen, offset, walked, inside⟩)
      rename_i appended
      have appended := Nat.not_lt.mp appended
      split
      · exact .inl rfl
      rename_i fresh
      obtain ⟨fresh, few⟩ := not_or.mp fresh
      have few := Nat.not_le.mp few
      by_cases far : 2 ^ 64 ≤ offset + 4
      · exact .inr (.inr ⟨seen, offset, walked, appended, few, far⟩)
      rw [auditSection_eq file (Nat.not_le.mp far)]
      cases named : textualPrev file.bytes offset with
      | none => exact .inl rfl
      | some prev =>
          refine ih (.next walked appended fresh few named) ?_
          rw [List.length_cons]
          omega

end Walk

/-! ### What the audit sees -/

section Sound

variable (file : PdfFile) (signedRevisionLen : Nat)

/-- The audit answers, and its yes is right about the reader's chain. -/
def AuditSound : Prop :=
  ∃ answer, (appendedXrefSectionsFreeNothing file.bytes signedRevisionLen :
      Except (Stop Empty) Bool) = .ok answer ∧
    (answer = true → ChainFreesNothing file.bytes signedRevisionLen)

/-- The walk meets no offset at the end of the word; and where it comes inside the signed revision
the reader does too, and meets no other section on the way that frees an object. -/
structure AuditSees (pdf : List UInt8) (signedRevisionLen : Nat) : Prop where
  near : ∀ seen offset, Walks pdf signedRevisionLen seen offset → signedRevisionLen ≤ offset →
    seen.length < maxAppendedXrefSections → offset + 4 < 2 ^ 64
  strays : (∃ seen offset, Walks pdf signedRevisionLen seen offset ∧ offset < signedRevisionLen) →
    (∀ offset, Visits pdf offset → signedRevisionLen ≤ offset →
      ¬Passed pdf signedRevisionLen offset → FreesNothing pdf offset) ∧
    ∃ offset, Visits pdf offset ∧ offset < signedRevisionLen

/-- **The audit is right exactly where it sees what the reader follows.** -/
theorem audit_sound_iff :
    AuditSound file signedRevisionLen ↔ AuditSees file.bytes signedRevisionLen := by
  constructor
  · intro sound
    obtain ⟨answer, answered, right⟩ := sound
    constructor
    · intro seen offset walked appended few
      by_contra far
      have addressable := file.addressable
      have fresh : offset ∉ seen := by
        intro again
        obtain ⟨-, prev, named⟩ := (walked.passed again).named
        have within := (of_textualPrev named).1
        omega
      rw [walked.outcome, sectionsFreeNothing, if_neg (Nat.not_lt.mpr appended), if_neg,
        auditSection_overflow (Nat.not_lt.mp far)] at answered
      · cases answered
      · rw [not_or]
        exact ⟨fresh, Nat.not_le.mpr few⟩
    · intro reached
      obtain ⟨seen, offset, walked, inside⟩ := reached
      rw [walked.outcome, sectionsFreeNothing, if_pos inside] at answered
      obtain ⟨clean, gets⟩ := right (Except.ok.inj answered).symm
      exact ⟨fun other visited appended _ => clean other visited appended, gets⟩
  · intro sees
    cases named : Pdf.lastStartxref file.bytes with
    | none =>
        refine ⟨false, ?_, nofun⟩
        rw [appendedXrefSectionsFreeNothing, named]
    | some start =>
        have walked : Walks file.bytes signedRevisionLen [] start := .first named
        rcases exists_walks (ε := Empty) walked with no | reached | far
        · refine ⟨false, ?_, nofun⟩
          rw [walked.outcome, no]
        · refine ⟨true, ?_, fun _ => ?_⟩
          · obtain ⟨seen, offset, walked, inside⟩ := reached
            rw [walked.outcome, sectionsFreeNothing, if_pos inside]
          · obtain ⟨clean, gets⟩ := sees.strays reached
            refine ⟨?_, gets⟩
            intro offset visited appended
            by_cases passed : Passed file.bytes signedRevisionLen offset
            · obtain ⟨-, prev, named⟩ := passed.named
              exact (of_textualPrev named).2
            · exact clean offset visited appended passed
        · obtain ⟨seen, offset, walked, appended, few, far⟩ := far
          exact absurd (sees.near seen offset walked appended few) (Nat.not_lt.mpr far)

/-- An offset at the end of the word is added to, though the file has thirty bytes. -/
theorem not_audit_sound_farOffset :
    ¬AuditSound ⟨Text.utf8 "startxref 18446744073709551615", Nat.lt_of_sub_eq_succ rfl⟩ 0 := by
  intro sound
  obtain ⟨answer, answered, -⟩ := sound
  have named : Pdf.lastStartxref (Text.utf8 "startxref 18446744073709551615") =
      some (2 ^ 64 - 1) := by decide
  change appendedXrefSectionsFreeNothing (Text.utf8 "startxref 18446744073709551615") 0 = _
    at answered
  rw [appendedXrefSectionsFreeNothing, named] at answered
  dsimp only at answered
  rw [sectionsFreeNothing, if_neg (Nat.not_lt_zero _), if_neg, auditSection_overflow] at answered
  · cases answered
  · omega
  · exact not_or.mpr ⟨List.not_mem_nil, Nat.not_succ_le_zero _⟩

end Sound

section Trailers

variable {file : PdfFile} {signedRevisionLen : Nat}

theorem Walks.passed_of_reached {seen seen' : List Nat} {offset offset' : Nat}
    (reached : Walks file.bytes signedRevisionLen seen offset) (inside : offset < signedRevisionLen)
    (walked : Walks file.bytes signedRevisionLen seen' offset')
    (appended : signedRevisionLen ≤ offset') :
    ∃ prev, textualPrev file.bytes offset' = some prev ∧
      Walks file.bytes signedRevisionLen (offset' :: seen') prev := by
  have same : (sectionsFreeNothing file.bytes signedRevisionLen seen' offset' :
      Except (Stop Empty) Bool) = .ok true := by
    rw [← walked.outcome, reached.outcome, sectionsFreeNothing, if_pos inside]
  rw [sectionsFreeNothing, if_neg (Nat.not_lt.mpr appended)] at same
  split at same
  · cases same
  rename_i fresh
  obtain ⟨fresh, few⟩ := not_or.mp fresh
  by_cases far : 2 ^ 64 ≤ offset' + 4
  · rw [auditSection_overflow far] at same
    cases same
  rw [auditSection_eq file (Nat.not_le.mp far)] at same
  cases named : textualPrev file.bytes offset' with
  | none =>
      rw [named] at same
      cases same
  | some prev => exact ⟨prev, rfl, .next walked appended fresh (Nat.not_le.mp few) named⟩

/-- **Trailers that say what they seem to say.** The audit sees what the reader follows where the
trailer of each section it passes leads to the offset behind its first `/Prev` alone, and no
section inside the signed revision leads out of it. -/
theorem AuditSees.of_trailers
    (near : ∀ seen offset, Walks file.bytes signedRevisionLen seen offset →
      signedRevisionLen ≤ offset → seen.length < maxAppendedXrefSections → offset + 4 < 2 ^ 64)
    (agree : ∀ offset, Passed file.bytes signedRevisionLen offset →
      leadsTo file.bytes offset = (textualPrev file.bytes offset).toList)
    (inward : ∀ offset, Visits file.bytes offset → offset < signedRevisionLen →
      ∀ other ∈ leadsTo file.bytes offset, other < signedRevisionLen) :
    AuditSees file.bytes signedRevisionLen where
  near := near
  strays reached := by
    obtain ⟨seen, offset, reached, inside⟩ := reached
    have visits : ∀ seen offset, Walks file.bytes signedRevisionLen seen offset →
        Visits file.bytes offset := by
      intro seen offset walked
      induction walked with
      | first named => exact .first named
      | next walked appended fresh few named ih =>
          refine .next ih ?_
          rw [agree _ ⟨_, _, .next walked appended fresh few named⟩, named]
          exact List.mem_singleton_self _
    have walks : ∀ offset, Visits file.bytes offset → offset < signedRevisionLen ∨
        ∃ seen, Walks file.bytes signedRevisionLen seen offset := by
      intro offset visited
      induction visited with
      | first named => exact .inr ⟨[], .first named⟩
      | @next offset other visited led ih =>
          by_cases within : offset < signedRevisionLen
          · exact .inl (inward offset visited within other led)
          · obtain ⟨seen, walked⟩ := ih.resolve_left within
            obtain ⟨prev, named, further⟩ :=
              reached.passed_of_reached inside walked (Nat.not_lt.mp within)
            rw [agree offset ⟨_, _, further⟩, named] at led
            obtain rfl := List.mem_singleton.mp led
            exact .inr ⟨_, further⟩
    refine ⟨?_, offset, visits seen offset reached, inside⟩
    intro other visited appended stray
    obtain ⟨seen', walked⟩ := (walks other visited).resolve_left (Nat.not_lt.mpr appended)
    obtain ⟨prev, -, further⟩ := reached.passed_of_reached inside walked appended
    exact absurd ⟨_, _, further⟩ stray

end Trailers

end Chancela.Pades
