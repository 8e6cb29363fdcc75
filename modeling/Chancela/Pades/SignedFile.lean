import Chancela.Crates.Reference
import Chancela.Pades.Placeholders

/-! # Signed files

What the signer writes ahead of a signature's room: the input, the objects written anew, and
the texts of its caller. The objects are kept apart by line breaks and the texts stand
between parentheses, so the texts that open the room occur in what is written exactly where
they occur in one of these parts.
-/

namespace Chancela.Pades

open Decimal Pattern Outcome

def markers : List (List UInt8) := [contentsMarker, byteRangeMarker]

/-- The texts a caller supplies: the field's name and those of the signature dictionary. -/
def SignOptions.texts (opts : SignOptions) : List String :=
  opts.fieldName.getD "Signature1" :: opts.entries.map Prod.snd

namespace Revision

variable (revision : Revision) (pdf : List UInt8) (opts : SignOptions)

/-- Everything ahead of the `/ByteRange` entry of the signature dictionary. -/
def ahead : List UInt8 :=
  pdf ++ 10 :: ((revision.rewritten ++ revision.added).flatMap emitObject ++
    (decimal revision.sigNum.toNat ++ (Text.utf8 " 0 obj\n" ++ (dictionaryHead opts ++ [32]))))

/-- Everything behind its `/Contents` token. -/
def behind : List UInt8 :=
  Text.utf8 " >>" ++ (Text.utf8 "\nendobj\n" ++
    (revision.trailing.flatMap emitObject ++ revision.closing pdf opts))

theorem append_section : pdf ++ revision.section_ pdf opts =
    assembled (revision.ahead pdf opts) (revision.behind pdf opts) := by
  have opening : Text.utf8 " /ByteRange [0 0000000000 0000000000 0000000000]" ++
      Text.utf8 " /Contents <" = 32 :: placeholder := rfl
  have closed : Text.utf8 "> >>" = 62 :: Text.utf8 " >>" := rfl
  have template : signatureDictTemplate opts = dictionaryHead opts ++ (32 :: placeholder ++
      (List.replicate contentsHexLen 48 ++ 62 :: Text.utf8 " >>")) := by
    rw [signatureDictTemplate, ← opening, closed]
    simp only [List.append_assoc]
  rw [section_, assembled, ahead, behind, objects, List.flatMap_append, List.flatMap_cons,
    emitObject, template]
  simp only [List.append_assoc, List.cons_append, List.nil_append]

end Revision

/-- **The room of a signature is its own.** Neither text searched for occurs in the input, in
the objects of the document that are written anew, or in the caller's texts, and the offsets
have at most ten digits. -/
structure PlaceholdersApart (pdf : List UInt8) (opts : SignOptions) (revision : Revision) :
    Prop where
  input : ∀ marker ∈ markers, ¬marker <:+: pdf
  rewritten : ∀ marker ∈ markers, ∀ object ∈ revision.rewritten, ¬marker <:+: object.2
  texts : ∀ marker ∈ markers, ∀ text ∈ opts.texts, ¬marker <:+: Text.utf8 text
  offset : tokenEnd (revision.ahead pdf opts).length < 10 ^ 10
  remainder : (pdf ++ revision.section_ pdf opts).length -
    tokenEnd (revision.ahead pdf opts).length < 10 ^ 10

section Occurrence

variable {marker back : List UInt8} {byte : UInt8}

theorem separator_notMem (searched : marker ∈ markers) (byte : UInt8)
    (separator : byte ∈ [10, 40, 41, 92]) : byte ∉ marker := by
  have checked : ∀ marker ∈ markers, [10, 40, 41, 92].all (· ∉ marker) = true := by decide
  exact of_decide_eq_true (List.all_eq_true.mp (checked marker searched) byte separator)

theorem slash_mem (searched : marker ∈ markers) : 47 ∈ marker ∧ 47 ∉ marker.tail := by
  revert marker
  decide

theorem not_infix_number (searched : marker ∈ markers) (number : Nat) :
    ¬marker <:+: decimal number ++ Text.utf8 " 0 obj" := by
  refine not_infix_of_notMem (slash_mem searched).1 ?_
  rw [List.mem_append, not_or]
  exact ⟨notMem_of_digits (numeral_decimal number).digits rfl, by decide⟩

theorem opening_eq : Text.utf8 " 0 obj\n" = Text.utf8 " 0 obj" ++ [10] := rfl

theorem infix_emitObject_iff (searched : marker ∈ markers) (object : UInt32 × List UInt8) :
    marker <:+: emitObject object ++ back ↔ marker <:+: object.2 ∨ marker <:+: back := by
  have broken := separator_notMem searched 10 (by decide)
  have shape : emitObject object ++ back = (decimal object.1.toNat ++ Text.utf8 " 0 obj") ++
      10 :: (object.2 ++ 10 :: (Text.utf8 "endobj" ++ 10 :: back)) := by
    have closing : Text.utf8 "\nendobj\n" = 10 :: (Text.utf8 "endobj" ++ [10]) := rfl
    rw [emitObject, opening_eq, closing]
    simp only [List.append_assoc, List.cons_append, List.nil_append]
  have numbered := not_infix_number searched object.1.toNat
  have ended : ¬marker <:+: Text.utf8 "endobj" :=
    not_infix_of_notMem (slash_mem searched).1 (by decide)
  rw [shape, infix_append_cons_iff_of_notMem broken, infix_append_cons_iff_of_notMem broken,
    infix_append_cons_iff_of_notMem broken, or_iff_right numbered, or_iff_right ended]

theorem infix_emitObjects_iff (searched : marker ∈ markers)
    (objects : List (UInt32 × List UInt8)) :
    marker <:+: objects.flatMap emitObject ++ back ↔
      (∃ object ∈ objects, marker <:+: object.2) ∨ marker <:+: back := by
  induction objects with
  | nil => simp only [List.flatMap_nil, List.nil_append, List.not_mem_nil, false_and, exists_false,
      false_or]
  | cons object rest ih =>
      rw [List.flatMap_cons, List.append_assoc, infix_emitObject_iff searched, ih,
        List.exists_mem_cons_iff, or_assoc]

theorem infix_escapeLiteral_iff (searched : marker ∈ markers) (text : List UInt8) :
    marker <:+: Pdf.escapeLiteral text ↔ marker <:+: text := by
  refine infix_escape_iff ?_ (separator_notMem searched _ (by decide))
  intro byte member
  by_contra special
  have escaped : byte ∈ ([40, 41, 92] : List UInt8) :=
    of_decide_eq_true (Bool.eq_true_of_not_eq_false special)
  exact separator_notMem searched byte (List.mem_cons_of_mem 10 escaped) member

theorem literal_append (key value : String) (tail : List UInt8) :
    literal key value ++ tail = 32 :: (47 :: (Text.utf8 key ++ [32]) ++ 40 ::
      (Pdf.escapeLiteral (Text.utf8 value) ++ 41 :: tail)) := by
  have slashed : Text.utf8 " /" = [32, 47] := rfl
  have parenthesis : Text.utf8 " (" = [32, 40] := rfl
  rw [literal, slashed, parenthesis]
  simp only [List.append_assoc, List.cons_append, List.nil_append]

theorem infix_literals_iff (searched : marker ∈ markers) {entries : List (String × String)}
    (keyed : ∀ entry ∈ entries, entry.1 ∈ ["M", "Reason", "Location", "ContactInfo"])
    {front : List UInt8} (absent : ¬marker <:+: front ++ [32]) :
    marker <:+: front ++ (entries.flatMap (fun entry => literal entry.1 entry.2) ++ [32]) ↔
      ∃ entry ∈ entries, marker <:+: Text.utf8 entry.2 := by
  have opened := separator_notMem searched 40 (by decide)
  have closed := separator_notMem searched 41 (by decide)
  induction entries generalizing front with
  | nil =>
      simp only [List.flatMap_nil, List.nil_append, List.not_mem_nil, false_and, exists_false]
      exact iff_false_intro absent
  | cons entry rest ih =>
      obtain ⟨own, others⟩ := List.forall_mem_cons.mp keyed
      have key : ¬marker <:+: 47 :: (Text.utf8 entry.1 ++ [32]) := by
        have checked : ∀ marker ∈ markers, ∀ key ∈ ["M", "Reason", "Location", "ContactInfo"],
            ¬marker <:+: 47 :: (Text.utf8 key ++ [32]) := by decide
        exact checked marker searched entry.1 own
      have blank : ¬marker <:+: [] ++ [32] :=
        not_infix_of_notMem (slash_mem searched).1 (by decide)
      have shape : front ++ ((entry :: rest).flatMap (fun entry => literal entry.1 entry.2) ++
          [32]) = (front ++ [32]) ++ 47 :: (Text.utf8 entry.1 ++ [32] ++ 40 ::
            (Pdf.escapeLiteral (Text.utf8 entry.2) ++ 41 :: ([] ++
              (rest.flatMap (fun entry => literal entry.1 entry.2) ++ [32])))) := by
        rw [List.flatMap_cons, List.append_assoc, literal_append]
        simp only [List.append_assoc, List.cons_append, List.nil_append]
      rw [shape, infix_append_cons_iff (slash_mem searched).2, or_iff_right absent,
        ← List.cons_append, infix_append_cons_iff_of_notMem opened, or_iff_right key,
        infix_append_cons_iff_of_notMem closed, infix_escapeLiteral_iff searched,
        List.exists_mem_cons_iff]
      exact or_congr_right (ih others blank)

theorem infix_dictionaryHead_iff (searched : marker ∈ markers) (opts : SignOptions) :
    marker <:+: dictionaryHead opts ++ [32] ↔
      ∃ entry ∈ opts.entries, marker <:+: Text.utf8 entry.2 := by
  have keyed : ∀ entry ∈ opts.entries, entry.1 ∈ ["M", "Reason", "Location", "ContactInfo"] := by
    intro entry member
    obtain ⟨pair, listed, made⟩ := List.mem_filterMap.mp member
    obtain ⟨text, -, rfl⟩ := Option.map_eq_some_iff.mp made
    exact List.mem_map_of_mem (f := Prod.fst) listed
  have lettered : ∀ marker ∈ markers, 110 ∈ marker := by decide
  have absent : ¬marker <:+:
      Text.utf8 "<< /Type /Sig /Filter /Adobe.PPKLite /SubFilter /ETSI.CAdES.detached" ++ [32] :=
    not_infix_of_notMem (lettered marker searched) (by decide)
  rw [dictionaryHead, List.append_assoc]
  exact infix_literals_iff searched keyed absent

end Occurrence

/-! ## The form and the field

The signer's own names and numbers hold none of the capitals that the texts searched for
begin with. -/

/-- Neither `B` nor `C`. -/
def unlettered (text : List UInt8) : Bool := text.all fun byte => byte != 66 && byte != 67

theorem not_infix_of_unlettered {marker text : List UInt8} (searched : marker ∈ markers)
    (plain : unlettered text = true) : ¬marker <:+: text := by
  have capital : ∀ marker ∈ markers, ∃ byte ∈ marker, (byte != 66 && byte != 67) = false := by
    decide
  obtain ⟨byte, member, letter⟩ := capital marker searched
  apply not_infix_of_notMem member
  intro inside
  rw [List.all_eq_true.mp plain byte inside] at letter
  cases letter

section Writing

open Lopdf

@[simp] theorem unlettered_append {first second : List UInt8} :
    unlettered (first ++ second) = (unlettered first && unlettered second) := List.all_append

@[simp] theorem unlettered_cons {byte : UInt8} {text : List UInt8} :
    unlettered (byte :: text) = ((byte != 66 && byte != 67) && unlettered text) := List.all_cons

@[simp] theorem unlettered_nil : unlettered [] = true := rfl

theorem unlettered_of_digits {text : List UInt8} (digits : ∀ byte ∈ text, isDigit byte = true) :
    unlettered text = true := by
  refine List.all_eq_true.mpr fun byte member => ?_
  have digit := digits byte member
  by_contra letter
  have either : byte = 66 ∨ byte = 67 := by
    simpa only [Bool.and_eq_true, bne_iff_ne, ne_eq, not_and_or, not_not] using letter
  rcases either with rfl | rfl
  · exact absurd digit (by decide)
  · exact absurd digit (by decide)

@[simp] theorem unlettered_decimal (number : Nat) : unlettered (decimal number) = true :=
  unlettered_of_digits (numeral_decimal number).digits

theorem unlettered_plain (digits : Nat) (scale : Int) :
    unlettered (Pdf.plain digits scale) = true := by
  unfold Pdf.plain
  split
  · rw [unlettered_append, unlettered_decimal, Bool.true_and]
    refine unlettered_of_digits fun byte member => ?_
    rw [List.eq_of_mem_replicate member]
    rfl
  · have written := (numeral_padded (scale.natAbs + 1) digits).digits
    rw [unlettered_append, unlettered_cons,
      unlettered_of_digits fun byte member => written byte (List.mem_of_mem_take member),
      unlettered_of_digits fun byte member => written byte (List.mem_of_mem_drop member)]
    rfl

theorem unlettered_displayReal (real : Float32) : unlettered (Pdf.displayReal real) = true := by
  have sign : ∀ negative : Prop, [Decidable negative] →
      unlettered (if negative then [45] else []) = true := by
    intro negative _
    split
    · rfl
    · rfl
  have texts : unlettered (Text.utf8 "inf") = true ∧ unlettered (Text.utf8 "NaN") = true ∧
      unlettered [48] = true := ⟨rfl, rfl, rfl⟩
  simp only [Pdf.displayReal]
  split
  · split
    · rw [unlettered_append, sign, texts.1, Bool.and_self]
    · exact texts.2.1
  · split
    · rw [unlettered_append, sign, texts.2.2, Bool.and_self]
    · split
      · rw [unlettered_append, sign, unlettered_plain, Bool.and_self]
      · exact sign _

def WritesPlainly (entries : Dictionary) : Prop :=
  ∃ text, Pdf.writeEntries entries = .ok text ∧ unlettered text = true

theorem writesPlainly_nil : WritesPlainly [] := ⟨[], rfl, rfl⟩

theorem writesPlainly_cons {key written : List UInt8} {value : Object} {rest : Dictionary}
    (named : unlettered (Pdf.writeName key) = true)
    (written_eq : Pdf.writeObject value = .ok written)
    (plain : unlettered written = true) (others : WritesPlainly rest) :
    WritesPlainly ((key, value) :: rest) := by
  obtain ⟨text, rest_eq, plain'⟩ := others
  refine ⟨32 :: (Pdf.writeName key ++ 32 :: (written ++ text)), ?_, ?_⟩
  · simp only [Pdf.writeEntries, written_eq, rest_eq]
    rfl
  · simp only [unlettered_cons, unlettered_append, named, plain, plain', Bool.and_true]
    rfl

theorem unlettered_reference (number : UInt32) (generation : UInt16) :
    unlettered (decimal number.toNat ++ 32 :: (decimal generation.toNat ++ Text.utf8 " R")) =
      true := by
  rw [unlettered_append, unlettered_cons, unlettered_append, unlettered_decimal,
    unlettered_decimal]
  rfl

theorem writesPlainly_reference {key : List UInt8} {id : ObjectId} {rest : Dictionary}
    (named : unlettered (Pdf.writeName key) = true) (others : WritesPlainly rest) :
    WritesPlainly ((key, .reference id) :: rest) :=
  writesPlainly_cons named rfl (unlettered_reference id.1 id.2) others

theorem writesPlainly_signatureForm (fieldNum : UInt32) :
    WritesPlainly (signatureForm fieldNum) := by
  have flags : WritesPlainly [(Text.utf8 "SigFlags", .integer 3)] :=
    writesPlainly_cons rfl rfl rfl writesPlainly_nil
  refine writesPlainly_cons rfl rfl ?_ flags
  rw [unlettered_cons, unlettered_append, unlettered_reference]
  rfl

def fieldRest (sigNum : UInt32) (pageId : ObjectId)
    (seal_ : Option (SealPlacement × BuiltAppearance)) : Dictionary :=
  (signatureField {} sigNum pageId seal_).drop 2

theorem signatureField_eq (opts : SignOptions) (sigNum : UInt32) (pageId : ObjectId)
    (seal_ : Option (SealPlacement × BuiltAppearance)) :
    signatureField opts sigNum pageId seal_ = (Text.utf8 "FT", .name (Text.utf8 "Sig")) ::
      (Text.utf8 "T", .string (Text.utf8 (opts.fieldName.getD "Signature1")) .literal) ::
        fieldRest sigNum pageId seal_ := rfl

theorem writesPlainly_fieldRest (sigNum : UInt32) (pageId : ObjectId)
    (seal_ : Option (SealPlacement × BuiltAppearance)) :
    WritesPlainly (fieldRest sigNum pageId seal_) := by
  have page : WritesPlainly [(Text.utf8 "P", .reference pageId)] :=
    writesPlainly_reference rfl writesPlainly_nil
  refine writesPlainly_reference rfl (writesPlainly_cons rfl rfl rfl
    (writesPlainly_cons rfl rfl rfl (writesPlainly_cons rfl rfl rfl ?_)))
  cases seal_ with
  | none => exact writesPlainly_cons rfl rfl rfl page
  | some seal_ =>
      obtain ⟨p, built⟩ := seal_
      refine writesPlainly_cons rfl rfl ?_ (writesPlainly_cons rfl rfl ?_ page)
      · simp only [unlettered_cons, unlettered_append, unlettered_displayReal, unlettered_nil]
        rfl
      · simp only [unlettered_cons, unlettered_append, unlettered_decimal, unlettered_nil]
        rfl

variable {marker body : List UInt8}

theorem not_infix_form (searched : marker ∈ markers) {fieldNum : UInt32}
    (written : serialize (signatureForm fieldNum) = .ok body) : ¬marker <:+: body := by
  obtain ⟨text, entries, plain⟩ := writesPlainly_signatureForm fieldNum
  have whole : serialize (signatureForm fieldNum) =
      .ok (Text.utf8 "<<" ++ text ++ Text.utf8 " >>") := by
    simp only [serialize, Pdf.writeDict, Pdf.writeObject, entries]
    rfl
  have brackets : unlettered (Text.utf8 "<<") = true ∧ unlettered (Text.utf8 " >>") = true :=
    ⟨rfl, rfl⟩
  cases whole.symm.trans written
  apply not_infix_of_unlettered searched
  rw [unlettered_append, unlettered_append, brackets.1, brackets.2, plain, Bool.and_self,
    Bool.and_self]

theorem infix_field_iff (searched : marker ∈ markers) {opts : SignOptions} {sigNum : UInt32}
    {pageId : ObjectId} {seal_ : Option (SealPlacement × BuiltAppearance)}
    (written : serialize (signatureField opts sigNum pageId seal_) = .ok body) :
    marker <:+: body ↔ marker <:+: Text.utf8 (opts.fieldName.getD "Signature1") := by
  obtain ⟨text, entries, plain⟩ := writesPlainly_fieldRest sigNum pageId seal_
  have opening : Text.utf8 "<< /FT /Sig /T " = Text.utf8 "<<" ++ 32 ::
      (Pdf.writeName (Text.utf8 "FT") ++ 32 :: (Pdf.writeName (Text.utf8 "Sig") ++ 32 ::
        (Pdf.writeName (Text.utf8 "T") ++ [32]))) := rfl
  have whole : serialize (signatureField opts sigNum pageId seal_) =
      .ok (Text.utf8 "<< /FT /Sig /T " ++ 40 ::
        (Pdf.escapeLiteral (Text.utf8 (opts.fieldName.getD "Signature1")) ++ 41 ::
          (text ++ Text.utf8 " >>"))) := by
    rw [signatureField_eq, opening]
    simp only [serialize, Pdf.writeDict, Pdf.writeObject, Pdf.writeEntries, Pdf.writeString,
      entries, bind, Except.bind, pure, Except.pure, Except.mapError, List.append_assoc,
      List.cons_append, List.nil_append]
  have ends : unlettered (Text.utf8 "<< /FT /Sig /T ") = true ∧
      unlettered (Text.utf8 " >>") = true := ⟨rfl, rfl⟩
  have before := not_infix_of_unlettered searched ends.1
  have after : ¬marker <:+: text ++ Text.utf8 " >>" := by
    apply not_infix_of_unlettered searched
    rw [unlettered_append, plain, ends.2, Bool.and_self]
  cases whole.symm.trans written
  rw [infix_append_cons_iff_of_notMem (separator_notMem searched _ (by decide)),
    infix_append_cons_iff_of_notMem (separator_notMem searched _ (by decide)), or_iff_right before,
    or_iff_left after, infix_escapeLiteral_iff searched]

theorem exists_added [LopdfCrate] {pdf : List UInt8} {opts : SignOptions}
    {appearance : Option SealAppearance} {revision : Revision}
    (planned : incrementalUpdate pdf opts appearance = .ok revision) :
    ∃ formNum fieldNum sigNum pageId seal_ form field,
      serialize (signatureForm fieldNum) = .ok form ∧
      serialize (signatureField opts sigNum pageId seal_) = .ok field ∧
      revision.added = [(formNum, form), (fieldNum, field)] := by
  simp only [incrementalUpdate, bind_eq_ok_iff] at planned
  obtain ⟨target, -, built, -, page, -, catalogBody, -, pageBody, -, form, formed, field, fielded,
    metadata, -, made⟩ := planned
  cases made
  exact ⟨_, _, _, _, _, form, field, formed, fielded, rfl⟩

theorem infix_added_iff [LopdfCrate] (searched : marker ∈ markers) {pdf : List UInt8}
    {opts : SignOptions} {appearance : Option SealAppearance} {revision : Revision}
    (planned : incrementalUpdate pdf opts appearance = .ok revision) :
    (∃ object ∈ revision.added, marker <:+: object.2) ↔
      marker <:+: Text.utf8 (opts.fieldName.getD "Signature1") := by
  obtain ⟨formNum, fieldNum, sigNum, pageId, seal_, form, field, formed, fielded, added⟩ :=
    exists_added planned
  rw [added, List.exists_mem_cons_iff, List.exists_mem_cons_iff,
    or_iff_right (not_infix_form searched formed), infix_field_iff searched fielded]
  simp only [List.not_mem_nil, false_and, exists_false, or_false]

end Writing

section Signing

variable [LopdfCrate] {marker pdf : List UInt8} {opts : SignOptions}
  {appearance : Option SealAppearance} {revision : Revision}

theorem infix_ahead_iff (searched : marker ∈ markers)
    (planned : incrementalUpdate pdf opts appearance = .ok revision) :
    marker <:+: revision.ahead pdf opts ↔ marker <:+: pdf ∨
      (∃ object ∈ revision.rewritten, marker <:+: object.2) ∨
        ∃ text ∈ opts.texts, marker <:+: Text.utf8 text := by
  have broken := separator_notMem searched 10 (by decide)
  have numbered := not_infix_number searched revision.sigNum.toNat
  have shape : decimal revision.sigNum.toNat ++ (Text.utf8 " 0 obj\n" ++
      (dictionaryHead opts ++ [32])) = (decimal revision.sigNum.toNat ++ Text.utf8 " 0 obj") ++
        10 :: (dictionaryHead opts ++ [32]) := by
    rw [opening_eq]
    simp only [List.append_assoc, List.cons_append, List.nil_append]
  have texts : (∃ text ∈ opts.texts, marker <:+: Text.utf8 text) ↔
      marker <:+: Text.utf8 (opts.fieldName.getD "Signature1") ∨
        ∃ entry ∈ opts.entries, marker <:+: Text.utf8 entry.2 := by
    rw [SignOptions.texts, List.exists_mem_cons_iff]
    simp only [List.mem_map, exists_exists_and_eq_and]
  rw [Revision.ahead, infix_append_cons_iff_of_notMem broken, infix_emitObjects_iff searched, shape,
    infix_append_cons_iff_of_notMem broken, or_iff_right numbered,
    infix_dictionaryHead_iff searched, texts, ← infix_added_iff searched planned]
  simp only [List.mem_append, or_and_right, exists_or, or_assoc]

theorem absent_ahead_iff (planned : incrementalUpdate pdf opts appearance = .ok revision) :
    (∀ marker ∈ markers, ¬marker <:+: revision.ahead pdf opts) ↔
      (∀ marker ∈ markers, ¬marker <:+: pdf) ∧
        (∀ marker ∈ markers, ∀ object ∈ revision.rewritten, ¬marker <:+: object.2) ∧
          ∀ marker ∈ markers, ∀ text ∈ opts.texts, ¬marker <:+: Text.utf8 text := by
  rw [← forall₂_and, ← forall₂_and]
  refine forall₂_congr fun marker searched => ?_
  rw [infix_ahead_iff searched planned]
  simp only [not_or, not_exists, not_and]

variable [Crates]

theorem exists_planned {prepared : PreparedSignature}
    (accepted : prepareSignatureWithAppearance pdf opts appearance = .ok prepared) :
    ∃ revision contents byteRange, incrementalUpdate pdf opts appearance = .ok revision ∧
      Patched (assembled (revision.ahead pdf opts) (revision.behind pdf opts)) contents byteRange
        prepared := by
  rw [prepareSignatureWithAppearance, prepareIncremental, bind_eq_ok_iff] at accepted
  obtain ⟨revision, mapped, patched⟩ := accepted
  rw [revision.append_section] at patched
  obtain ⟨contents, byteRange, patched⟩ := exists_patched patched
  refine ⟨revision, contents, byteRange, ?_, patched⟩
  cases planned : incrementalUpdate pdf opts appearance with
  | error fault => rw [planned] at mapped; cases mapped
  | ok found => rw [planned] at mapped; cases mapped; rfl

theorem exists_accepted (planned : incrementalUpdate pdf opts appearance = .ok revision)
    (small : (revision.ahead pdf opts).length + 40000 ≤ 10 ^ 10) :
    ∃ prepared, prepareSignatureWithAppearance pdf opts appearance = .ok prepared := by
  obtain ⟨prepared, patched⟩ := exists_prepared_assembled (revision.behind pdf opts) small
  refine ⟨prepared, ?_⟩
  rw [prepareSignatureWithAppearance, prepareIncremental, planned]
  exact (congrArg patchPlaceholders (revision.append_section pdf opts)).trans patched

end Signing

/-- **Signing and searching.** Whatever document, texts and seal are accepted, the signed file
begins with the document and describes its own signature exactly where the texts searched for
stand nowhere ahead of the signature's own room, and the offsets fit into it. -/
theorem selfConsistent_iff_placeholdersApart [Crates] [LopdfCrate] (pdf : List UInt8)
    (opts : SignOptions) (appearance : Option SealAppearance) (prepared : PreparedSignature)
    (cms : List UInt8)
    (accepted : prepareSignatureWithAppearance pdf opts appearance = .ok prepared)
    (fits : cms.length ≤ maxContentsBytes) :
    ∃ revision final, incrementalUpdate pdf opts appearance = .ok revision ∧
      embedSignature prepared cms = .ok final ∧
      ((∃ a b c, SelfConsistent pdf (revision.ahead pdf opts).length cms prepared final a b c) ↔
        PlaceholdersApart pdf opts revision) := by
  obtain ⟨revision, contents, byteRange, planned, patched⟩ := exists_planned accepted
  obtain ⟨final, filled, embedded⟩ := exists_embedded patched fits
  refine ⟨revision, final, planned, embedded, ?_⟩
  constructor
  · rintro ⟨a, b, c, consistent⟩
    obtain ⟨⟨absent, absent'⟩, start, remaining⟩ := consistent.apart patched filled
    have clear : ∀ marker ∈ markers, ¬marker <:+: revision.ahead pdf opts := by
      intro marker searched
      rcases List.mem_pair.mp searched with rfl | rfl
      · exact absent
      · exact absent'
    obtain ⟨input, rewritten, texts⟩ := (absent_ahead_iff planned).mp clear
    refine ⟨input, rewritten, texts, start, ?_⟩
    rw [revision.append_section]
    exact remaining
  · intro apart
    have clear := (absent_ahead_iff planned).mpr ⟨apart.input, apart.rewritten, apart.texts⟩
    have remaining := apart.remainder
    rw [revision.append_section] at remaining
    exact selfConsistent_of_apart (List.prefix_append _ _) fits patched filled
      (clear _ (by decide)) (clear _ (by decide)) apart.offset remaining

/-! ## A document of one page -/

namespace OnePage

open Lopdf

def pdf : List UInt8 :=
  Text.utf8 "%PDF-1.4\n1 0 obj\n<</Type/Catalog/Pages 2 0 R>>\nendobj\n" ++
    Text.utf8 "2 0 obj\n<</Type/Pages/Kids[3 0 R]/Count 1>>\nendobj\n" ++
    Text.utf8 "3 0 obj\n<</Type/Page/Parent 2 0 R>>\nendobj\n" ++
    Text.utf8 "xref\n0 4\n0000000000 65535 f \n0000000009 00000 n \n" ++
    Text.utf8 "0000000054 00000 n \n0000000105 00000 n \n" ++
    Text.utf8 "trailer\n<</Size 4/Root 1 0 R>>\nstartxref\n148\n%%EOF\n"

def document : Document where
  objects := [⟨(1, 0), .dictionary [(Text.utf8 "Type", .name (Text.utf8 "Catalog")),
      (Text.utf8 "Pages", .reference (2, 0))]⟩,
    ⟨(2, 0), .dictionary [(Text.utf8 "Type", .name (Text.utf8 "Pages")),
      (Text.utf8 "Kids", .array [.reference (3, 0)]), (Text.utf8 "Count", .integer 1)]⟩,
    ⟨(3, 0), .dictionary [(Text.utf8 "Type", .name (Text.utf8 "Page")),
      (Text.utf8 "Parent", .reference (2, 0))]⟩].toAList
  trailer := [(Text.utf8 "Size", .integer 4), (Text.utf8 "Root", .reference (1, 0))]
  maxId := 3

/-- The crate on this document; it holds no stream. -/
scoped instance lopdf : LopdfCrate where
  loadMem bytes := if bytes = pdf then .ok document else .error "invalid file header"
  decompressedContent _ _ := none
  removeKey dict key := dict.filter fun entry => entry.1 ≠ Text.utf8 key

/-- Is a signature without texts planned, with few bytes ahead of its room? -/
def plansFew : Bool :=
  match incrementalUpdate pdf {} none with
  | .ok revision => (revision.ahead pdf {}).length ≤ 1000
  | .error _ => false

theorem incrementalUpdate_unnamed {opts : SignOptions} (unnamed : opts.fieldName = none) :
    incrementalUpdate pdf opts none = incrementalUpdate pdf {} none := by
  have field : signatureField opts = signatureField {} := by
    funext sigNum pageId seal_
    rw [signatureField_eq, signatureField_eq, unnamed]
  rw [incrementalUpdate, incrementalUpdate, field]

theorem exists_plan (opts : SignOptions) (unnamed : opts.fieldName = none)
    (short : (dictionaryHead opts).length ≤ 1000) :
    ∃ revision, incrementalUpdate pdf opts none = .ok revision ∧
      (revision.ahead pdf opts).length + 40000 ≤ 10 ^ 10 := by
  have few : plansFew = true := by decide +kernel
  rw [incrementalUpdate_unnamed unnamed]
  unfold plansFew at few
  cases planned : incrementalUpdate pdf {} none with
  | error fault =>
      rw [planned] at few
      cases few
  | ok revision =>
      rw [planned] at few
      have bound : (revision.ahead pdf {}).length ≤ 1000 := of_decide_eq_true few
      refine ⟨revision, rfl, ?_⟩
      simp only [Revision.ahead, List.length_append, List.length_cons, List.length_nil] at bound ⊢
      omega

end OnePage

open scoped Reference OnePage in
theorem selfConsistent_iff_placeholdersApart_onePage :
    ∃ prepared, prepareSignatureWithAppearance OnePage.pdf {} none = .ok prepared ∧
      [0x30, 0x00].length ≤ maxContentsBytes ∧
      ∃ revision final, incrementalUpdate OnePage.pdf {} none = .ok revision ∧
        embedSignature prepared [0x30, 0x00] = .ok final ∧
        ((∃ a b c, SelfConsistent OnePage.pdf (revision.ahead OnePage.pdf {}).length [0x30, 0x00]
          prepared final a b c) ↔ PlaceholdersApart OnePage.pdf {} revision) := by
  obtain ⟨revision, planned, small⟩ := OnePage.exists_plan {} rfl (by decide)
  obtain ⟨prepared, accepted⟩ := exists_accepted planned small
  exact ⟨prepared, accepted, by decide,
    selfConsistent_iff_placeholdersApart _ _ _ prepared _ accepted (by decide)⟩

def misleading : SignOptions := { reason := some "/Contents <" }

open scoped Reference OnePage in
/-- The signature goes into the stated reason. -/
theorem not_selfConsistent_misleading :
    ∃ prepared revision final,
      prepareSignatureWithAppearance OnePage.pdf misleading none = .ok prepared ∧
      incrementalUpdate OnePage.pdf misleading none = .ok revision ∧
      embedSignature prepared [] = .ok final ∧
      ¬∃ a b c, SelfConsistent OnePage.pdf (revision.ahead OnePage.pdf misleading).length []
        prepared final a b c := by
  obtain ⟨revision, planned, small⟩ := OnePage.exists_plan misleading rfl (by decide)
  obtain ⟨prepared, accepted⟩ := exists_accepted planned small
  obtain ⟨revision', contents, byteRange, planned', patched⟩ := exists_planned accepted
  cases planned.symm.trans planned'
  have fits : ([] : List UInt8).length ≤ maxContentsBytes := Nat.zero_le _
  obtain ⟨final, filled, embedded⟩ := exists_embedded patched fits
  refine ⟨prepared, revision, final, accepted, planned, embedded, ?_⟩
  rintro ⟨a, b, c, consistent⟩
  refine (consistent.apart patched filled).1.1 ((infix_ahead_iff (by decide) planned).mpr ?_)
  exact .inr (.inr ⟨"/Contents <", by decide, List.infix_rfl⟩)

end Chancela.Pades
