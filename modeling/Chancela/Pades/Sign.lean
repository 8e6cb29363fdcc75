import Chancela.Crates.Basic
import Chancela.Pades.Pdf
import Mathlib.Data.List.Sort

/-! # Signing by incremental update

A signature is appended to a document as one more revision: the catalog and a page written
anew, a form, a signature field, and a signature dictionary with room for the signature
itself. The room is found by searching the file for its text, the offsets around it are
written into the dictionary, and what lies outside is hashed. The signature is filled in
later, when it has been made.
-/

namespace Chancela.Pades

open Lopdf Decimal

/-- `PadesError`, as far as signing raises it. -/
inductive PadesError where
  | pdfParse (message : String)
  | missingStartxref
  | malformedStructure (message : String)
  | contentsPlaceholderTooSmall (produced capacity : Nat)
deriving DecidableEq

/-- A call is refused with an error, or reaches for bytes that are not there. -/
inductive Fault where
  | refused (error : PadesError)
  | panicked
deriving DecidableEq

/-- The operations the signer calls in `lopdf`. -/
class LopdfCrate where
  /-- `Document::load_mem`, or the text of its error. -/
  loadMem : List UInt8 → Except String Document
  /-- `Stream::decompressed_content`. -/
  decompressedContent : Dictionary → List UInt8 → Option (List UInt8)
  /-- `Dictionary::remove`. -/
  removeKey : Dictionary → String → Dictionary

def asStream : Object → Option (Dictionary × List UInt8)
  | .stream dict content => some (dict, content)
  | _ => none

/-- `ok_or`, with a malformed structure. -/
def orMalformed {α : Type} (message : String) : Option α → Except PadesError α
  | some value => .ok value
  | none => .error (.malformedStructure message)

/-- `pdf::write_dict`, its error taken for a malformed structure. -/
def serialize (dict : Dictionary) : Except PadesError (List UInt8) :=
  (Pdf.writeDict dict).mapError .malformedStructure

/-! ## Metadata

The signature widget is not tagged, so a document that claims PDF/UA-1 stops claiming it in
the revision that signs it. -/

namespace Xmp

def lineBounds (text : List UInt8) (pos : Nat) : Nat × Nat :=
  (((Pdf.rfind (text.take pos) [10]).map (· + 1)).getD 0,
    ((Pdf.find (text.drop pos) [10]).map (pos + · + 1)).getD text.length)

/-- `String::replace_range` with nothing. -/
def cut (text : List UInt8) (start finish : Nat) : List UInt8 := text.take start ++ text.drop finish

/-- `remove_line_containing`; each turn takes away a line that holds the text. -/
def removeLineContaining (needle : List UInt8) : Nat → List UInt8 → List UInt8
  | 0, text => text
  | fuel + 1, text =>
      match Pdf.find text needle with
      | none => text
      | some pos =>
          let (start, finish) := lineBounds text pos
          removeLineContaining needle fuel (cut text start finish)

def removeElementContaining (needle tag : String) : Nat → List UInt8 → List UInt8
  | 0, text => text
  | fuel + 1, text =>
      match Pdf.find text (Text.utf8 needle) with
      | none => text
      | some pos =>
          match Pdf.rfind (text.take pos) (Text.utf8 "<" ++ Text.utf8 tag),
              Pdf.find (text.drop pos) (Text.utf8 "</" ++ Text.utf8 tag ++ Text.utf8 ">") with
          | some opening, some closing =>
              let start := (lineBounds text opening).1
              let finish := (lineBounds text (pos + closing)).2
              removeElementContaining needle tag fuel (cut text start finish)
          | _, _ => text

def withoutPdfUaClaim (packet : List UInt8) : Except PadesError (Option (List UInt8)) :=
  if (String.fromUTF8? ⟨packet.toArray⟩).isNone then
    .error (.malformedStructure ("the document's XMP metadata is not valid UTF-8, so its PDF/UA " ++
      "claim cannot be assessed"))
  else if (Pdf.find packet (Text.utf8 "pdfuaid")).isNone then .ok none
  else
    let unclaimed := removeLineContaining (Text.utf8 "<pdfuaid:part>") packet.length packet
    let undeclared := removeLineContaining (Text.utf8 "xmlns:pdfuaid=") packet.length unclaimed
    let stripped := removeElementContaining "<pdfaExtension:schemas>" "rdf:Description"
      packet.length undeclared
    if (Pdf.find stripped (Text.utf8 "pdfuaid")).isSome then
      .error (.malformedStructure ("the document's XMP claims PDF/UA-1 in a shape this signer " ++
        "cannot drop, and signing would leave the claim standing while the signature widget is " ++
        "untagged (ISO 14289-1 7.18.1)"))
    else .ok (some stripped)

end Xmp

/-- `superseded_metadata`: the metadata object written anew without its claim, if it makes
one. -/
def supersededMetadata [LopdfCrate] (doc : Document) (catalog : Dictionary) :
    Except PadesError (Option (ObjectId × List UInt8)) :=
  match catalog.reference? "Metadata" with
  | none => .ok none
  | some metadataId =>
      match (doc.getObject metadataId).bind asStream with
      | none => .ok none
      | some (dict, content) => do
          let packet := (LopdfCrate.decompressedContent dict content).getD content
          match ← Xmp.withoutPdfUaClaim packet with
          | none => return none
          | some stripped =>
              let unfiltered := LopdfCrate.removeKey (LopdfCrate.removeKey dict "Filter")
                "DecodeParms"
              let written ← serialize (unfiltered.set "Length" (.integer stripped.length))
              return some (metadataId, written ++ Text.utf8 "\nstream\n" ++ stripped ++
                Text.utf8 "\nendstream")

/-! ## The signature dictionary -/

def maxContentsBytes : Nat := 16 * 1024

/-- `CONTENTS_HEX_LEN`. -/
@[irreducible] def contentsHexLen : Nat := maxContentsBytes * 2

structure SignOptions where
  fieldName : Option String := none
  signingTime : Option String := none
  reason : Option String := none
  location : Option String := none
  contactInfo : Option String := none

def SignOptions.entries (opts : SignOptions) : List (String × String) :=
  [("M", opts.signingTime), ("Reason", opts.reason), ("Location", opts.location),
    ("ContactInfo", opts.contactInfo)].filterMap fun entry => entry.2.map (entry.1, ·)

/-- One text as a literal string. The characters escaped are ASCII, so that they are escaped
byte by byte. -/
def literal (key value : String) : List UInt8 :=
  Text.utf8 " /" ++ Text.utf8 key ++ Text.utf8 " (" ++ Pdf.escapeLiteral (Text.utf8 value) ++ [41]

/-- `signature_dict_template` up to the room for the offsets. -/
def dictionaryHead (opts : SignOptions) : List UInt8 :=
  Text.utf8 "<< /Type /Sig /Filter /Adobe.PPKLite /SubFilter /ETSI.CAdES.detached" ++
    opts.entries.flatMap fun entry => literal entry.1 entry.2

def signatureDictTemplate (opts : SignOptions) : List UInt8 :=
  dictionaryHead opts ++ Text.utf8 " /ByteRange [0 0000000000 0000000000 0000000000]" ++
    Text.utf8 " /Contents <" ++ List.replicate contentsHexLen 48 ++ Text.utf8 "> >>"

/-! ## The incremental update -/

structure SealPlacement where
  page : Nat
  x : Float32
  y : Float32
  w : Float32
  h : Float32

structure BuiltAppearance where
  normalApNum : UInt32
  objects : List (UInt32 × List UInt8)

/-- `SealAppearance`. What the seal shows is the objects it is drawn with, from the document,
the page, the size and the first free object number. -/
structure SealAppearance where
  placement : SealPlacement
  build : Document → ObjectId → Float32 → Float32 → UInt32 → Except PadesError BuiltAppearance

/-- What is written for a signature: the objects of the document written anew, those added
ahead of the signature dictionary and behind it, each with its number, and the cross-reference
section continued. -/
structure Revision where
  rootId : ObjectId
  prevStartxref : Nat
  rewritten : List (UInt32 × List UInt8)
  added : List (UInt32 × List UInt8)
  sigNum : UInt32
  trailing : List (UInt32 × List UInt8)

def signatureField (opts : SignOptions) (sigNum : UInt32) (pageId : ObjectId)
    (seal_ : Option (SealPlacement × BuiltAppearance)) : Dictionary :=
  let named : Dictionary := [(Text.utf8 "FT", .name (Text.utf8 "Sig")),
    (Text.utf8 "T", .string (Text.utf8 (opts.fieldName.getD "Signature1")) .literal),
    (Text.utf8 "V", .reference (sigNum, 0)), (Text.utf8 "Type", .name (Text.utf8 "Annot")),
    (Text.utf8 "Subtype", .name (Text.utf8 "Widget")), (Text.utf8 "F", .integer 132)]
  let placed : Dictionary := match seal_ with
    | some (p, built) =>
        [(Text.utf8 "Rect", .array [.real p.x, .real p.y, .real (p.x + p.w), .real (p.y + p.h)]),
          (Text.utf8 "AP", .dictionary [(Text.utf8 "N", .reference (built.normalApNum, 0))])]
    | none => [(Text.utf8 "Rect", .array [.integer 0, .integer 0, .integer 0, .integer 0])]
  named ++ placed ++ [(Text.utf8 "P", .reference pageId)]

def withWidget (page : Dictionary) (widget : ObjectId) : Except PadesError Dictionary :=
  match page.get "Annots" with
  | some (.array existing) => .ok (page.set "Annots" (.array (existing ++ [.reference widget])))
  | some _ => .error (.malformedStructure
      "page /Annots is an indirect reference; inline array required (phase-1)")
  | none => .ok (page.set "Annots" (.array [.reference widget]))

def signatureForm (fieldNum : UInt32) : Dictionary :=
  [(Text.utf8 "Fields", .array [.reference (fieldNum, 0)]), (Text.utf8 "SigFlags", .integer 3)]

/-- The parsed document, its catalog, and the page the signature goes to. -/
structure SigningTarget where
  doc : Document
  prevStartxref : Nat
  rootId : ObjectId
  catalog : Dictionary
  pageId : ObjectId
  page : Dictionary

/-- `prepare_incremental` up to the page. -/
def locateTarget [LopdfCrate] (pdf : List UInt8) (appearance : Option SealAppearance) :
    Except PadesError SigningTarget := do
  if let some app := appearance then
    if !(0 < app.placement.w && 0 < app.placement.h) then
      throw (.malformedStructure "seal appearance width and height must be positive")
  let doc ← (LopdfCrate.loadMem pdf).mapError .pdfParse
  let some prevStartxref := Pdf.lastStartxref pdf | throw .missingStartxref
  -- Only classic cross-reference tables can be chained by a classic one.
  if (pdf.drop prevStartxref).take 4 ≠ Text.utf8 "xref" then
    throw (.malformedStructure ("input PDF uses cross-reference streams; a classic xref table " ++
      "is required (phase-1 limitation)"))
  let rootId ← orMalformed "trailer has no /Root reference" (doc.trailer.reference? "Root")
  let catalog ← orMalformed "catalog object missing" (doc.dictAt rootId)
  if catalog.has "AcroForm" then
    throw (.malformedStructure
      "PDF already has an AcroForm; adding to an existing form is not supported (phase-1)")
  let pagesId ← orMalformed "catalog has no /Pages" (catalog.reference? "Pages")
  let pages ← orMalformed "pages tree missing" (doc.dictAt pagesId)
  let targetPage := (appearance.map (·.placement.page)).getD 0
  let kids ← orMalformed "pages tree has no /Kids" (pages.array? "Kids")
  let outOfRange := "requested seal page " ++ toString targetPage ++ " is out of range (" ++
    toString kids.length ++ " page(s))"
  let pageId ← orMalformed outOfRange ((kids[targetPage]?).bind Object.asReference)
  let page ← orMalformed "page object missing" (doc.dictAt pageId)
  return { doc, prevStartxref, rootId, catalog, pageId, page }

def drawSeal (target : SigningTarget) : Option SealAppearance →
    Except PadesError (Option (SealPlacement × BuiltAppearance))
  | none => .ok none
  | some app => do
      let built ← app.build target.doc target.pageId app.placement.w app.placement.h
        (target.doc.maxId + 4)
      return some (app.placement, built)

/-- `prepare_incremental` up to the serialized objects. New object numbers are above the
highest of the document. -/
def incrementalUpdate [LopdfCrate] (pdf : List UInt8) (opts : SignOptions)
    (appearance : Option SealAppearance) : Except PadesError Revision := do
  let target ← locateTarget pdf appearance
  let base := target.doc.maxId
  let built ← drawSeal target appearance
  let catalog := target.catalog.set "AcroForm" (.reference (base + 1, 0))
  let page ← withWidget target.page (base + 2, 0)
  let catalogBody ← serialize catalog
  let pageBody ← serialize page
  let acroformBody ← serialize (signatureForm (base + 2))
  let fieldBody ← serialize (signatureField opts (base + 3) target.pageId built)
  let metadata ← supersededMetadata target.doc catalog
  return {
    rootId := target.rootId
    prevStartxref := target.prevStartxref
    rewritten := [(target.rootId.1, catalogBody), (target.pageId.1, pageBody)]
    added := [(base + 1, acroformBody), (base + 2, fieldBody)]
    sigNum := base + 3
    trailing := (built.map (·.2.objects)).getD [] ++
      (metadata.map fun superseded => (superseded.1.1, superseded.2)).toList }

def emitObject (object : UInt32 × List UInt8) : List UInt8 :=
  decimal object.1.toNat ++ Text.utf8 " 0 obj\n" ++ object.2 ++ Text.utf8 "\nendobj\n"

def offsets : Nat → List (UInt32 × List UInt8) → List (UInt32 × Nat)
  | _, [] => []
  | start, object :: rest => (object.1, start) :: offsets (start + (emitObject object).length) rest

/-- The cross-reference table, in subsections of consecutive numbers. -/
def xrefTable (entries : List (UInt32 × Nat)) : List UInt8 :=
  let sorted := entries.insertionSort fun first second => first.1 ≤ second.1
  let subsections := sorted.splitBy fun previous next => next.1 == previous.1 + 1
  Text.utf8 "xref\n" ++ subsections.flatMap fun subsection =>
    decimal ((subsection.head?.map (·.1.toNat)).getD 0) ++ 32 ::
      (decimal subsection.length ++ 10 :: subsection.flatMap fun entry =>
        padded 10 entry.2 ++ Text.utf8 " 00000 n\r\n")

namespace Revision

variable (revision : Revision) (pdf : List UInt8) (opts : SignOptions)

def objects : List (UInt32 × List UInt8) :=
  revision.rewritten ++ revision.added ++
    (revision.sigNum, signatureDictTemplate opts) :: revision.trailing

def trailer (xrefOff : Nat) : List UInt8 :=
  let size := (((revision.objects opts).map (·.1)).max?).getD revision.sigNum + 1
  let id := ((Pdf.trailerIdArray pdf).map fun array =>
    Text.utf8 " /ID " ++ Pdf.fromUtf8Lossy array.length array).getD []
  Text.utf8 "trailer\n<< /Size " ++ decimal size.toNat ++ Text.utf8 " /Root " ++
    decimal revision.rootId.1.toNat ++ Text.utf8 " 0 R /Prev " ++ decimal revision.prevStartxref ++
    id ++ Text.utf8 " >>\n" ++ Text.utf8 "startxref\n" ++ decimal xrefOff ++ Text.utf8 "\n%%EOF\n"

def closing : List UInt8 :=
  let written := (revision.objects opts).flatMap emitObject
  xrefTable (offsets (pdf.length + 1) (revision.objects opts)) ++
    revision.trailer pdf opts (pdf.length + 1 + written.length)

def section_ : List UInt8 :=
  10 :: ((revision.objects opts).flatMap emitObject ++ revision.closing pdf opts)

end Revision

structure PreparedSignature where
  preparedPdf : List UInt8
  byterangeDigest : Digest
  hexStart : Nat

def contentsMarker : List UInt8 := Text.utf8 "/Contents <"

def byteRangeMarker : List UInt8 := Text.utf8 "/ByteRange [0 "

def byteRangeText (range1Len range2Start range2Len : Nat) : List UInt8 :=
  padded 10 range1Len ++ 32 :: (padded 10 range2Start ++ 32 :: padded 10 range2Len)

/-- `prepare_incremental` from the assembled bytes on. -/
def patchPlaceholders [Crates] (bytes : List UInt8) : Except Fault PreparedSignature :=
  match Pdf.find bytes contentsMarker with
  | none => .error (.refused (.malformedStructure "contents placeholder not found"))
  | some contents =>
      let lt := contents + 10
      let range2Start := lt + 1 + contentsHexLen + 1
      if bytes.length < range2Start then .error .panicked
      else
        let range2Len := bytes.length - range2Start
        match Pdf.find bytes byteRangeMarker with
        | none => .error (.refused (.malformedStructure "ByteRange placeholder not found"))
        | some byteRange =>
            match Pattern.overwrite bytes (byteRange + 14)
                (byteRangeText lt range2Start range2Len) with
            | none => .error .panicked
            | some patched => .ok {
                preparedPdf := patched
                byterangeDigest := sha256 (patched.take lt ++
                  (patched.drop range2Start).take range2Len)
                hexStart := lt + 1 }

section Entry

variable [Crates] [LopdfCrate]

def prepareIncremental (pdf : List UInt8) (opts : SignOptions)
    (appearance : Option SealAppearance) : Except Fault PreparedSignature := do
  let revision ← (incrementalUpdate pdf opts appearance).mapError .refused
  patchPlaceholders (pdf ++ revision.section_ pdf opts)

def prepareSignature (pdf : List UInt8) (opts : SignOptions) : Except Fault PreparedSignature :=
  prepareIncremental pdf opts none

def prepareSignatureWithAppearance (pdf : List UInt8) (opts : SignOptions)
    (appearance : Option SealAppearance) : Except Fault PreparedSignature :=
  prepareIncremental pdf opts appearance

end Entry

def embedCms (bytes : List UInt8) (hexStart : Nat) (cms : List UInt8) :
    Except Fault (List UInt8) :=
  if maxContentsBytes < cms.length then
    .error (.refused (.contentsPlaceholderTooSmall cms.length maxContentsBytes))
  else
    match (Pattern.overwrite bytes hexStart (List.replicate contentsHexLen 48)).bind
        fun reset => Pattern.overwrite reset hexStart (Pdf.toHex cms) with
    | none => .error .panicked
    | some filled => .ok filled

def embedSignature (prepared : PreparedSignature) (cms : List UInt8) : Except Fault (List UInt8) :=
  embedCms prepared.preparedPdf prepared.hexStart cms

end Chancela.Pades
