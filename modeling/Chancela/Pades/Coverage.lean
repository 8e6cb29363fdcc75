import Chancela.Pades.Object

/-! # Updates after the signed revision

A signature covers its own revision; a later revision may add long-term-validation
evidence. The validator compares the objects of the whole file with those of the signed
revision and accepts the additions when each changed object is named by the evidence. The
names are read from the later revision, and an object that carries page content can be
named as well as any other: the signed document stays as it was exactly where the later
revision names and redefines none of it, and drops none of it
(`Chancela.Pades.renderedUnchanged_iff_evidenceApart`).
-/

namespace Chancela.Pades

open Lopdf

inductive LaterUpdateClass where
  | ltvAugmentationOnly
  | notProvenBenign
deriving DecidableEq

def rootReferenceIsUnchanged (full base : Document) : Bool :=
  match full.trailer.reference? "Root", base.trailer.reference? "Root" with
  | some fullRoot, some baseRoot => fullRoot == baseRoot
  | _, _ => false

def changedIds (full base : Document) : List ObjectId :=
  (full.objects.entries.filter fun entry =>
    match base.objects.lookup entry.1 with
    | some prev => !prev.same entry.2
    | none => true).map Sigma.fst

def documentCatalog (document : Document) : Option Dictionary :=
  (document.trailer.reference? "Root").bind document.dictAt

def documentAcroform (document : Document) : Option Dictionary :=
  ((documentCatalog document).bind (·.reference? "AcroForm")).bind document.dictAt

/-- Are two dictionaries the same but for the entries under some keys? -/
def changeIsOnly (keys : List String) (base full : Dictionary) : Bool :=
  let free := fun key => keys.any fun exempt => key = Text.utf8 exempt
  (full.all fun entry => free entry.1 ||
    match base.find? (·.1 = entry.1) with
    | some prev => prev.2.same entry.2
    | none => false) &&
  base.all fun entry => free entry.1 || (full.find? (·.1 = entry.1)).isSome

def catalogChangeIsDssOnly (base full : Dictionary) : Bool := changeIsOnly ["DSS"] base full

def acroformChangeIsFieldListOnly (base full : Dictionary) : Bool :=
  changeIsOnly ["Fields", "SigFlags"] base full

/-- A `/DocTimeStamp` dictionary. -/
def isDocTimestamp (dict : Dictionary) : Bool := dict.getType = some (Text.utf8 "DocTimeStamp")

/-- `is_doc_timestamp_field`: a `/Sig` form field whose value is a `/DocTimeStamp`. -/
def isDocTimestampField (document : Document) (dict : Dictionary) : Bool :=
  (dict.get "FT").bind Object.asName = some (Text.utf8 "Sig") &&
    match (dict.reference? "V").bind document.dictAt with
    | some value => isDocTimestamp value
    | none => false

def collectVriEntryRefs (vri : Dictionary) : List ObjectId :=
  vri.filterMap fun entry => entry.2.asReference

/-- The `/VRI` dictionary of the evidence and its entries, indirect or inline. -/
def vriIds (full : Document) (dss : Dictionary) : List ObjectId :=
  match dss.reference? "VRI" with
  | some vriRef =>
      vriRef :: match full.dictAt vriRef with
        | some vri => collectVriEntryRefs vri
        | none => []
  | none =>
      match dss.dict? "VRI" with
      | some vri => collectVriEntryRefs vri
      | none => []

def evidenceIds (dss : Dictionary) : List ObjectId :=
  ["Certs", "OCSPs", "CRLs"].flatMap fun key =>
    match dss.array? key with
    | some items => items.filterMap Object.asReference
    | none => []

/-- The part of the allowlist a `/DSS` entry of the catalog opens. -/
def dssIds (full base : Document) (rootId : ObjectId) (catalog : Dictionary) : List ObjectId :=
  match catalog.reference? "DSS" with
  | none => []
  | some dssRef =>
      dssRef :: (match full.dictAt dssRef with
        | some dss => vriIds full dss ++ evidenceIds dss
        | none => []) ++
      match documentCatalog base with
      | some baseCatalog => if catalogChangeIsDssOnly baseCatalog catalog then [rootId] else []
      | none => []

def timestampIds (full : Document) : List ObjectId :=
  (full.objects.entries.filter fun entry =>
    match entry.2.asDict with
    | some dict => isDocTimestamp dict || isDocTimestampField full dict
    | none => false).map Sigma.fst

def acroformIds (full base : Document) (catalog : Dictionary) : List ObjectId :=
  match catalog.reference? "AcroForm" with
  | none => []
  | some acroformRef =>
      match full.dictAt acroformRef, documentAcroform base with
      | some fullAcroform, some baseAcroform =>
          if acroformChangeIsFieldListOnly baseAcroform fullAcroform then [acroformRef] else []
      | _, _ => []

def benignLtvObjectIds (full base : Document) : List ObjectId :=
  match full.trailer.reference? "Root" with
  | none => []
  | some rootId =>
      match full.dictAt rootId with
      | none => []
      | some catalog =>
          dssIds full base rootId catalog ++ timestampIds full ++ acroformIds full base catalog

/-- `classify_later_updates` from the two parsed documents on. -/
def classifyDocuments (full base : Document) : LaterUpdateClass :=
  if !rootReferenceIsUnchanged full base then .notProvenBenign
  else
    let changed := changedIds full base
    if changed = [] then .ltvAugmentationOnly
    else if changed.all (· ∈ benignLtvObjectIds full base) then .ltvAugmentationOnly
    else .notProvenBenign

/-! ## What the signed revision renders -/

def isTimestampObject (document : Document) (object : Object) : Bool :=
  match object.asDict with
  | some dict => isDocTimestampField document dict
  | none => false

/-- What hangs off the page tree of a document: pages, contents, resources, annotations.
The walk does not go on through document-timestamp fields. -/
inductive PageReachable (document : Document) : ObjectId → Prop
  | pages {catalog : Dictionary} {id : ObjectId} (root : documentCatalog document = some catalog)
      (named : catalog.reference? "Pages" = some id) : PageReachable document id
  | refer {source id : ObjectId} {object : Object} (reached : PageReachable document source)
      (present : document.objects.lookup source = some object)
      (untimed : isTimestampObject document object = false) (named : id ∈ object.references) :
      PageReachable document id

/-- An object the signed revision renders: it hangs off the page tree and is no
document-timestamp field. -/
structure Rendered (base : Document) (id : ObjectId) (object : Object) : Prop where
  reached : PageReachable base id
  present : base.objects.lookup id = some object
  untimed : isTimestampObject base object = false

/-- The later document holds every rendered object of the signed revision, unchanged. -/
def RenderedUnchanged (full base : Document) : Prop :=
  ∀ id object, Rendered base id object →
    ∃ later, full.objects.lookup id = some later ∧ object.same later = true

/-- The ways a later document can name an object as validation evidence. -/
inductive NamedAsEvidence (full : Document) : ObjectId → Prop
  | dss {catalog : Dictionary} {id : ObjectId} (root : documentCatalog full = some catalog)
      (named : catalog.reference? "DSS" = some id) : NamedAsEvidence full id
  | vri {catalog dss : Dictionary} {dssRef id : ObjectId}
      (root : documentCatalog full = some catalog) (wired : catalog.reference? "DSS" = some dssRef)
      (resolved : full.dictAt dssRef = some dss) (named : id ∈ vriIds full dss) :
      NamedAsEvidence full id
  | listed {catalog dss : Dictionary} {dssRef id : ObjectId}
      (root : documentCatalog full = some catalog) (wired : catalog.reference? "DSS" = some dssRef)
      (resolved : full.dictAt dssRef = some dss) (named : id ∈ evidenceIds dss) :
      NamedAsEvidence full id
  | timestamp {id : ObjectId} {object : Object} {dict : Dictionary}
      (present : full.objects.lookup id = some object) (shaped : object.asDict = some dict)
      (typed : isDocTimestamp dict = true ∨ isDocTimestampField full dict = true) :
      NamedAsEvidence full id
  | catalog {id : ObjectId} (named : full.trailer.reference? "Root" = some id) :
      NamedAsEvidence full id
  | acroform {catalog : Dictionary} {id : ObjectId} (root : documentCatalog full = some catalog)
      (named : catalog.reference? "AcroForm" = some id) : NamedAsEvidence full id

/-- The later document drops no rendered object, and redefines none it names as
evidence. -/
structure EvidenceApart (full base : Document) : Prop where
  present : ∀ id object, Rendered base id object → (full.objects.lookup id).isSome = true
  kept : ∀ id object later, Rendered base id object → NamedAsEvidence full id →
    full.objects.lookup id = some later → object.same later = true

section Allowlist

variable {full base : Document} {id rootId : ObjectId} {catalog : Dictionary}

theorem documentCatalog_eq (root : full.trailer.reference? "Root" = some rootId)
    (resolved : full.dictAt rootId = some catalog) : documentCatalog full = some catalog := by
  rw [documentCatalog, root, Option.bind_some, resolved]

theorem named_of_mem_dssIds (root : full.trailer.reference? "Root" = some rootId)
    (resolved : full.dictAt rootId = some catalog)
    (listed : id ∈ dssIds full base rootId catalog) : NamedAsEvidence full id := by
  have current := documentCatalog_eq root resolved
  cases wired : catalog.reference? "DSS" with
  | none => simp only [dssIds, wired, List.not_mem_nil] at listed
  | some dssRef =>
      simp only [dssIds, wired] at listed
      rcases List.mem_append.mp listed with own | changed
      · rcases List.mem_cons.mp own with rfl | inside
        · exact .dss current wired
        · cases reached : full.dictAt dssRef with
          | none => simp only [reached, List.not_mem_nil] at inside
          | some dss =>
              simp only [reached] at inside
              rcases List.mem_append.mp inside with fromVri | fromList
              · exact .vri current wired reached fromVri
              · exact .listed current wired reached fromList
      · split at changed
        · split at changed
          · rw [List.mem_singleton.mp changed]
            exact .catalog root
          · cases changed
        · cases changed

theorem named_of_mem_timestampIds (listed : id ∈ timestampIds full) : NamedAsEvidence full id := by
  rw [timestampIds, List.mem_map] at listed
  obtain ⟨entry, inside, rfl⟩ := listed
  obtain ⟨member, shaped⟩ := List.mem_filter.mp inside
  have present := AList.mem_lookup_iff.mpr member
  cases asDict : entry.2.asDict with
  | none => rw [asDict] at shaped; cases shaped
  | some dict =>
      rw [asDict] at shaped
      exact .timestamp present asDict ((Bool.or_eq_true _ _).mp shaped)

theorem named_of_mem_acroformIds (root : full.trailer.reference? "Root" = some rootId)
    (resolved : full.dictAt rootId = some catalog)
    (listed : id ∈ acroformIds full base catalog) : NamedAsEvidence full id := by
  cases wired : catalog.reference? "AcroForm" with
  | none => simp only [acroformIds, wired, List.not_mem_nil] at listed
  | some acroformRef =>
      simp only [acroformIds, wired] at listed
      split at listed
      · split at listed
        · rw [List.mem_singleton.mp listed]
          exact .acroform (documentCatalog_eq root resolved) wired
        · cases listed
      · cases listed

theorem named_of_mem_benign (listed : id ∈ benignLtvObjectIds full base) :
    NamedAsEvidence full id := by
  cases root : full.trailer.reference? "Root" with
  | none => simp only [benignLtvObjectIds, root, List.not_mem_nil] at listed
  | some rootId =>
      cases resolved : full.dictAt rootId with
      | none => simp only [benignLtvObjectIds, root, resolved, List.not_mem_nil] at listed
      | some catalog =>
          simp only [benignLtvObjectIds, root, resolved] at listed
          rcases List.mem_append.mp listed with either | fromForm
          · rcases List.mem_append.mp either with fromDss | fromTimestamp
            · exact named_of_mem_dssIds root resolved fromDss
            · exact named_of_mem_timestampIds fromTimestamp
          · exact named_of_mem_acroformIds root resolved fromForm

theorem same_or_mem_benign (classified : classifyDocuments full base = .ltvAugmentationOnly)
    {object later : Object} (before : base.objects.lookup id = some object)
    (after : full.objects.lookup id = some later) :
    object.same later = true ∨ id ∈ benignLtvObjectIds full base := by
  by_cases kept : object.same later = true
  · exact .inl kept
  have changed : id ∈ changedIds full base := by
    refine List.mem_map.mpr ⟨⟨id, later⟩, List.mem_filter.mpr ⟨AList.mem_lookup_iff.mp after, ?_⟩,
      rfl⟩
    rw [before]
    simpa only [Bool.not_eq_true', Bool.not_eq_true] using kept
  simp only [classifyDocuments] at classified
  split at classified
  · cases classified
  split at classified
  case isTrue unchanged =>
    rw [unchanged] at changed
    cases changed
  split at classified
  case isTrue benign =>
    exact .inr (of_decide_eq_true (List.all_eq_true.mp benign id changed))
  · cases classified

end Allowlist

/-- **Evidence and content.** When a later document is taken for long-term-validation
evidence alone, it leaves what the signed revision renders unchanged exactly where it
drops none of it and redefines none of it under the name of evidence. -/
theorem renderedUnchanged_iff_evidenceApart (full base : Document)
    (classified : classifyDocuments full base = .ltvAugmentationOnly) :
    RenderedUnchanged full base ↔ EvidenceApart full base := by
  constructor
  · intro unchanged
    refine ⟨?_, ?_⟩
    · intro id object rendered
      obtain ⟨later, found, -⟩ := unchanged id object rendered
      rw [found, Option.isSome_some]
    · intro id object later rendered _ found
      obtain ⟨kept, found', same⟩ := unchanged id object rendered
      rw [found] at found'
      rw [Option.some.inj found']
      exact same
  · intro apart id object rendered
    obtain ⟨later, found⟩ := Option.isSome_iff_exists.mp (apart.present id object rendered)
    refine ⟨later, found, ?_⟩
    rcases same_or_mem_benign classified rendered.present found with same | benign
    · exact same
    · exact apart.kept id object later rendered (named_of_mem_benign benign) found

/-- A signed revision: catalog, page tree, one page and its content stream. -/
def signedContract : Document where
  objects := [⟨(1, 0), .dictionary [(Text.utf8 "Type", .name (Text.utf8 "Catalog")),
      (Text.utf8 "Pages", .reference (2, 0))]⟩,
    ⟨(2, 0), .dictionary [(Text.utf8 "Kids", .array [.reference (3, 0)])]⟩,
    ⟨(3, 0), .dictionary [(Text.utf8 "Contents", .reference (4, 0))]⟩,
    ⟨(4, 0), .stream [] (Text.utf8 "(paga 10) Tj")⟩].toAList
  trailer := [(Text.utf8 "Root", .reference (1, 0))]
  maxId := 4

/-- A later revision that lists an object among its certificates, and writes that object
anew. -/
def withDss (certificate : ObjectId) (content : String) : Document :=
  { signedContract with
    objects := ((signedContract.objects.insert (1, 0)
        (.dictionary [(Text.utf8 "Type", .name (Text.utf8 "Catalog")),
          (Text.utf8 "Pages", .reference (2, 0)), (Text.utf8 "DSS", .reference (5, 0))])).insert
      (5, 0) (.dictionary [(Text.utf8 "Certs", .array [.reference certificate])])).insert
      certificate (.stream [] (Text.utf8 content)) }

/-- The page's content stream passes for a certificate. -/
theorem ltvAugmentation_alters_content :
    classifyDocuments (withDss (4, 0) "(paga 99) Tj") signedContract = .ltvAugmentationOnly ∧
      ¬RenderedUnchanged (withDss (4, 0) "(paga 99) Tj") signedContract := by
  refine ⟨by decide, ?_⟩
  intro unchanged
  have pages : PageReachable signedContract (2, 0) := .pages rfl rfl
  have page : PageReachable signedContract (3, 0) := .refer pages rfl rfl (by decide)
  have content : PageReachable signedContract (4, 0) := .refer page rfl rfl (by decide)
  obtain ⟨later, found, same⟩ := unchanged (4, 0) _ ⟨content, rfl, rfl⟩
  have altered : some later = some (.stream [] (Text.utf8 "(paga 99) Tj")) := found.symm.trans rfl
  rw [Option.some.inj altered] at same
  exact absurd same (by decide)

theorem renderedUnchanged_iff_evidenceApart_certificate :
    classifyDocuments (withDss (6, 0) "der") signedContract = .ltvAugmentationOnly ∧
      (RenderedUnchanged (withDss (6, 0) "der") signedContract ↔
        EvidenceApart (withDss (6, 0) "der") signedContract) := by
  have classified : classifyDocuments (withDss (6, 0) "der") signedContract =
      .ltvAugmentationOnly := by decide
  exact ⟨classified, renderedUnchanged_iff_evidenceApart _ _ classified⟩

end Chancela.Pades
