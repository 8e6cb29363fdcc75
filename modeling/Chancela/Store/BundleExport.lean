import Chancela.Api.Acts
import Chancela.Store.Bundle

/-! # Book bundles

`build_book_bundle` gathers a book with its entity, its acts, the events of its chain and the
documents of the book and of its acts, and lists them in a manifest with their digests.
-/

namespace Chancela

/-- `format_rfc3339`. -/
def formatRfc3339OrEpoch [Crates] (instant : OffsetDateTime) : String :=
  (formatRfc3339 instant).getD "1970-01-01T00:00:00Z"

namespace Bundle

structure StoredDocument where
  id : String
  actId : Uuid
  templateId : String
  pdfDigest : String
  profile : String
  createdAt : OffsetDateTime
  pdfBytes : List UInt8
deriving DecidableEq

structure StoredSignedDocument where
  actId : Uuid
  documentId : String
  signedPdfDigest : String
  signatureFamily : String
  evidentiaryLevel : String
  trustedListStatus : Option String
  signerCertSubject : Option String
  signingTime : OffsetDateTime
  signedAt : OffsetDateTime
  signerCertDer : List UInt8
  timestampTokenDer : Option (List UInt8)
  signedPdfBytes : List UInt8
deriving DecidableEq

/-- The rows an export reads; documents in the order they were inserted. -/
structure Rows where
  books : List FiledBook
  entities : List (Uuid × String)
  acts : List Act
  documents : List StoredDocument
  signedDocuments : List StoredSignedDocument
  instanceId : String

namespace Rows

variable (rows : Rows)

def bookById (id : Uuid) : Option FiledBook := rows.books.find? (·.id = id)

def entityJson (id : Uuid) : Option String := (rows.entities.find? (·.1 = id)).map (·.2)

def actsForBook (bookId : Uuid) : List Act :=
  (rows.acts.filter (·.bookId = bookId)).insertionSort fun first second =>
    first.id.display ≤ second.id.display

def documentsForAct [Crates] (actId : Uuid) : List StoredDocument :=
  (rows.documents.filter (·.actId = actId)).insertionSort fun first second =>
    formatRfc3339OrEpoch first.createdAt ≤ formatRfc3339OrEpoch second.createdAt

/-- `Store::document_for_act`: the latest of them. -/
def documentForAct [Crates] (actId : Uuid) : Option StoredDocument :=
  (rows.documentsForAct actId).getLast?

def documentById (id : String) : Option StoredDocument := rows.documents.find? (·.id = id)

def signedDocumentForAct (actId : Uuid) : Option StoredSignedDocument :=
  rows.signedDocuments.find? (·.actId = actId)

end Rows

/-- What is called in `serde_json` to write the members of a bundle and to read a book. -/
class Writer where
  /-- `to_vec_pretty` of a derived value. -/
  prettyJson : Json → List UInt8
  /-- `to_vec_pretty` of a book. -/
  prettyBook : FiledBook → Option (List UInt8)
  /-- `to_vec_pretty` of an act. -/
  prettyAct : Act → Option (List UInt8)
  /-- The text `to_vec` writes for an event. -/
  eventText : Event → Option String
  /-- `from_slice::<Book>`, which the import analysis leaves to its readers. -/
  readBook : List UInt8 → Except String FiledBook

export Writer (prettyJson prettyBook prettyAct eventText readBook)

abbrev Member := String × List UInt8

structure DocumentMemberOwner where
  ownerKind : String
  ownerId : String
  bookId : String
  actId : Option String

def documentRole (ownerKind templateId : String) : String :=
  if ownerKind = "book" then
    let id := templateId.map Char.toLower
    if Text.contains id "termo-abertura" then "opening_term"
    else if Text.contains id "termo-encerramento" then "closing_term"
    else "book_document"
  else "act_document"

def signedPdfProfile (signed : StoredSignedDocument) : String :=
  if signed.timestampTokenDer.isSome then "application/pdf; profile=PAdES-B-T"
  else "application/pdf; profile=PAdES-B-B"

section Writing

variable [Crates] [Writer]

def toVecPretty (json : Option Json) : Except StoreError (List UInt8) :=
  match json with
  | some json => .ok (prettyJson json)
  | none => .error .serialization

/-- An optional outcome of `serde_json`. -/
def serialized {α : Type} : Option α → Except StoreError α
  | some value => .ok value
  | none => .error .serialization

/-- What `document_metadata_bytes` says of the signed variant of a document. -/
def signedReference (doc : StoredDocument) (signed : StoredSignedDocument) : List Json.Field := [
  Json.field "signed_pdf_digest" signed.signedPdfDigest,
  Json.field "signature_family" signed.signatureFamily,
  Json.field "evidentiary_level" signed.evidentiaryLevel,
  Json.field "signing_time" (formatRfc3339OrEpoch signed.signingTime),
  Json.field "signed_at" (formatRfc3339OrEpoch signed.signedAt),
  Json.field "signed_pdf_path" ("signed/" ++ doc.id ++ ".pdf"),
  Json.field "signing_metadata_path" ("signed/" ++ doc.id ++ ".json"),
  Json.field "timestamp_token_present" signed.timestampTokenDer.isSome]

/-- What `document_metadata_bytes` names as the final artifact. -/
def finalArtifact (doc : StoredDocument) : Option StoredSignedDocument → List Json.Field
  | some signed => [
      Json.field "kind" "signed_pdf",
      Json.field "path" ("signed/" ++ doc.id ++ ".pdf"),
      Json.field "sha256" signed.signedPdfDigest,
      Json.field "content_type" (signedPdfProfile signed)]
  | none => [
      Json.field "kind" "base_pdf",
      Json.field "path" ("documents/" ++ doc.id ++ ".pdf"),
      Json.field "sha256" doc.pdfDigest,
      Json.field "content_type" "application/pdf"]

def nested (key : String) (fields : List Json.Field) : Json.Field :=
  ⟨key, some (Json.struct fields)⟩

def documentMetadataBytes (owner : DocumentMemberOwner) (doc : StoredDocument)
    (signed : Option StoredSignedDocument) : Except StoreError (List UInt8) :=
  toVecPretty (Json.struct [
    Json.field "format" bundleFormat,
    Json.field "sidecar" "document",
    nested "owner" [
      Json.field "kind" owner.ownerKind,
      Json.field "id" owner.ownerId,
      Json.field "book_id" owner.bookId,
      Json.skipNone "act_id" owner.actId],
    nested "document" [
      Json.field "id" doc.id,
      Json.field "role" (documentRole owner.ownerKind doc.templateId),
      Json.field "template_id" doc.templateId,
      Json.field "profile" doc.profile,
      Json.field "created_at" (formatRfc3339OrEpoch doc.createdAt),
      Json.field "pdf_digest" doc.pdfDigest,
      Json.field "pdf_path" ("documents/" ++ doc.id ++ ".pdf"),
      Json.field "content_type" "application/pdf"],
    nested "final_artifact" (finalArtifact doc signed),
    match signed with
    | some signed => nested "signed" (signedReference doc signed)
    | none => ⟨"signed", some (some .null)⟩])

def signingMetadataBytes (signed : StoredSignedDocument) (sourceDocumentPresent : Bool) :
    Except StoreError (List UInt8) :=
  toVecPretty (Json.struct [
    Json.field "format" bundleFormat,
    Json.field "sidecar" "signed_document",
    Json.field "act_id" signed.actId.display,
    Json.field "document_id" signed.documentId,
    Json.field "source_document_present" sourceDocumentPresent,
    Json.field "source_document_path" ("documents/" ++ signed.documentId ++ ".pdf"),
    Json.field "signed_pdf_path" ("signed/" ++ signed.documentId ++ ".pdf"),
    Json.field "signed_pdf_digest" signed.signedPdfDigest,
    Json.field "signature_family" signed.signatureFamily,
    Json.field "evidentiary_level" signed.evidentiaryLevel,
    Json.field "trusted_list_status" signed.trustedListStatus,
    Json.field "signer_cert_subject" signed.signerCertSubject,
    Json.field "signing_time" (formatRfc3339OrEpoch signed.signingTime),
    Json.field "signed_at" (formatRfc3339OrEpoch signed.signedAt),
    Json.field "signer_certificate_sha256" (sha256Hex signed.signerCertDer),
    Json.field "timestamp_token_present" signed.timestampTokenDer.isSome,
    Json.field "timestamp_token_sha256" (signed.timestampTokenDer.map sha256Hex)])

/-- Members of documents, and the ids of the documents among them. -/
structure DocumentMembers where
  members : List Member
  exportedDocumentIds : List String

def appendSignedMembers (state : DocumentMembers) (signed : StoredSignedDocument)
    (sourceDocumentPresent : Bool) : Except StoreError DocumentMembers := do
  let metadata ← signingMetadataBytes signed sourceDocumentPresent
  return { state with
    members := state.members ++ [
      ("signed/" ++ signed.documentId ++ ".pdf", signed.signedPdfBytes),
      ("signed/" ++ signed.documentId ++ ".json", metadata)] }

/-- The signed members of a document that has a signed variant. -/
def appendSignedOf (state : DocumentMembers) :
    Option StoredSignedDocument → Except StoreError DocumentMembers
  | some signed => appendSignedMembers state signed true
  | none => .ok state

def appendDocumentMembers (owner : DocumentMemberOwner) (state : DocumentMembers)
    (doc : StoredDocument) (signed : Option StoredSignedDocument) :
    Except StoreError DocumentMembers :=
  if doc.id ∈ state.exportedDocumentIds then .ok state
  else do
    let metadata ← documentMetadataBytes owner doc signed
    appendSignedOf {
      members := state.members ++ [
        ("documents/" ++ doc.id ++ ".pdf", doc.pdfBytes),
        ("documents/" ++ doc.id ++ ".json", metadata)]
      exportedDocumentIds := doc.id :: state.exportedDocumentIds } signed

/-- A signed variant whose document has not been exported, with its document where there is one. -/
def appendLeftSigned (rows : Rows) (owner : DocumentMemberOwner) (state : DocumentMembers) :
    Option StoredSignedDocument → Except StoreError DocumentMembers
  | none => .ok state
  | some signed =>
      if signed.documentId ∈ state.exportedDocumentIds then .ok state
      else
        match rows.documentById signed.documentId with
        | some doc => appendDocumentMembers owner state doc (some signed)
        | none => appendSignedMembers state signed false

def appendDocuments (owner : DocumentMemberOwner) (signed : Option StoredSignedDocument) :
    DocumentMembers → List StoredDocument → Except StoreError DocumentMembers
  | state, [] => .ok state
  | state, doc :: rest => do
      let state ← appendDocumentMembers owner state doc (signed.filter (·.documentId = doc.id))
      appendDocuments owner signed state rest

def appendLatest (owner : DocumentMemberOwner) (state : DocumentMembers)
    (signed : Option StoredSignedDocument) :
    Option StoredDocument → Except StoreError DocumentMembers
  | none => .ok state
  | some doc => appendDocumentMembers owner state doc (signed.filter (·.documentId = doc.id))

def appendActDocuments (rows : Rows) (bookId : Uuid) :
    DocumentMembers → List Act → Except StoreError DocumentMembers
  | state, [] => .ok state
  | state, act :: rest => do
      let owner : DocumentMemberOwner :=
        ⟨"act", act.id.display, bookId.display, some act.id.display⟩
      let signed := rows.signedDocumentForAct act.id
      let state ← appendLatest owner state signed (rows.documentForAct act.id)
      let state ← appendLeftSigned rows owner state signed
      appendActDocuments rows bookId state rest

/-- The members of the documents of a book and of its acts. -/
def documentMembers (rows : Rows) (bookId : Uuid) (acts : List Act) :
    Except StoreError (List Member) := do
  let owner : DocumentMemberOwner := ⟨"book", bookId.display, bookId.display, none⟩
  let signed := rows.signedDocumentForAct bookId
  let state ← appendDocuments owner signed ⟨[], []⟩ (rows.documentsForAct bookId)
  let state ← appendLeftSigned rows owner state signed
  let state ← appendActDocuments rows bookId state acts
  return state.members

def actMembers : List Act → Except StoreError (List Member)
  | [] => .ok []
  | act :: rest => do
      let bytes ← serialized (prettyAct act)
      let later ← actMembers rest
      return ("acts/" ++ act.id.display ++ ".json", bytes) :: later

def eventLines : List Event → Except StoreError (List UInt8)
  | [] => .ok []
  | event :: rest => do
      let text ← serialized (eventText event)
      let later ← eventLines rest
      return Text.utf8 text ++ 0x0A :: later

def bookChainSeq (event : Event) (chain : ChainId) : Nat :=
  ((event.linkIn chain).map (·.seq)).getD 0

def chainEvents (ledger : Ledger) (chain : ChainId) : List Event :=
  (ledger.eventsInChain chain).insertionSort fun first second =>
    bookChainSeq first chain ≤ bookChainSeq second chain

def bundleMembers (rows : Rows) (bookId : Uuid) (book : FiledBook) (entity : String)
    (acts : List Act) (events : List Event) : Except StoreError (List Member) := do
  let bookBytes ← serialized (prettyBook book)
  let actMembers ← actMembers acts
  let eventsJsonl ← eventLines events
  let documents ← documentMembers rows bookId acts
  return ("entity.json", Text.utf8 entity) :: ("book.json", bookBytes) :: actMembers ++
    ("events.jsonl", eventsJsonl) :: documents

def unsignedManifest (rows : Rows) (bookId : Uuid) (book : FiledBook) (events : List Event)
    (members : List Member) (exportedAt : OffsetDateTime) : BundleManifest where
  format := bundleFormat
  bundleKind := .book
  exportedAt := exportedAt
  appVersion := "26.1.0"
  sourceInstanceId := rows.instanceId
  entityId := book.entityId.display
  bookId := bookId.display
  bookChain := {
    length := UInt64.ofNat events.length
    genesisHash := events.head?.map fun event => hex32 event.hash
    headHash := events.getLast?.map fun event => hex32 event.hash
    verified := (Ledger.verifyBundleChain events (.book bookId.display)).toBool }
  files := members.map fun member => ⟨member.1, sha256Hex member.2, UInt64.ofNat member.2.length⟩
  bundleDigest := ""
  signature := none

variable [ZipCrate]

/-- `write_bundle_zip`; a member whose name holds `..` is passed over. -/
def writeBundleZip (manifest : BundleManifest) (members : List Member) :
    Except StoreError (List UInt8) := do
  let manifestBytes ← toVecPretty (serialize manifest)
  match writeZip (("manifest.json", manifestBytes) ::
      members.filter fun member => !Text.contains member.1 "..") with
  | .ok bytes => .ok bytes
  | .error fault => .error (.zip fault)

theorem writeBundleZip_of_toVecPretty {manifest : BundleManifest} {manifestBytes : List UInt8}
    (serialized : toVecPretty (serialize manifest) = .ok manifestBytes) (members : List Member) :
    writeBundleZip manifest members = (writeZip (("manifest.json", manifestBytes) ::
      members.filter fun member => !Text.contains member.1 "..")).mapError .zip := by
  rw [writeBundleZip, serialized]
  simp only [bind, Except.bind]
  split
  · rename_i bytes written
    rw [written]
    rfl
  · rename_i fault refused
    rw [refused]
    rfl

structure BuiltBundle where
  manifest : BundleManifest
  bytes : List UInt8

def buildBookBundle (rows : Rows) (ledger : Ledger) (bookId : Uuid) (exportedAt : OffsetDateTime) :
    Except StoreError BuiltBundle := do
  let book ← (rows.bookById bookId).elim (.error (.notFound s!"book {bookId.display}")) .ok
  let entity ← (rows.entityJson book.entityId).elim
    (.error (.notFound s!"entity {book.entityId.display}")) .ok
  let acts := rows.actsForBook bookId
  let events := chainEvents ledger (.book bookId.display)
  let members ← bundleMembers rows bookId book entity acts events
  let unsigned := unsignedManifest rows bookId book events members exportedAt
  let digest ← computeBundleDigest unsigned
  let manifest := { unsigned with bundleDigest := digest }
  let bytes ← writeBundleZip manifest members
  return ⟨manifest, bytes⟩

end Writing

end Bundle

end Chancela
