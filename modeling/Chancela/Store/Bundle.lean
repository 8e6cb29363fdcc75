import Chancela.Core.Fixity
import Chancela.Crates.ReadJson
import Chancela.Foundation.Table
import Chancela.Ledger.Report
import Chancela.Store.Archive
import Mathlib.Data.UInt

/-! # Import analysis of book bundles

A book travels as an archive: its acts, the events of its chain and its documents, with a
manifest that lists the members and their digests. `analyze_import_bundle` holds the manifest to
its own digest, the listed members to theirs, the events to their chain and the acts to the
digests their seals froze. Its verdict is verified exactly when nothing breaks
(`Chancela.analyzeImportBundle_verified_iff`).
-/

namespace Chancela

open Outcome

structure ChainSummary where
  length : UInt64
  genesisHash : Option String
  headHash : Option String
  verified : Bool
deriving DecidableEq

instance : Serialize ChainSummary where
  serialize summary := Json.struct [
    Json.field "length" summary.length,
    Json.field "genesis_hash" summary.genesisHash,
    Json.field "head_hash" summary.headHash,
    Json.field "verified" summary.verified]

instance : FaithfulJson ChainSummary :=
  .of_struct (fun _ => rfl) (fun _ _ => rfl) (fun _ => by simp) fun first second agreed => by
    cases first
    cases second
    simp_all

structure BundleSignature where
  algo : String
  publicKey : String
  signature : String
deriving DecidableEq

instance : Serialize BundleSignature where
  serialize signature := Json.struct [
    Json.field "algo" signature.algo,
    Json.field "public_key" signature.publicKey,
    Json.field "signature" signature.signature]

instance : FaithfulJson BundleSignature :=
  .of_struct (fun _ => rfl) (fun _ _ => rfl) (fun _ => by simp) fun first second agreed => by
    cases first
    cases second
    simp_all

instance : NonNullJson BundleSignature := ⟨fun _ => Json.struct_ne_null _⟩

inductive BundleKind where
  | book
deriving DecidableEq

instance : Serialize BundleKind := ⟨fun _ => some (.str "Book")⟩

instance : FaithfulJson BundleKind := ⟨fun _ _ => rfl⟩

def bundleFormat : String := "chancela-book-bundle/v1"

/-- `BundleManifest`: the integrity root of a bundle. -/
structure BundleManifest where
  format : String
  bundleKind : BundleKind
  exportedAt : OffsetDateTime
  appVersion : String
  sourceInstanceId : String
  entityId : String
  bookId : String
  bookChain : ChainSummary
  files : List BackupFile
  bundleDigest : String
  signature : Option BundleSignature
deriving DecidableEq

/-- A member of a bundle, under its name. -/
structure BundleMember where
  name : String
  bytes : List UInt8
deriving DecidableEq

/-- The members of a bundle; a later one of a name replaces an earlier one. -/
abbrev BundleMembers := Table BundleMember.name

section Manifest

variable [Crates]

instance : Serialize BundleManifest where
  serialize manifest := Json.struct [
    Json.field "format" manifest.format,
    Json.field "bundle_kind" manifest.bundleKind,
    Json.field "exported_at" manifest.exportedAt,
    Json.field "app_version" manifest.appVersion,
    Json.field "source_instance_id" manifest.sourceInstanceId,
    Json.field "entity_id" manifest.entityId,
    Json.field "book_id" manifest.bookId,
    Json.field "book_chain" manifest.bookChain,
    Json.field "files" manifest.files,
    Json.field "bundle_digest" manifest.bundleDigest,
    Json.field "signature" manifest.signature]

instance : FaithfulJson BundleManifest :=
  .of_struct (fun _ => rfl) (fun _ _ => rfl) (fun _ => by simp) fun first second agreed => by
    cases first
    cases second
    simp_all

/-- `hex(&Sha256::digest(_))`. -/
def sha256Hex (bytes : List UInt8) : String := hex32 (sha256 bytes)

def BundleManifest.unsigned (manifest : BundleManifest) : BundleManifest :=
  { manifest with bundleDigest := "", signature := none }

def computeBundleDigest (manifest : BundleManifest) : Except StoreError String :=
  match serialize manifest.unsigned with
  | some json => .ok (sha256Hex (jsonToVec json))
  | none => .error .serialization

end Manifest

/-- What is called in `serde_json`, at the types of a bundle. -/
class BundleJson where
  /-- `from_slice::<BundleManifest>`, or the text of its error. -/
  readManifest : List UInt8 → Except String BundleManifest
  /-- `from_slice::<Act>`, or the text of its error. -/
  readAct : List UInt8 → Except String Act
  /-- `from_str::<Event>`, or the text of its error. -/
  readEvent : String → Except String Event
  /-- The text of the error of `std::str::from_utf8`. -/
  utf8Error : List UInt8 → String

export BundleJson (readManifest readAct readEvent)

/-! ## Reading a bundle -/

def lines (text : String) : List String :=
  let pieces := Text.split text '\n'
  (if pieces.getLast? = some "" then pieces.dropLast else pieces).map fun line =>
    if line.toList.getLast? = some '\r' then String.ofList line.toList.dropLast else line

section Reading

variable [Crates] [ZipCrate] [BundleJson]

omit [ZipCrate] [BundleJson] in
/-- The loop of `read_bundle`. -/
def readMembers : List ZipEntry → Nat → BundleMembers → Except StoreError BundleMembers
  | [], _, members => .ok members
  | entry :: rest, consumed, members =>
      if Text.contains entry.name ".." then
        .error (.invalidBundle ("path-traversal in member name " ++ debugStr entry.name))
      else do
        let (bytes, consumed) ← readZipMemberBounded entry.name entry.content consumed
          .invalidBundle
        readMembers rest consumed (members.insert ⟨entry.name, bytes⟩)

/-- The end of `read_bundle`: the manifest among the members. -/
def manifestOf (members : BundleMembers) : Except StoreError BundleManifest :=
  match members.get "manifest.json" with
  | none => .error (.invalidBundle "missing manifest.json")
  | some member =>
      match readManifest member.bytes with
      | .error fault => .error (.invalidBundle ("unreadable manifest: " ++ fault))
      | .ok manifest =>
          if manifest.format ≠ bundleFormat then
            .error (.invalidBundle ("unexpected bundle format " ++ debugStr manifest.format ++
              " (want " ++ debugStr bundleFormat ++ ")"))
          else .ok manifest

def readBundle (bytes : List UInt8) : Except StoreError (BundleManifest × BundleMembers) :=
  match readZip bytes with
  | .error fault => .error (.invalidBundle ("not a readable zip: " ++ fault))
  | .ok entries =>
      if recoveryZipMaxMembers < entries.length then
        .error (.invalidBundle (s!"bundle has {entries.length} members, exceeding the " ++
          s!"{recoveryZipMaxMembers}-member limit"))
      else do
        let members ← readMembers entries 0 .empty
        let manifest ← manifestOf members
        return (manifest, members)

/-- The loop of `parse_events_jsonl`. -/
def parseLines : List String → Except StoreError (List Event)
  | [] => .ok []
  | line :: rest =>
      if Text.trim line = "" then parseLines rest
      else
        match readEvent (Text.trim line) with
        | .error fault => .error (.invalidBundle ("bad event line: " ++ fault))
        | .ok event => (parseLines rest).map (event :: ·)

def parseEventsJsonl (bytes : List UInt8) : Except StoreError (List Event) :=
  match Reference.readUtf8 bytes with
  | none => .error (.invalidBundle ("events.jsonl is not utf-8: " ++ BundleJson.utf8Error bytes))
  | some text => parseLines (lines text)

/-! ## The analysis -/

inductive CollisionPolicy where
  | refuse
  | quarantineCopy
deriving DecidableEq

inductive ImportVerdict where
  | verified
  | quarantined (break_ : ChainBreak)
deriving DecidableEq

structure ImportPreflight where
  policy : CollisionPolicy
  entityId : String
  bookId : String
  verdict : ImportVerdict
  sourceInstanceId : String
  bundleDigest : String
  collided : Bool
  manifestFileCount : Nat
  manifestTotalBytes : UInt64
  zipMemberCount : Nat
  eventCount : Option Nat
  bookChain : ChainSummary
  signaturePresent : Bool
deriving DecidableEq

def tamperBreak (bookId message : String) : ChainBreak where
  chain := .book bookId
  kind := .hashMismatch
  globalSeq := none
  chainSeq := none
  eventId := none
  expectedHash := none
  actualHash := none
  message := message

def fileMatches (members : BundleMembers) (file : BackupFile) : Bool :=
  (members.get file.name).any fun member => sha256Hex member.bytes = file.sha256

/-- The digest of the manifest, and of every member it lists. -/
def packagingBreak (manifest : BundleManifest) (members : BundleMembers) (digest : String) :
    Option ChainBreak :=
  if digest ≠ manifest.bundleDigest then
    some (tamperBreak manifest.bookId "bundle_digest does not match the manifest")
  else (manifest.files.find? fun file => !fileMatches members file).map fun file =>
    tamperBreak manifest.bookId
      s!"bundle member {file.name} is missing or its digest does not match"

/-- What the analysis knows of the events: their number once they are parsed, and the events
themselves. -/
structure BundledEvents where
  count : Option Nat
  events : List Event
  broken : Option ChainBreak

/-- The events among the members; there are none without the member that holds them. -/
def bundleEvents (members : BundleMembers) : Except StoreError (List Event) :=
  parseEventsJsonl (((members.get "events.jsonl").map (·.bytes)).getD [])

/-- The chain over the events, unless the packaging is broken. -/
def chainCheck (bookId : String) (members : BundleMembers) :
    Option ChainBreak → Except StoreError BundledEvents
  | some broken => .ok ⟨none, [], some broken⟩
  | none => do
      let events ← bundleEvents members
      return ⟨some events.length, events, fault? (Ledger.verifyBundleChain events (.book bookId))⟩

def isActMember (member : BundleMember) : Bool :=
  "acts/".toList.isPrefixOf member.name.toList && ".json".toList.isSuffixOf member.name.toList

/-- The acts among the members, or the first member that is not a readable act. -/
def readActs (bookId : String) : List BundleMember → Except ChainBreak (List Act)
  | [] => .ok []
  | member :: rest =>
      if isActMember member then
        match readAct member.bytes with
        | .error fault => .error (tamperBreak bookId
            (s!"bundle member {member.name} is not a readable act: " ++ fault))
        | .ok act => (readActs bookId rest).map (act :: ·)
      else readActs bookId rest

/-- `Debug` of an optional value. -/
def debugOption {α : Type} (debug : α → String) : Option α → String
  | none => "None"
  | some value => "Some(" ++ debug value ++ ")"

/-- `Debug` of `ActFixity`. -/
def ActFixity.debug : ActFixity → String
  | .unsealed => "Unsealed"
  | .verified => "Verified"
  | .mismatch expected actual => "Mismatch \x7b expected: " ++ debugStr expected ++ ", actual: " ++
      debugStr actual ++ " \x7d"
  | .ledgerAnchorMismatch ledger row recomputed => "LedgerAnchorMismatch \x7b ledger: " ++
      debugStr ledger ++ ", row: " ++ debugStr row ++ ", recomputed: " ++
      debugOption debugStr recomputed ++ " \x7d"
  | .sealEventMissing sealEventSeq => "SealEventMissing \x7b seal_event_seq: " ++
      debugOption toString sealEventSeq ++ " \x7d"
  | .missingPayloadDigest => "MissingPayloadDigest"
  | .ataNumberMismatch sealed stored => "AtaNumberMismatch \x7b sealed: " ++ toString sealed ++
      ", stored: " ++ debugOption toString stored ++ " \x7d"
  | .unverifiable reason => "Unverifiable \x7b reason: " ++ debugStr reason ++ " \x7d"

/-- What a report that is not fully verified is quarantined for. -/
def fixityMessage (report : ActFixityReport) : String :=
  let broken := report.findings.find? (·.fixity.isBroken)
  let headline := if broken.isSome then "a sealed act no longer matches the digest its seal froze"
    else "a sealed act could not be verified against the digest its seal froze"
  let first := ((broken.or report.findings.head?).map fun finding =>
    s!"act {finding.actId} (" ++ finding.fixity.debug ++ ")").getD "an act"
  s!"{headline}: {first}"

/-- The acts, each against the digest its seal froze in the events of the bundle. -/
def fixityBreak (bookId : String) (members : BundleMembers) (events : List Event) :
    Option ChainBreak :=
  match readActs bookId members.values with
  | .error broken => some broken
  | .ok acts =>
      let report := ActFixityReport.build acts [] (.fromEvents events)
      if report.fullyVerified then none else some (tamperBreak bookId (fixityMessage report))

/-- `analyze_import_bundle`, with the look-up of a book among the live and imported ones. -/
def analyzeImportBundle (bookExistsAnywhere : String → Except StoreError Bool)
    (bundleBytes : List UInt8) (policy : CollisionPolicy) : Except StoreError ImportPreflight := do
  let (manifest, members) ← readBundle bundleBytes
  let digest ← computeBundleDigest manifest
  let bundled ← chainCheck manifest.bookId members (packagingBreak manifest members digest)
  let verdictBreak := bundled.broken.or (fixityBreak manifest.bookId members bundled.events)
  let collided ← bookExistsAnywhere manifest.bookId
  return {
    policy := policy
    entityId := manifest.entityId
    bookId := manifest.bookId
    verdict := match verdictBreak with
      | none => .verified
      | some broken => .quarantined broken
    sourceInstanceId := manifest.sourceInstanceId
    bundleDigest := manifest.bundleDigest
    collided := collided
    manifestFileCount := manifest.files.length
    manifestTotalBytes := (manifest.files.map (·.bytes)).sum
    zipMemberCount := members.values.length
    eventCount := bundled.count
    bookChain := manifest.bookChain
    signaturePresent := manifest.signature.isSome }

/-! ## What a verified bundle has passed -/

/-- Every check of the analysis, passed. -/
structure BundleChecks (bundleBytes : List UInt8) (manifest : BundleManifest)
    (members : BundleMembers) (events : List Event) (acts : List Act) : Prop where
  read : readBundle bundleBytes = .ok (manifest, members)
  digest : computeBundleDigest manifest = .ok manifest.bundleDigest
  listed : ∀ file ∈ manifest.files, fileMatches members file = true
  parsed : bundleEvents members = .ok events
  chain : ∃ total, Ledger.verifyBundleChain events (.book manifest.bookId) = .ok total
  readable : readActs manifest.bookId members.values = .ok acts
  fixity : ∀ act ∈ acts, verifyActFixity act (.fromEvents events) = .unsealed ∨
    verifyActFixity act (.fromEvents events) = .verified

omit [ZipCrate] [BundleJson] in
theorem packagingBreak_eq_none_iff {manifest : BundleManifest} {members : BundleMembers}
    {digest : String} :
    packagingBreak manifest members digest = none ↔
      digest = manifest.bundleDigest ∧
        ∀ file ∈ manifest.files, fileMatches members file = true := by
  rw [packagingBreak]
  split
  · rename_i differs
    simp only [reduceCtorEq, differs, false_and]
  · rename_i same
    simp [not_not.mp same]

omit [ZipCrate] in
theorem fixityBreak_eq_none_iff {bookId : String} {members : BundleMembers} {events : List Event} :
    fixityBreak bookId members events = none ↔
      ∃ acts, readActs bookId members.values = .ok acts ∧
        ∀ act ∈ acts, verifyActFixity act (.fromEvents events) = .unsealed ∨
          verifyActFixity act (.fromEvents events) = .verified := by
  have settled : ∀ fixity : ActFixity,
      fixity.isBroken = false ∧ fixity.isUnverifiable = false ↔
        fixity = .unsealed ∨ fixity = .verified := by
    intro fixity
    cases fixity <;> simp [ActFixity.isBroken, ActFixity.isUnverifiable]
  rw [fixityBreak]
  cases readActs bookId members.values with
  | error broken => simp only [reduceCtorEq, false_and, exists_false]
  | ok acts =>
      have full : (ActFixityReport.build acts [] (.fromEvents events)).fullyVerified = true ↔
          ∀ act ∈ acts, verifyActFixity act (.fromEvents events) = .unsealed ∨
            verifyActFixity act (.fromEvents events) = .verified := by
        rw [ActFixityReport.fullyVerified_build_iff, ActFixityReport.healthy_build_iff]
        simp only [List.not_mem_nil, false_imp_iff, implies_true, and_true, ← settled]
        exact ⟨fun checked act member => ⟨checked.1 act member, checked.2 act member⟩,
          fun checked => ⟨fun act member => (checked act member).1,
            fun act member => (checked act member).2⟩⟩
      simp only [Except.ok.injEq, exists_eq_left', ← full]
      split
      · simp only [*]
      · simp only [reduceCtorEq, *]

variable {bookExistsAnywhere : String → Except StoreError Bool} {bundleBytes : List UInt8}
  {policy : CollisionPolicy}

theorem BundleChecks.analyze {manifest : BundleManifest} {members : BundleMembers}
    {events : List Event} {acts : List Act}
    (checks : BundleChecks bundleBytes manifest members events acts) {collided : Bool}
    (looked : bookExistsAnywhere manifest.bookId = .ok collided) :
    analyzeImportBundle bookExistsAnywhere bundleBytes policy = .ok {
      policy := policy
      entityId := manifest.entityId
      bookId := manifest.bookId
      verdict := .verified
      sourceInstanceId := manifest.sourceInstanceId
      bundleDigest := manifest.bundleDigest
      collided := collided
      manifestFileCount := manifest.files.length
      manifestTotalBytes := (manifest.files.map (·.bytes)).sum
      zipMemberCount := members.values.length
      eventCount := some events.length
      bookChain := manifest.bookChain
      signaturePresent := manifest.signature.isSome } := by
  have packaged : packagingBreak manifest members manifest.bundleDigest = none :=
    packagingBreak_eq_none_iff.mpr ⟨rfl, checks.listed⟩
  have kept : fixityBreak manifest.bookId members events = none :=
    fixityBreak_eq_none_iff.mpr ⟨acts, checks.readable, checks.fixity⟩
  obtain ⟨total, chained⟩ := checks.chain
  simp only [analyzeImportBundle, checks.read, checks.digest, packaged, chainCheck, checks.parsed,
    chained, kept, looked, bind, Except.bind, pure, Except.pure, fault?, Option.or_none]

/-- **What verified means**: a bundle is reported as verified exactly when it passes every
check. -/
theorem analyzeImportBundle_verified_iff {preflight : ImportPreflight}
    (analyzed : analyzeImportBundle bookExistsAnywhere bundleBytes policy = .ok preflight) :
    preflight.verdict = .verified ↔
      ∃ manifest members events acts, BundleChecks bundleBytes manifest members events acts := by
  constructor
  · intro verified
    simp only [analyzeImportBundle, bind_eq_ok_iff, Prod.exists] at analyzed
    obtain ⟨manifest, members, read, digest, digested, bundled, checked, collided, -, result⟩ :=
      analyzed
    obtain rfl := Except.ok.inj result
    have whole : bundled.broken.or (fixityBreak manifest.bookId members bundled.events) = none := by
      dsimp only at verified
      split at verified
      · assumption
      · cases verified
    obtain ⟨unbroken, kept⟩ := Option.or_eq_none_iff.mp whole
    obtain ⟨acts, readable, fixity⟩ := fixityBreak_eq_none_iff.mp kept
    cases packaged : packagingBreak manifest members digest with
    | some broken =>
        rw [packaged, chainCheck] at checked
        rw [← Except.ok.inj checked] at unbroken
        cases unbroken
    | none =>
        rw [packaged] at checked
        simp only [chainCheck, bind_eq_ok_iff] at checked
        obtain ⟨events, parsed, result⟩ := checked
        obtain rfl := Except.ok.inj result
        obtain ⟨rfl, listed⟩ := packagingBreak_eq_none_iff.mp packaged
        have chained := fault?_eq_none_iff.mp unbroken
        exact ⟨manifest, members, events, acts, read, digested, listed, parsed, chained, readable,
          fixity⟩
  · rintro ⟨manifest, members, events, acts, checks⟩
    have looked : ∃ collided, bookExistsAnywhere manifest.bookId = .ok collided := by
      simp only [analyzeImportBundle, bind_eq_ok_iff, Prod.exists] at analyzed
      obtain ⟨other, held, read, -, -, -, -, collided, looked, -⟩ := analyzed
      rw [checks.read] at read
      obtain ⟨rfl, rfl⟩ := Prod.mk.inj (Except.ok.inj read)
      exact ⟨collided, looked⟩
    obtain ⟨collided, looked⟩ := looked
    rw [checks.analyze looked] at analyzed
    rw [← Except.ok.inj analyzed]

end Reading

end Chancela
