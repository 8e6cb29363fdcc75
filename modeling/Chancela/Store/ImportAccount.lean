import Chancela.Crates.Reference
import Chancela.Store.Bundle

/-! # What a verified bundle accounts for

A verified bundle has passed the checks of its packaging, its chain and its acts, each over a
part of its members. Whether the parts make up a whole is not among them: a member may stand
outside the manifest, the chain summary may describe another chain, an act may belong to another
book, and the act of a seal event may be missing. The bundle is accounted for exactly when
nothing of the kind is the case (`Chancela.accountedFor_iff`).
-/

namespace Chancela

section Accounting

variable [Crates]

/-- The summary describes the events: their number, and the hashes of the first and the last. -/
def SummaryOf (summary : ChainSummary) (events : List Event) : Prop :=
  summary.length.toNat = events.length ∧
    summary.genesisHash = events.head?.map (fun event => hex32 event.hash) ∧
      summary.headHash = events.getLast?.map (fun event => hex32 event.hash)

omit [Crates] in
instance (summary : ChainSummary) (events : List Event) : Decidable (SummaryOf summary events) :=
  inferInstanceAs (Decidable (_ ∧ _ ∧ _))

/-- The act carries the seal of the event: it names its position and the digest it froze. -/
def SealedBy (event : Event) (act : Act) : Prop :=
  act.sealEventSeq = some event.seq ∧ act.payloadDigest = some event.payloadDigest

/-- What is expected of a verified import: every member is listed with its digest, the summary
is that of the events, every act is one of the book, and the sealed act of every seal event of
the book's chain is there, with the contents its seal froze. -/
structure AccountedFor (manifest : BundleManifest) (members : BundleMembers) (events : List Event)
    (acts : List Act) : Prop where
  listed : ∀ member ∈ members.values, member.name ≠ "manifest.json" →
    ∃ file ∈ manifest.files, file.name = member.name ∧ file.sha256 = sha256Hex member.bytes
  summary : SummaryOf manifest.bookChain events
  own : ∀ act ∈ acts, act.bookId.display = manifest.bookId
  whole : ∀ event ∈ events, event.joins (.book manifest.bookId) = true →
    event.kind = sealEventKind → ∃ act ∈ acts, SealedBy event act ∧
      verifyActFixity act (.fromEvents events) = .verified

/-- Nothing is left out of the manifest, nothing is foreign to it, and no seal event of the
book's chain is without an act that carries its seal. -/
structure SelfContained (manifest : BundleManifest) (members : BundleMembers) (events : List Event)
    (acts : List Act) : Prop where
  named : ∀ member ∈ members.values, member.name ≠ "manifest.json" →
    member.name ∈ manifest.files.map (·.name)
  summary : SummaryOf manifest.bookChain events
  own : ∀ act ∈ acts, act.bookId.display = manifest.bookId
  carried : ∀ event ∈ events, event.joins (.book manifest.bookId) = true →
    event.kind = sealEventKind → ∃ act ∈ acts, SealedBy event act

variable [ZipCrate] [BundleJson] {bundleBytes : List UInt8} {manifest : BundleManifest}
  {members : BundleMembers} {events : List Event} {acts : List Act}

theorem BundleChecks.digest_of_listed
    (checks : BundleChecks bundleBytes manifest members events acts) {member : BundleMember}
    (present : member ∈ members.values) (named : member.name ∈ manifest.files.map (·.name)) :
    ∃ file ∈ manifest.files, file.name = member.name ∧ file.sha256 = sha256Hex member.bytes := by
  obtain ⟨file, listed, same⟩ := List.mem_map.mp named
  have digests := checks.listed file listed
  rw [fileMatches, same, Table.mem_values.mp present, Option.any_some,
    decide_eq_true_eq] at digests
  exact ⟨file, listed, same, digests.symm⟩

theorem BundleChecks.verified_of_sealedBy
    (checks : BundleChecks bundleBytes manifest members events acts) {event : Event} {act : Act}
    (member : act ∈ acts) (carries : SealedBy event act) :
    verifyActFixity act (.fromEvents events) = .verified := by
  refine (checks.fixity act member).resolve_left fun unsealed => ?_
  rw [verifyActFixity_eq_unsealed_iff, carries.2] at unsealed
  cases unsealed.1

theorem BundleChecks.accounted_iff
    (checks : BundleChecks bundleBytes manifest members events acts) :
    AccountedFor manifest members events acts ↔ SelfContained manifest members events acts := by
  constructor
  · intro accounted
    refine ⟨fun member present other => ?_, accounted.summary, accounted.own,
      fun event member joins kind => ?_⟩
    · obtain ⟨file, listed, same, -⟩ := accounted.listed member present other
      exact List.mem_map.mpr ⟨file, listed, same⟩
    · obtain ⟨act, here, carries, -⟩ := accounted.whole event member joins kind
      exact ⟨act, here, carries⟩
  · intro contained
    refine ⟨fun member present other => ?_, contained.summary, contained.own,
      fun event member joins kind => ?_⟩
    · exact checks.digest_of_listed present (contained.named member present other)
    · obtain ⟨act, here, carries⟩ := contained.carried event member joins kind
      exact ⟨act, here, carries, checks.verified_of_sealedBy here carries⟩

end Accounting

/-! ## A draft slipped into a bundle -/

open scoped Reference

namespace SlippedDraft

def draft : Act := .newDraft ⟨1⟩ ⟨2⟩ "Ata" .physical

/-- The manifest of a bundle without acts and events, before it is given its digest. -/
def unsigned : BundleManifest where
  format := bundleFormat
  bundleKind := .book
  exportedAt := ⟨2026, 1, 1, 0, 0, 0, 0, 0⟩
  appVersion := "0.1.0"
  sourceInstanceId := ""
  entityId := ""
  bookId := (⟨3⟩ : Uuid).display
  bookChain := ⟨0, none, none, true⟩
  files := []
  bundleDigest := ""
  signature := none

def manifest : BundleManifest :=
  { unsigned with bundleDigest := (computeBundleDigest unsigned).toOption.getD "" }

/-- The archives: the manifest alone, and beside it a member that is not listed. -/
scoped instance zipCrate : ZipCrate where
  readZip bytes :=
    if bytes = [0] then .ok [⟨"manifest.json", some [0]⟩]
    else if bytes = [1] then .ok [⟨"manifest.json", some [0]⟩, ⟨"acts/draft.json", some [1]⟩]
    else .error "invalid Zip archive"
  writeZip _ := .error "not written here"

scoped instance bundleJson : BundleJson where
  readManifest bytes := if bytes = [0] then .ok manifest else .error "expected value"
  readAct bytes := if bytes = [1] then .ok draft else .error "expected value"
  readEvent _ := .error "expected value"
  utf8Error _ := "invalid utf-8 sequence"

def noBook : String → Except StoreError Bool := fun _ => .ok false

def manifestMember : BundleMember := ⟨"manifest.json", [0]⟩

def draftMember : BundleMember := ⟨"acts/draft.json", [1]⟩

theorem computeBundleDigest_manifest :
    computeBundleDigest manifest = .ok manifest.bundleDigest := by
  have same : manifest.unsigned = unsigned.unsigned := by
    simp only [manifest, BundleManifest.unsigned]
  obtain ⟨json, serialized⟩ : ∃ json, serialize unsigned.unsigned = some json :=
    Option.isSome_iff_exists.mp (by decide +kernel)
  have digest : computeBundleDigest unsigned = .ok (sha256Hex (jsonToVec json)) := by
    rw [computeBundleDigest, serialized]
  rw [computeBundleDigest, same, serialized, manifest, digest]
  simp only [Except.toOption, Option.getD_some]

theorem checks_manifest : BundleChecks [0] manifest (.fromIter [manifestMember]) [] [] where
  read := rfl
  digest := computeBundleDigest_manifest
  listed _ member := nomatch member
  parsed := rfl
  chain := ⟨0, rfl⟩
  readable := rfl
  fixity _ member := nomatch member

theorem checks_draft :
    BundleChecks [1] manifest (.fromIter [manifestMember, draftMember]) [] [draft] where
  read := rfl
  digest := computeBundleDigest_manifest
  listed _ member := nomatch member
  parsed := rfl
  chain := ⟨0, rfl⟩
  readable := rfl
  fixity act member := by
    rw [List.mem_singleton.mp member]
    exact .inl (verifyActFixity_eq_unsealed_iff.mpr ⟨rfl, rfl⟩)

end SlippedDraft

open scoped SlippedDraft

end Chancela
