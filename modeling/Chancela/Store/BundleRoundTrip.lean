import Chancela.Core.Binding
import Chancela.Ledger.Agreement
import Chancela.Store.BundleExport
import Mathlib.Algebra.Group.Action.Defs
import Mathlib.Algebra.GroupWithZero.Nat
import Mathlib.Algebra.Order.BigOperators.Group.List
import Mathlib.Data.List.Chain

/-! # Book bundles round-trip

What an export writes is read back by the import analysis: the bundle of a book whose chain and
acts verify is reported as verified, with the fields of its manifest, and gives back the entity,
the book, the acts and the events. A member or a manifest that differs from the exported one is
never reported as verified unless the digests collide
(`Chancela.Bundle.buildBookBundle_roundTrips`).
-/

namespace Chancela

open Outcome HashChain

namespace Bundle

/-! ## Member names -/

/-- The name of a member of a document or of its signed variant. -/
def IsDocumentName (id name : String) : Prop :=
  ∃ folder ∈ ["documents/", "signed/"], ∃ extension ∈ [".pdf", ".json"],
    name = folder ++ id ++ extension

def actName (act : Act) : String := "acts/" ++ act.id.display ++ ".json"

/-! ## The members an export writes -/

section Members

variable [Crates] [Writer] {rows : Rows}

def OfDocument (rows : Rows) (member : Member) : Prop :=
  ∃ id, (id ∈ rows.documents.map (·.id) ∨ id ∈ rows.signedDocuments.map (·.documentId)) ∧
    IsDocumentName id member.1

variable {state after : DocumentMembers}

theorem appendSignedMembers_ofDocument {signed : StoredSignedDocument} {present : Bool}
    (held : ∀ member ∈ state.members, OfDocument rows member)
    (known : signed ∈ rows.signedDocuments)
    (appended : appendSignedMembers state signed present = .ok after) :
    ∀ member ∈ after.members, OfDocument rows member := by
  simp only [appendSignedMembers, bind_eq_ok_iff] at appended
  obtain ⟨metadata, -, result⟩ := appended
  obtain rfl := Except.ok.inj result
  have id : signed.documentId ∈ rows.signedDocuments.map (·.documentId) :=
    List.mem_map_of_mem known
  intro member inside
  rcases List.mem_append.mp inside with before | added
  · exact held member before
  · simp only [List.mem_cons, List.not_mem_nil, or_false] at added
    rcases added with rfl | rfl
    · exact ⟨_, .inr id, "signed/", by decide, ".pdf", by decide, rfl⟩
    · exact ⟨_, .inr id, "signed/", by decide, ".json", by decide, rfl⟩

variable {signed : Option StoredSignedDocument}

theorem appendDocumentMembers_ofDocument {owner : DocumentMemberOwner} {doc : StoredDocument}
    (held : ∀ member ∈ state.members, OfDocument rows member) (known : doc ∈ rows.documents)
    (signedKnown : ∀ variant ∈ signed, variant ∈ rows.signedDocuments)
    (appended : appendDocumentMembers owner state doc signed = .ok after) :
    ∀ member ∈ after.members, OfDocument rows member := by
  rw [appendDocumentMembers] at appended
  split at appended
  · exact Except.ok.inj appended ▸ held
  · simp only [bind_eq_ok_iff] at appended
    obtain ⟨metadata, -, rest⟩ := appended
    have id : doc.id ∈ rows.documents.map (·.id) := List.mem_map_of_mem known
    have own : ∀ member ∈ state.members ++ [("documents/" ++ doc.id ++ ".pdf", doc.pdfBytes),
        ("documents/" ++ doc.id ++ ".json", metadata)], OfDocument rows member := by
      intro member inside
      rcases List.mem_append.mp inside with before | added
      · exact held member before
      · simp only [List.mem_cons, List.not_mem_nil, or_false] at added
        rcases added with rfl | rfl
        · exact ⟨_, .inl id, "documents/", by decide, ".pdf", by decide, rfl⟩
        · exact ⟨_, .inl id, "documents/", by decide, ".json", by decide, rfl⟩
    cases signed with
    | none => exact Except.ok.inj rest ▸ own
    | some variant => exact appendSignedMembers_ofDocument own (signedKnown variant rfl) rest

theorem appendLeftSigned_ofDocument {owner : DocumentMemberOwner}
    (held : ∀ member ∈ state.members, OfDocument rows member)
    (signedKnown : ∀ variant ∈ signed, variant ∈ rows.signedDocuments)
    (appended : appendLeftSigned rows owner state signed = .ok after) :
    ∀ member ∈ after.members, OfDocument rows member := by
  cases signed with
  | none => exact Except.ok.inj appended ▸ held
  | some variant =>
      rw [appendLeftSigned] at appended
      split at appended
      · exact Except.ok.inj appended ▸ held
      · split at appended
        · rename_i doc found
          exact appendDocumentMembers_ofDocument held (List.mem_of_find?_eq_some found) signedKnown
            appended
        · exact appendSignedMembers_ofDocument held (signedKnown variant rfl) appended

theorem appendDocuments_ofDocument {owner : DocumentMemberOwner} {docs : List StoredDocument}
    (held : ∀ member ∈ state.members, OfDocument rows member)
    (known : ∀ doc ∈ docs, doc ∈ rows.documents)
    (signedKnown : ∀ variant ∈ signed, variant ∈ rows.signedDocuments)
    (appended : appendDocuments owner signed state docs = .ok after) :
    ∀ member ∈ after.members, OfDocument rows member := by
  induction docs generalizing state with
  | nil => exact Except.ok.inj appended ▸ held
  | cons doc rest ih =>
      simp only [appendDocuments, bind_eq_ok_iff] at appended
      obtain ⟨next, first, later⟩ := appended
      have own := appendDocumentMembers_ofDocument held (known doc List.mem_cons_self)
        (fun variant kept => signedKnown variant (Option.filter_eq_some_iff.mp kept).1) first
      exact ih own (fun other member => known other (List.mem_cons_of_mem _ member)) later

omit [Writer] in
theorem mem_documentsForAct {actId : Uuid} {doc : StoredDocument}
    (member : doc ∈ rows.documentsForAct actId) : doc ∈ rows.documents :=
  List.mem_of_mem_filter ((List.mem_insertionSort _).mp member)

variable {acts : List Act}

theorem appendActDocuments_ofDocument {bookId : Uuid}
    (held : ∀ member ∈ state.members, OfDocument rows member)
    (appended : appendActDocuments rows bookId state acts = .ok after) :
    ∀ member ∈ after.members, OfDocument rows member := by
  induction acts generalizing state with
  | nil => exact Except.ok.inj appended ▸ held
  | cons act rest ih =>
      simp only [appendActDocuments, bind_eq_ok_iff] at appended
      obtain ⟨latest, first, left, second, later⟩ := appended
      have signedKnown : ∀ variant ∈ rows.signedDocumentForAct act.id,
          variant ∈ rows.signedDocuments := fun _ found => List.mem_of_find?_eq_some found
      have own : ∀ member ∈ latest.members, OfDocument rows member := by
        cases found : rows.documentForAct act.id with
        | none =>
            rw [found] at first
            exact Except.ok.inj first ▸ held
        | some doc =>
            rw [found] at first
            exact appendDocumentMembers_ofDocument held
              (mem_documentsForAct (List.mem_of_getLast? found))
              (fun variant kept => signedKnown variant (Option.filter_eq_some_iff.mp kept).1) first
      exact ih (appendLeftSigned_ofDocument own signedKnown second) later

variable {members : List Member}

theorem documentMembers_ofDocument {bookId : Uuid}
    (gathered : documentMembers rows bookId acts = .ok members) :
    ∀ member ∈ members, OfDocument rows member := by
  simp only [documentMembers, bind_eq_ok_iff] at gathered
  obtain ⟨books, first, left, second, all, third, result⟩ := gathered
  obtain rfl := Except.ok.inj result
  have signedKnown : ∀ variant ∈ rows.signedDocumentForAct bookId,
      variant ∈ rows.signedDocuments := fun _ found => List.mem_of_find?_eq_some found
  have own := appendDocuments_ofDocument (fun _ member => absurd member List.not_mem_nil)
    (fun _ => mem_documentsForAct) signedKnown first
  exact appendActDocuments_ofDocument (appendLeftSigned_ofDocument own signedKnown second) third

def WrittenFor (act : Act) (member : Member) : Prop :=
  member.1 = actName act ∧ prettyAct act = some member.2

omit [Crates] in
theorem actMembers_writtenFor (written : actMembers acts = .ok members) :
    List.Forall₂ WrittenFor acts members := by
  induction acts generalizing members with
  | nil =>
      obtain rfl := Except.ok.inj written
      exact .nil
  | cons act rest ih =>
      simp only [actMembers, bind_eq_ok_iff] at written
      obtain ⟨bytes, first, later, second, result⟩ := written
      obtain rfl := Except.ok.inj result
      refine .cons ⟨rfl, ?_⟩ (ih second)
      cases pretty : prettyAct act with
      | none =>
          rw [pretty] at first
          cases first
      | some held =>
          rw [pretty] at first
          rw [Except.ok.inj first]

/-! ## Lines -/

/-- A line of its own: no line break and no white space around it. -/
def IsLine (text : String) : Prop := '\n' ∉ text.toList ∧ Text.trim text = text ∧ text ≠ ""

omit [Crates] [Writer] in
theorem lines_cons {text : String} (rest : String) (line : IsLine text) :
    lines (text ++ "\n" ++ rest) = text :: lines rest := by
  have cut : Text.split (text ++ "\n" ++ rest) '\n' = text :: Text.split rest '\n' := by
    have chars : (text ++ "\n" ++ rest).toList = text.toList ++ '\n' :: rest.toList := by
      rw [String.toList_append, String.toList_append, List.append_assoc]
      rfl
    rw [Text.split, chars, List.splitOn_append_cons_self, List.splitOn_eq_singleton line.1]
    simp [Text.split]
  have more : Text.split rest '\n' ≠ [] := by
    simp [Text.split, List.splitOn_ne_nil]
  have unended : text.toList.getLast? ≠ some '\r' := by
    intro ended
    have trimmed := congrArg String.toList line.2.1
    rw [Text.trim_eq, String.toList_ofList] at trimmed
    obtain ⟨front, split⟩ := List.getLast?_eq_some_iff.mp ended
    have again := List.rdropWhile_idempotent Text.isWhitespace
      (text.toList.dropWhile Text.isWhitespace)
    rw [trimmed, split, List.rdropWhile_concat_pos _ _ _ (by decide)] at again
    have shorter := (List.rdropWhile_prefix Text.isWhitespace front).length_le
    rw [again, List.length_append, List.length_singleton] at shorter
    omega
  rw [lines, lines, cut, List.getLast?_cons_of_ne_nil more]
  split
  · rw [List.dropLast_cons_of_ne_nil more, List.map_cons, if_neg unended]
  · rw [List.map_cons, if_neg unended]

omit [Writer] [Crates] in
theorem utf8_line (text rest : String) :
    Text.utf8 (text ++ "\n" ++ rest) = Text.utf8 text ++ 0x0A :: Text.utf8 rest := by
  simp only [Text.utf8_eq_flatMap, String.toList_append, List.flatMap_append, List.append_assoc]
  rfl

variable [BundleJson] {events : List Event}

omit [Crates] in
theorem parseEventsJsonl_eventLines {bytes : List UInt8}
    (readBack : ∀ event ∈ events, ∀ text, eventText event = some text →
      IsLine text ∧ readEvent text = .ok event) (written : eventLines events = .ok bytes) :
    parseEventsJsonl bytes = .ok events := by
  suffices read : ∃ text, bytes = Text.utf8 text ∧ parseLines (lines text) = .ok events by
    obtain ⟨text, rfl, parsed⟩ := read
    rw [parseEventsJsonl, Reference.readUtf8_utf8]
    exact parsed
  induction events generalizing bytes with
  | nil =>
      obtain rfl := Except.ok.inj written
      have empty : lines "" = [] := by decide
      exact ⟨"", by decide, by rw [empty]; rfl⟩
  | cons event rest ih =>
      simp only [eventLines, bind_eq_ok_iff] at written
      obtain ⟨text, first, later, second, result⟩ := written
      obtain rfl := Except.ok.inj result
      obtain ⟨others, rfl, parsed⟩ :=
        ih (fun other member => readBack other (List.mem_cons_of_mem _ member)) second
      have shown : eventText event = some text := by
        cases found : eventText event with
        | none =>
            rw [found] at first
            cases first
        | some held =>
            rw [found] at first
            rw [Except.ok.inj first]
      obtain ⟨line, back⟩ := readBack event List.mem_cons_self text shown
      refine ⟨text ++ "\n" ++ others, (utf8_line text others).symm, ?_⟩
      rw [lines_cons others line, parseLines, line.2.1, if_neg line.2.2, back]
      dsimp only
      rw [parsed]
      rfl

/-! ## Reading the members -/

def readAs (member : Member) : BundleMember := ⟨member.1, member.2⟩

def asEntry (member : Member) : ZipEntry := ⟨member.1, some member.2⟩

omit [Writer] [BundleJson] in
theorem readMembers_asEntry {list : List Member} {consumed : Nat} {members : BundleMembers}
    (undotted : ∀ member ∈ list, Text.contains member.1 ".." = false)
    (small : ∀ member ∈ list, member.2.length ≤ recoveryZipMemberUncompressedMaxBytes)
    (total : consumed + (list.map (·.2.length)).sum ≤ recoveryZipTotalUncompressedMaxBytes) :
    readMembers (list.map asEntry) consumed members =
      .ok ((list.map readAs).foldl Table.insert members) := by
  induction list generalizing consumed members with
  | nil => rfl
  | cons member rest ih =>
      rw [List.map_cons, List.sum_cons] at total
      have first : readZipMemberBounded member.1 (some member.2) consumed .invalidBundle =
          .ok (member.2, consumed + member.2.length) :=
        readZipMemberBounded_eq_ok_iff.mpr
          ⟨rfl, small member List.mem_cons_self, rfl, by omega⟩
      rw [List.map_cons, asEntry, readMembers]
      simp only [undotted member List.mem_cons_self, Bool.false_eq_true, ↓reduceIte, first, bind,
        Except.bind]
      exact ih (fun other inside => undotted other (List.mem_cons_of_mem _ inside))
        (fun other inside => small other (List.mem_cons_of_mem _ inside)) (by omega)

omit [Crates] [Writer] in
theorem readActs_eq_ok {bookId : String} {members : List BundleMember}
    (readable : List.Forall₂ (fun (member : BundleMember) act => readAct member.bytes = .ok act)
      (members.filter isActMember) acts) : readActs bookId members = .ok acts := by
  induction members generalizing acts with
  | nil =>
      cases readable
      rfl
  | cons member rest ih =>
      rw [readActs]
      by_cases named : isActMember member = true
      · rw [List.filter_cons_of_pos named] at readable
        cases readable with
        | cons first later =>
            rw [if_pos named, first]
            dsimp only
            rw [ih later]
            rfl
      · rw [List.filter_cons_of_neg named] at readable
        rw [if_neg named]
        exact ih readable

/-! ## The chain -/

omit [Crates] [Writer] [BundleJson] in
theorem mem_eventsInChain {ledger : Ledger} {chain : ChainId} (named : chain ≠ .global)
    {event : Event} :
    event ∈ ledger.eventsInChain chain ↔ event ∈ ledger.events ∧ event.joins chain = true := by
  rw [Ledger.eventsInChain, ChainId.isGlobal_eq_false named, if_neg Bool.false_ne_true,
    List.mem_filter]

omit [Writer] [BundleJson] in
theorem chainEvents_eq {ledger : Ledger} {chain : ChainId} (named : chain ≠ .global)
    (chained : ∃ total, ledger.verifyChain chain = .ok total) :
    chainEvents ledger chain = ledger.eventsInChain chain ∧
      ∃ total, Ledger.verifyBundleChain (ledger.eventsInChain chain) chain = .ok total := by
  obtain ⟨total, verified⟩ := chained
  have bundled := (Ledger.verifyChain_eq_ok_iff_bundle named ledger.events total).mp verified
  refine ⟨?_, total, bundled⟩
  have increasing := ((Ledger.verifyBundleChain_eq_ok_iff.mp bundled).2.2).pairwise_seq
  rw [firstMembers, List.pairwise_filterMap] at increasing
  refine List.Pairwise.insertionSort_eq
    (increasing.imp_of_mem fun {first second} _ member ordered => ?_)
  rw [bookChainSeq, bookChainSeq]
  cases here : first.linkIn chain with
  | none => exact Nat.zero_le _
  | some link =>
      cases there : second.linkIn chain with
      | none =>
          have joins := (mem_eventsInChain named).mp member
          rw [← Event.isSome_linkIn, there] at joins
          cases joins.2
      | some link' =>
          have before := ordered (link.member first) (by rw [Event.firstIn, here]; rfl)
            (link'.member second) (by rw [Event.firstIn, there]; rfl)
          exact before.le

/-! ## The round trip -/

variable [ZipCrate]

/-- What `zip` and `serde_json` wrote for a bundle, they read back. -/
structure ReadsBack (rows : Rows) (ledger : Ledger) (bookId : Uuid) (built : BuiltBundle) :
    Prop where
  archive : ∀ list, writeZip list = .ok built.bytes →
    (list.map Prod.fst).Nodup ∧ readZip built.bytes = .ok (list.map asEntry)
  manifest : ∀ json, serialize built.manifest = some json →
    readManifest (prettyJson json) = .ok built.manifest
  book : ∀ book ∈ rows.bookById bookId, ∀ bytes, prettyBook book = some bytes →
    readBook bytes = .ok book
  acts : ∀ act ∈ rows.actsForBook bookId, ∀ bytes, prettyAct act = some bytes →
    readAct bytes = .ok act
  events : ∀ event ∈ ledger.eventsInChain (.book bookId.display), ∀ text,
    eventText event = some text → IsLine text ∧ readEvent text = .ok event

/-- The archive stays within the ceilings of the number and the size of members. -/
structure WithinCeilings (bytes : List UInt8) : Prop where
  count : ∀ entries, readZip bytes = .ok entries → entries.length ≤ recoveryZipMaxMembers
  each : ∀ entries, readZip bytes = .ok entries → ∀ entry ∈ entries, ∀ content ∈ entry.content,
    content.length ≤ recoveryZipMemberUncompressedMaxBytes
  total : ∀ entries, readZip bytes = .ok entries →
    (entries.map fun entry => (entry.content.getD []).length).sum ≤
      recoveryZipTotalUncompressedMaxBytes

/-- How a bundle was built: from which book, entity and members, and with which manifest. -/
structure BuiltFrom (rows : Rows) (ledger : Ledger) (bookId : Uuid) (exportedAt : OffsetDateTime)
    (built : BuiltBundle) (book : FiledBook) (entity : String) (members : List Member)
    (manifestJson : Json) : Prop where
  found : rows.bookById bookId = some book
  owner : rows.entityJson book.entityId = some entity
  gathered : bundleMembers rows bookId book entity (rows.actsForBook bookId)
    (chainEvents ledger (.book bookId.display)) = .ok members
  digest : computeBundleDigest built.manifest = .ok built.manifest.bundleDigest
  manifest : built.manifest = { unsignedManifest rows bookId book
    (chainEvents ledger (.book bookId.display)) members exportedAt with
      bundleDigest := built.manifest.bundleDigest }
  json : serialize built.manifest = some manifestJson
  written : writeZip (("manifest.json", prettyJson manifestJson) ::
    members.filter fun member => !Text.contains member.1 "..") = .ok built.bytes

omit [BundleJson] in
theorem exists_builtFrom {ledger : Ledger} {bookId : Uuid} {exportedAt : OffsetDateTime}
    {built : BuiltBundle} (exported : buildBookBundle rows ledger bookId exportedAt = .ok built) :
    ∃ book entity members manifestJson,
      BuiltFrom rows ledger bookId exportedAt built book entity members manifestJson := by
  simp only [buildBookBundle, bind_eq_ok_iff] at exported
  obtain ⟨book, found, entity, owner, members, gathered, digest, digested, bytes, written,
    result⟩ :=
    exported
  obtain rfl := Except.ok.inj result
  have foundBook : rows.bookById bookId = some book := by
    cases look : rows.bookById bookId with
    | none =>
        rw [look] at found
        cases found
    | some held =>
        rw [look] at found
        rw [Except.ok.inj found]
  have foundEntity : rows.entityJson book.entityId = some entity := by
    cases look : rows.entityJson book.entityId with
    | none =>
        rw [look] at owner
        cases owner
    | some held =>
        rw [look] at owner
        rw [Except.ok.inj owner]
  simp only [writeBundleZip, bind_eq_ok_iff] at written
  obtain ⟨manifestBytes, pretty, archived⟩ := written
  cases serialized : serialize { unsignedManifest rows bookId book
      (chainEvents ledger (.book bookId.display)) members exportedAt with
        bundleDigest := digest } with
  | none =>
      rw [serialized] at pretty
      cases pretty
  | some manifestJson =>
      rw [serialized] at pretty
      obtain rfl := Except.ok.inj pretty
      split at archived
      · rename_i held wrote
        obtain rfl := Except.ok.inj archived
        exact ⟨book, entity, members, manifestJson, foundBook, foundEntity, gathered, digested, rfl,
          serialized, wrote⟩
      · cases archived

omit [BundleJson] [ZipCrate] in
theorem bundleMembers_eq_ok {bookId : Uuid} {book : FiledBook} {entity : String}
    (gathered : bundleMembers rows bookId book entity acts events = .ok members) :
    ∃ bookBytes actMembers eventsJsonl documents,
      members = ("entity.json", Text.utf8 entity) :: ("book.json", bookBytes) :: actMembers ++
        ("events.jsonl", eventsJsonl) :: documents ∧
      prettyBook book = some bookBytes ∧ List.Forall₂ WrittenFor acts actMembers ∧
      eventLines events = .ok eventsJsonl ∧ ∀ member ∈ documents, OfDocument rows member := by
  simp only [bundleMembers, bind_eq_ok_iff] at gathered
  obtain ⟨bookBytes, pretty, actMembers, written, eventsJsonl, lined, documents, ofDocuments,
    result⟩ := gathered
  obtain rfl := Except.ok.inj result
  refine ⟨bookBytes, actMembers, eventsJsonl, documents, rfl, ?_, actMembers_writtenFor written,
    lined, documentMembers_ofDocument ofDocuments⟩
  cases look : prettyBook book with
  | none =>
      rw [look] at pretty
      cases pretty
  | some held =>
      rw [look] at pretty
      rw [Except.ok.inj pretty]

/-! ### Which members are acts -/

omit [Crates] [Writer] [BundleJson] [ZipCrate] in
theorem isActMember_actName (act : Act) (bytes : List UInt8) :
    isActMember (readAs (actName act, bytes)) = true := by
  rw [isActMember, Bool.and_eq_true, List.isPrefixOf_iff_prefix, List.isSuffixOf_iff_suffix, readAs,
    actName, String.toList_append, String.toList_append]
  exact ⟨⟨_, List.append_assoc _ _ _ |>.symm⟩, ⟨_, rfl⟩⟩

omit [Crates] [Writer] [BundleJson] [ZipCrate] in
theorem isActMember_ofDocument {member : Member} (known : OfDocument rows member) :
    isActMember (readAs member) = false := by
  obtain ⟨id, -, folder, inFolder, extension, -, named⟩ := known
  have start : "acts/".toList.isPrefixOf member.1.toList = false := by
    rw [named, String.toList_append, String.toList_append, List.append_assoc]
    simp only [List.mem_cons, List.not_mem_nil, or_false] at inFolder
    rcases inFolder with rfl | rfl <;> rfl
  rw [isActMember, readAs, start, Bool.false_and]

omit [Crates] [BundleJson] [ZipCrate] in
theorem filter_isActMember_acts (written : List.Forall₂ WrittenFor acts members) :
    (members.map readAs).filter isActMember = members.map readAs := by
  induction written with
  | nil => rfl
  | @cons act member acts members first _ ih =>
      have named : isActMember (readAs member) = true := by
        rw [← isActMember_actName act member.2, ← first.1]
      rw [List.map_cons, List.filter_cons_of_pos named, ih]

/-! ### A built bundle passes the analysis -/

section Built

variable {ledger : Ledger} {bookId : Uuid} {exportedAt : OffsetDateTime} {built : BuiltBundle}
  {book : FiledBook} {entity : String} {members : List Member} {manifestJson : Json}

/-- The members of an archive that was built, as they are read. -/
def archived (members : List Member) (manifestJson : Json) : List Member :=
  ("manifest.json", prettyJson manifestJson) :: members

omit [BundleJson] in
theorem BuiltFrom.written_all
    (made : BuiltFrom rows ledger bookId exportedAt built book entity members manifestJson)
    (undotted : ∀ file ∈ built.manifest.files, Text.contains file.name ".." = false) :
    (∀ member ∈ archived members manifestJson, Text.contains member.1 ".." = false) ∧
      writeZip (archived members manifestJson) = .ok built.bytes := by
  have names : ∀ member ∈ members, Text.contains member.1 ".." = false := by
    intro member inside
    refine undotted ⟨member.1, sha256Hex member.2, UInt64.ofNat member.2.length⟩ ?_
    rw [made.manifest]
    exact List.mem_map_of_mem inside
  have all : members.filter (fun member => !Text.contains member.1 "..") = members := by
    rw [List.filter_eq_self]
    intro member inside
    rw [names member inside]
    rfl
  refine ⟨?_, ?_⟩
  · intro member inside
    rcases List.mem_cons.mp inside with rfl | listed
    · exact (by decide : Text.contains "manifest.json" ".." = false)
    · exact names member listed
  · have written := made.written
    rwa [all] at written

theorem BuiltFrom.read
    (made : BuiltFrom rows ledger bookId exportedAt built book entity members manifestJson)
    (back : ReadsBack rows ledger bookId built)
    (undotted : ∀ file ∈ built.manifest.files, Text.contains file.name ".." = false)
    (ceilings : WithinCeilings built.bytes) :
    ((archived members manifestJson).map Prod.fst).Nodup ∧
      readBundle built.bytes =
        .ok (built.manifest, .fromIter ((archived members manifestJson).map readAs)) := by
  obtain ⟨names, written⟩ := made.written_all undotted
  obtain ⟨distinct, zipped⟩ := back.archive _ written
  have small : ∀ member ∈ archived members manifestJson,
      member.2.length ≤ recoveryZipMemberUncompressedMaxBytes := fun member inside =>
    ceilings.each _ zipped _ (List.mem_map_of_mem inside) member.2 rfl
  have total := ceilings.total _ zipped
  rw [List.map_map] at total
  have all : readMembers ((archived members manifestJson).map asEntry) 0 .empty =
      .ok (.fromIter ((archived members manifestJson).map readAs)) :=
    readMembers_asEntry names small (by rw [Nat.zero_add]; exact total)
  have keys : (((archived members manifestJson).map readAs).map BundleMember.name).Nodup := by
    rwa [List.map_map]
  have manifestMember := Table.get_fromIter_of_mem keys
    (List.mem_map_of_mem (f := readAs) (List.mem_cons_self : _ ∈ archived members manifestJson))
  have format : built.manifest.format = bundleFormat := by rw [made.manifest]; rfl
  refine ⟨distinct, ?_⟩
  rw [readBundle, zipped]
  dsimp only
  rw [if_neg (Nat.not_lt.mpr (ceilings.count _ zipped)), all]
  change (manifestOf _ >>= _) = _
  rw [manifestOf, show Table.get _ "manifest.json" = _ from manifestMember]
  dsimp only [readAs]
  rw [back.manifest manifestJson made.json]
  dsimp only
  rw [if_neg (not_not_intro format)]
  rfl

omit [Crates] [ZipCrate] in
theorem readActs_reverse {front actMembers documents : List Member}
    (written : List.Forall₂ WrittenFor acts actMembers)
    (readBack : ∀ act ∈ acts, ∀ bytes, prettyAct act = some bytes → readAct bytes = .ok act)
    (others : ∀ member ∈ front ++ documents, isActMember (readAs member) = false) (label : String) :
    readActs label ((front ++ actMembers ++ documents).map readAs).reverse = .ok acts.reverse := by
  refine readActs_eq_ok ?_
  have none_ : ∀ list : List Member, (∀ member ∈ list, isActMember (readAs member) = false) →
      (list.map readAs).filter isActMember = [] := by
    intro list absent
    rw [List.filter_eq_nil_iff]
    intro member inside
    obtain ⟨source, listed, rfl⟩ := List.mem_map.mp inside
    rw [absent source listed]
    exact Bool.false_ne_true
  rw [List.filter_reverse, List.map_append, List.map_append, List.filter_append,
    List.filter_append, filter_isActMember_acts written,
    none_ front fun member inside => others member (List.mem_append_left _ inside),
    none_ documents fun member inside => others member (List.mem_append_right _ inside),
    List.append_nil, List.nil_append, List.forall₂_reverse_iff, List.forall₂_map_left_iff]
  induction written with
  | nil => exact .nil
  | @cons act member acts members first _ ih =>
      refine .cons (readBack act List.mem_cons_self _ first.2) (ih fun other listed =>
        readBack other (List.mem_cons_of_mem _ listed))

theorem BuiltFrom.checks
    (made : BuiltFrom rows ledger bookId exportedAt built book entity members manifestJson)
    (back : ReadsBack rows ledger bookId built)
    (chained : ∃ total, ledger.verifyChain (.book bookId.display) = .ok total)
    (fixed : ∀ act ∈ rows.actsForBook bookId,
      verifyActFixity act (.fromEvents (ledger.eventsInChain (.book bookId.display))) = .unsealed ∨
        verifyActFixity act (.fromEvents (ledger.eventsInChain (.book bookId.display))) = .verified)
    (undotted : ∀ file ∈ built.manifest.files, Text.contains file.name ".." = false)
    (ceilings : WithinCeilings built.bytes) :
    BundleChecks built.bytes built.manifest
      (.fromIter ((archived members manifestJson).map readAs))
      (ledger.eventsInChain (.book bookId.display)) (rows.actsForBook bookId).reverse := by
  obtain ⟨distinct, read⟩ := made.read back undotted ceilings
  have keys : (((archived members manifestJson).map readAs).map BundleMember.name).Nodup := by
    rwa [List.map_map]
  obtain ⟨inOrder, total, bundled⟩ := chainEvents_eq (by simp) chained
  obtain ⟨bookBytes, actMembers, eventsJsonl, documents, parts, -, written, lined, ofDocuments⟩ :=
    bundleMembers_eq_ok made.gathered
  have found : ∀ member ∈ archived members manifestJson,
      (Table.fromIter ((archived members manifestJson).map readAs) : BundleMembers).get member.1 =
        some (readAs member) := fun member inside =>
    Table.get_fromIter_of_mem keys (List.mem_map_of_mem inside)
  have id : built.manifest.bookId = bookId.display := by rw [made.manifest]; rfl
  refine ⟨read, made.digest, ?_, ?_, ?_, ?_, ?_⟩
  · intro file listed
    rw [made.manifest] at listed
    obtain ⟨member, inside, rfl⟩ := List.mem_map.mp listed
    rw [fileMatches, found member (List.mem_cons_of_mem _ inside)]
    exact decide_eq_true rfl
  · have here : ("events.jsonl", eventsJsonl) ∈ archived members manifestJson := by
      rw [archived, parts]
      simp
    rw [bundleEvents, found _ here]
    exact parseEventsJsonl_eventLines back.events (inOrder ▸ lined)
  · rw [id]
    exact ⟨total, bundled⟩
  · rw [Table.values_fromIter keys]
    have split : archived members manifestJson = [("manifest.json", prettyJson manifestJson),
        ("entity.json", Text.utf8 entity), ("book.json", bookBytes)] ++ actMembers ++
          ("events.jsonl", eventsJsonl) :: documents := by
      rw [archived, parts]
      rfl
    rw [split]
    refine readActs_reverse written back.acts ?_ _
    have plain : ∀ name ∈ ["manifest.json", "entity.json", "book.json", "events.jsonl"],
        ("acts/".toList.isPrefixOf name.toList && ".json".toList.isSuffixOf name.toList) =
          false := by
      decide
    intro member inside
    simp only [List.cons_append, List.nil_append, List.mem_cons] at inside
    rcases inside with rfl | rfl | rfl | rfl | document
    · exact plain "manifest.json" (by decide)
    · exact plain "entity.json" (by decide)
    · exact plain "book.json" (by decide)
    · exact plain "events.jsonl" (by decide)
    · exact isActMember_ofDocument (ofDocuments member document)
  · intro act member
    exact fixed act (List.mem_reverse.mp member)

end Built

/-! ### Altered bundles -/

omit [Crates] [Writer] [BundleJson] [ZipCrate] in
theorem hex32_injective : Function.Injective hex32 := fun _ _ same =>
  Vector.toList_inj.mp (flatMap_hexByte_injective (String.ofList_injective same))

/-- The analysis of a bundle does not report it as verified. -/
def NeverVerified (bookExistsAnywhere : String → Except StoreError Bool)
    (bundleBytes : List UInt8) : Prop :=
  ∀ policy preflight, analyzeImportBundle bookExistsAnywhere bundleBytes policy = .ok preflight →
    preflight.verdict ≠ .verified

/-- A field of a manifest other than its signature differs, and its digest has not been computed
anew. -/
def Altered (original forged : BundleManifest) : Prop :=
  forged.unsigned ≠ original.unsigned ∧ forged.bundleDigest = original.bundleDigest ∨
    forged.unsigned = original.unsigned ∧ forged.bundleDigest ≠ original.bundleDigest

def Separated (original forged : BundleManifest) : Prop :=
  ∀ json json', serialize original.unsigned = some json → serialize forged.unsigned = some json' →
    Set.InjOn jsonToString {json, json'} ∧ Set.InjOn sha256 {jsonToVec json, jsonToVec json'}

variable {bookExistsAnywhere : String → Except StoreError Bool}

omit [Writer] in
theorem neverVerified_of_unchecked {forged : List UInt8} {manifest : BundleManifest}
    {members : BundleMembers} (read : readBundle forged = .ok (manifest, members))
    (unchecked : ∀ events acts, ¬BundleChecks forged manifest members events acts) :
    NeverVerified bookExistsAnywhere forged := by
  intro policy preflight analyzed verified
  obtain ⟨manifest', members', events, acts, checks⟩ :=
    (analyzeImportBundle_verified_iff analyzed).mp verified
  have same := checks.read
  rw [read] at same
  obtain ⟨rfl, rfl⟩ := Prod.mk.inj (Except.ok.inj same)
  exact unchecked events acts checks

omit [Writer] in
theorem neverVerified_of_changed {bytes forged : List UInt8} {manifest : BundleManifest}
    {members others : BundleMembers} (checks : BundleChecks bytes manifest members events acts)
    (read : readBundle forged = .ok (manifest, others)) {file : BackupFile}
    (listed : file ∈ manifest.files) {original changed : BundleMember}
    (held : members.get file.name = some original) (there : others.get file.name = some changed)
    (differs : changed.bytes ≠ original.bytes)
    (injective : Set.InjOn sha256 {original.bytes, changed.bytes}) :
    NeverVerified bookExistsAnywhere forged := by
  refine neverVerified_of_unchecked read fun events' acts' forgedChecks => ?_
  have before := checks.listed file listed
  have after := forgedChecks.listed file listed
  rw [fileMatches, held, Option.any_some, decide_eq_true_eq] at before
  rw [fileMatches, there, Option.any_some, decide_eq_true_eq, ← before] at after
  exact differs (injective (.inr rfl) (.inl rfl) (hex32_injective after))

omit [Writer] in
theorem neverVerified_of_altered {bytes forged : List UInt8} {manifest other : BundleManifest}
    {members others : BundleMembers} (checks : BundleChecks bytes manifest members events acts)
    (read : readBundle forged = .ok (other, others)) (altered : Altered manifest other)
    (separated : Separated manifest other) : NeverVerified bookExistsAnywhere forged := by
  refine neverVerified_of_unchecked read fun events' acts' forgedChecks => ?_
  have before := checks.digest
  have after := forgedChecks.digest
  rw [computeBundleDigest] at before after
  cases written : serialize manifest.unsigned with
  | none =>
      rw [written] at before
      cases before
  | some json =>
      cases written' : serialize other.unsigned with
      | none =>
          rw [written'] at after
          cases after
      | some json' =>
          rw [written] at before
          rw [written'] at after
          have digest := Except.ok.inj before
          have digest' := Except.ok.inj after
          obtain ⟨texts, hashes⟩ := separated json json' written written'
          rcases altered with ⟨differs, kept⟩ | ⟨kept, differs⟩
          · rw [← digest', ← digest] at kept
            have vectors := hashes (.inr rfl) (.inl rfl) (hex32_injective kept)
            have jsons := texts (.inr rfl) (.inl rfl) (Text.utf8_injective vectors)
            exact differs (FaithfulJson.inj (jsons ▸ written') written)
          · rw [kept, written] at written'
            obtain rfl := Option.some.inj written'
            exact differs (digest'.symm.trans digest)

/-! ### The round trip -/

/-- What is reported of a bundle is what its export says of it, and its members give back what
was exported. -/
structure RoundTrip (bookExistsAnywhere : String → Except StoreError Bool) (rows : Rows)
    (ledger : Ledger) (bookId : Uuid) (built : BuiltBundle) : Prop where
  accepted : ∀ policy, ∃ preflight,
    analyzeImportBundle bookExistsAnywhere built.bytes policy = .ok preflight ∧
      preflight.verdict = .verified ∧ preflight.entityId = built.manifest.entityId ∧
      preflight.bookId = built.manifest.bookId ∧
      preflight.sourceInstanceId = built.manifest.sourceInstanceId ∧
      preflight.bundleDigest = built.manifest.bundleDigest ∧
      preflight.manifestFileCount = built.manifest.files.length ∧
      preflight.eventCount = some (ledger.eventsInChain (.book bookId.display)).length ∧
      preflight.bookChain = built.manifest.bookChain
  contents : ∃ members book entity, readBundle built.bytes = .ok (built.manifest, members) ∧
    rows.bookById bookId = some book ∧ rows.entityJson book.entityId = some entity ∧
    built.manifest.entityId = book.entityId.display ∧ built.manifest.bookId = bookId.display ∧
    built.manifest.sourceInstanceId = rows.instanceId ∧
    members.get "entity.json" = some ⟨"entity.json", Text.utf8 entity⟩ ∧
    (∃ member, members.get "book.json" = some member ∧ readBook member.bytes = .ok book) ∧
    (∃ acts, readActs bookId.display members.values = .ok acts ∧
      acts.Perm (rows.actsForBook bookId)) ∧
    bundleEvents members = .ok (ledger.eventsInChain (.book bookId.display))
  contentHeld : ∀ members, readBundle built.bytes = .ok (built.manifest, members) →
    ∀ forged others, readBundle forged = .ok (built.manifest, others) →
      ∀ file ∈ built.manifest.files, ∀ original changed, members.get file.name = some original →
        others.get file.name = some changed → changed.bytes ≠ original.bytes →
          Set.InjOn sha256 {original.bytes, changed.bytes} →
            NeverVerified bookExistsAnywhere forged
  fieldsHeld : ∀ forged manifest others, readBundle forged = .ok (manifest, others) →
    Altered built.manifest manifest → Separated built.manifest manifest →
      NeverVerified bookExistsAnywhere forged

/-- **Book bundles round-trip.** -/
theorem buildBookBundle_roundTrips {ledger : Ledger} {bookId : Uuid} {exportedAt : OffsetDateTime}
    {built : BuiltBundle} {bookExistsAnywhere : String → Except StoreError Bool}
    (exported : buildBookBundle rows ledger bookId exportedAt = .ok built)
    (back : ReadsBack rows ledger bookId built)
    (chained : ∃ total, ledger.verifyChain (.book bookId.display) = .ok total)
    (fixed : ∀ act ∈ rows.actsForBook bookId,
      verifyActFixity act (.fromEvents (ledger.eventsInChain (.book bookId.display))) = .unsealed ∨
        verifyActFixity act (.fromEvents (ledger.eventsInChain (.book bookId.display))) = .verified)
    (undotted : ∀ file ∈ built.manifest.files, Text.contains file.name ".." = false)
    (ceilings : WithinCeilings built.bytes)
    (looked : ∃ collided, bookExistsAnywhere bookId.display = .ok collided) :
    RoundTrip bookExistsAnywhere rows ledger bookId built := by
  obtain ⟨book, entity, members, manifestJson, made⟩ := exists_builtFrom exported
  have checks := made.checks back chained fixed undotted ceilings
  obtain ⟨distinct, read⟩ := made.read back undotted ceilings
  have keys : (((archived members manifestJson).map readAs).map BundleMember.name).Nodup := by
    rwa [List.map_map]
  have id : built.manifest.bookId = bookId.display := by rw [made.manifest]; rfl
  obtain ⟨collided, looked⟩ := looked
  obtain ⟨bookBytes, actMembers, eventsJsonl, documents, parts, pretty, -, -, -⟩ :=
    bundleMembers_eq_ok made.gathered
  have found : ∀ member ∈ archived members manifestJson,
      (Table.fromIter ((archived members manifestJson).map readAs) : BundleMembers).get member.1 =
        some (readAs member) := fun member inside =>
    Table.get_fromIter_of_mem keys (List.mem_map_of_mem inside)
  have entityMember : ("entity.json", Text.utf8 entity) ∈ archived members manifestJson := by
    rw [archived, parts]
    simp
  have bookMember : ("book.json", bookBytes) ∈ archived members manifestJson := by
    rw [archived, parts]
    simp
  refine ⟨fun policy => ?_, ?_, ?_, ?_⟩
  · exact ⟨_, checks.analyze (id ▸ looked), rfl, rfl, rfl, rfl, rfl, rfl, rfl, rfl⟩
  · refine ⟨_, book, entity, read, made.found, made.owner, ?_, id, ?_, found _ entityMember, ?_, ?_,
      checks.parsed⟩
    · rw [made.manifest]
      rfl
    · rw [made.manifest]
      rfl
    · exact ⟨_, found _ bookMember, back.book book made.found bookBytes pretty⟩
    · exact ⟨_, id ▸ checks.readable, List.reverse_perm _⟩
  · intro held reads forged others readForged file listed original changed here there differs
      injective
    rw [read] at reads
    obtain ⟨-, rfl⟩ := Prod.mk.inj (Except.ok.inj reads)
    exact neverVerified_of_changed checks readForged listed here there differs injective
  · intro forged manifest others readForged altered separated
    exact neverVerified_of_altered checks readForged altered separated

/-! ### Exports that do and do not round-trip -/

/-- What an export might be presumed to need: readable archives, a chain that verifies, acts that
verify against the ledger, ids without two dots, and room. -/
structure Presumed (rows : Rows) (ledger : Ledger) (bookId : Uuid) (built : BuiltBundle) :
    Prop where
  back : ReadsBack rows ledger bookId built
  chained : ∃ total, ledger.verifyChain (.book bookId.display) = .ok total
  fixed : ∀ act ∈ rows.actsForBook bookId,
    verifyActFixity act (.fromLedger ledger) = .unsealed ∨
      verifyActFixity act (.fromLedger ledger) = .verified
  documents : ∀ doc ∈ rows.documents, Text.contains doc.id ".." = false
  signedDocuments : ∀ signed ∈ rows.signedDocuments, Text.contains signed.documentId ".." = false
  ceilings : WithinCeilings built.bytes

end Members

open scoped Reference

namespace Shelf

def book : FiledBook :=
  { Book.new annualMeeting.bookId with
    entityId := quotasEntity.id
    legalHold := none }

/-- JSON text cut down to what tells the manifests here apart, and the bytes of one book and one
act. -/
scoped instance writer : Writer where
  prettyJson
    | .obj fields =>
        match fields.lookup "source_instance_id" with
        | some (.str instanceId) => Text.utf8 instanceId
        | _ => []
    | _ => []
  prettyBook _ := some [4]
  prettyAct _ := some [5]
  eventText _ := none
  readBook bytes := if bytes = [4] then .ok book else .error "expected value"

def exportedAt : OffsetDateTime := ⟨2026, 4, 1, 0, 0, 0, 0, 0⟩

def termo (id : String) : StoredDocument where
  id := id
  actId := book.id
  templateId := "termo-abertura/v1"
  pdfDigest := ""
  profile := "PDF/A-2u"
  createdAt := exportedAt
  pdfBytes := []

def rowsOf (instanceId : String) (documents : List StoredDocument) (acts : List Act) : Rows where
  books := [book]
  entities := [(quotasEntity.id, "\x7b\x7d")]
  acts := acts
  documents := documents
  signedDocuments := []
  instanceId := instanceId

def plain : Rows := rowsOf "plain" [termo "termo"] []

def dotted : Rows := rowsOf "dotted" [termo "termo."] []

def foreign : Rows := rowsOf "foreign" [] [storedMeeting .sealed]

/-- A ledger whose one seal event joins no chain of a book. -/
def foreignLedger : Ledger where
  events := [{
    id := ⟨6⟩
    seq := 0
    actor := "amelia.marques"
    justification := none
    timestamp := exportedAt
    scope := ""
    kind := sealEventKind
    payloadDigest := digest (meetingPayload signedMeeting 1)
    prevHash := zeroDigest
    links := []
    hash := zeroDigest }]

def membersOf (rows : Rows) : List Member :=
  (bundleMembers rows book.id book "\x7b\x7d" (rows.actsForBook book.id) []).toOption.getD []

def unsignedOf (rows : Rows) : BundleManifest :=
  unsignedManifest rows book.id book [] (membersOf rows) exportedAt

def manifestFor (rows : Rows) : BundleManifest :=
  { unsignedOf rows with bundleDigest := (computeBundleDigest (unsignedOf rows)).toOption.getD "" }

def entriesOf (rows : Rows) : List Member :=
  ("manifest.json", Text.utf8 rows.instanceId) ::
    (membersOf rows).filter fun member => !Text.contains member.1 ".."

/-- The archives of the three exports. -/
scoped instance zipCrate : ZipCrate where
  readZip bytes :=
    if bytes = [1] then .ok ((entriesOf plain).map asEntry)
    else if bytes = [2] then .ok ((entriesOf dotted).map asEntry)
    else if bytes = [3] then .ok ((entriesOf foreign).map asEntry)
    else .error "invalid Zip archive"
  writeZip list :=
    if list = entriesOf plain then .ok [1]
    else if list = entriesOf dotted then .ok [2]
    else if list = entriesOf foreign then .ok [3]
    else .error "another archive"

scoped instance bundleJson : BundleJson where
  readManifest bytes :=
    if bytes = Text.utf8 "plain" then .ok (manifestFor plain)
    else if bytes = Text.utf8 "dotted" then .ok (manifestFor dotted)
    else if bytes = Text.utf8 "foreign" then .ok (manifestFor foreign)
    else .error "expected value"
  readAct bytes := if bytes = [5] then .ok (storedMeeting .sealed) else .error "expected value"
  readEvent _ := .error "expected value"
  utf8Error _ := "invalid utf-8 sequence"

def noBook : String → Except StoreError Bool := fun _ => .ok false

/-- What is computed of an export. -/
structure Evaluated (rows : Rows) (bytes : List UInt8) : Prop where
  found : rows.bookById book.id = some book
  owner : rows.entityJson book.entityId = some "\x7b\x7d"
  gathered : bundleMembers rows book.id book "\x7b\x7d" (rows.actsForBook book.id) [] =
    .ok (membersOf rows)
  serializes : (serialize (unsignedOf rows).unsigned).isSome = true
  pretty : (serialize (manifestFor rows)).map prettyJson = some (Text.utf8 rows.instanceId)
  written : writeZip (entriesOf rows) = .ok bytes
  distinct : ((entriesOf rows).map Prod.fst).Nodup
  few : (entriesOf rows).length ≤ 9
  small : ∀ member ∈ entriesOf rows, member.2.length ≤ 99

theorem Evaluated.export_eq {rows : Rows} {ledger : Ledger} {bytes : List UInt8}
    (computed : Evaluated rows bytes)
    (noEvents : chainEvents ledger (.book book.id.display) = []) :
    buildBookBundle rows ledger book.id exportedAt = .ok ⟨manifestFor rows, bytes⟩ := by
  obtain ⟨json, unsigned⟩ := Option.isSome_iff_exists.mp computed.serializes
  obtain ⟨manifestJson, serialized, same⟩ := Option.map_eq_some_iff.mp computed.pretty
  have digest : computeBundleDigest (unsignedOf rows) = .ok (sha256Hex (jsonToVec json)) := by
    rw [computeBundleDigest, unsigned]
  have whole : manifestFor rows =
      { unsignedOf rows with bundleDigest := sha256Hex (jsonToVec json) } := by
    rw [manifestFor, digest]
    rfl
  have zipped : writeBundleZip (manifestFor rows) (membersOf rows) = .ok bytes := by
    have pretty : toVecPretty (serialize (manifestFor rows)) = .ok (prettyJson manifestJson) :=
      congrArg toVecPretty serialized
    rw [writeBundleZip_of_toVecPretty pretty, same]
    exact congrArg (Except.mapError StoreError.zip) computed.written
  rw [unsignedOf] at digest
  simp only [buildBookBundle, computed.found, computed.owner, Option.elim_some, noEvents,
    computed.gathered, digest, bind, Except.bind]
  rw [whole, unsignedOf] at zipped
  rw [zipped, whole]
  rfl

theorem Evaluated.readsBack {rows : Rows} {ledger : Ledger} {bytes : List UInt8}
    (computed : Evaluated rows bytes)
    (noEvents : ledger.eventsInChain (.book book.id.display) = [])
    (acts : ∀ act ∈ rows.actsForBook book.id, act = storedMeeting .sealed)
    (read : readManifest (Text.utf8 rows.instanceId) = .ok (manifestFor rows))
    (archive : ∀ list, writeZip list = .ok bytes → list = entriesOf rows)
    (unzipped : readZip bytes = .ok ((entriesOf rows).map asEntry)) :
    ReadsBack rows ledger book.id ⟨manifestFor rows, bytes⟩ where
  archive list written := by
    rw [archive list written]
    exact ⟨computed.distinct, unzipped⟩
  manifest json serialized := by
    have pretty := computed.pretty
    rw [serialized, Option.map_some] at pretty
    rw [Option.some.inj pretty]
    exact read
  book other held bytes pretty := by
    rw [computed.found] at held
    obtain rfl := Option.some.inj held
    obtain rfl := Option.some.inj pretty
    rfl
  acts act member bytes pretty := by
    rw [acts act member]
    obtain rfl := Option.some.inj pretty
    rfl
  events event member := by
    rw [noEvents] at member
    cases member

theorem Evaluated.withinCeilings {rows : Rows} {bytes : List UInt8}
    (computed : Evaluated rows bytes)
    (unzipped : readZip bytes = .ok ((entriesOf rows).map asEntry)) : WithinCeilings bytes where
  count entries read := by
    rw [unzipped] at read
    obtain rfl := Except.ok.inj read
    rw [List.length_map]
    exact computed.few.trans (by decide)
  each entries read entry member content held := by
    rw [unzipped] at read
    obtain rfl := Except.ok.inj read
    obtain ⟨source, listed, rfl⟩ := List.mem_map.mp member
    obtain rfl := Option.some.inj held
    exact (computed.small source listed).trans (by decide)
  total entries read := by
    rw [unzipped] at read
    obtain rfl := Except.ok.inj read
    rw [List.map_map]
    have bound := List.sum_le_card_nsmul ((entriesOf rows).map fun member => member.2.length) 99
      fun size member => by
        obtain ⟨source, listed, rfl⟩ := List.mem_map.mp member
        exact computed.small source listed
    rw [List.length_map, smul_eq_mul] at bound
    exact bound.trans ((Nat.mul_le_mul_right 99 computed.few).trans (by decide))

theorem evaluated :
    Evaluated plain [1] ∧ Evaluated dotted [2] ∧ Evaluated foreign [3] := by
  refine ⟨?_, ?_, ?_⟩ <;> constructor <;> decide +kernel

theorem noForeignEvents :
    chainEvents foreignLedger (.book book.id.display) = [] ∧
      foreignLedger.eventsInChain (.book book.id.display) = [] := by
  constructor <;> decide +kernel

theorem export_plain :
    buildBookBundle plain ⟨[]⟩ book.id exportedAt = .ok ⟨manifestFor plain, [1]⟩ :=
  evaluated.1.export_eq rfl

theorem export_dotted :
    buildBookBundle dotted ⟨[]⟩ book.id exportedAt = .ok ⟨manifestFor dotted, [2]⟩ :=
  evaluated.2.1.export_eq rfl

theorem export_foreign :
    buildBookBundle foreign foreignLedger book.id exportedAt = .ok ⟨manifestFor foreign, [3]⟩ :=
  evaluated.2.2.export_eq noForeignEvents.1

theorem readsBack_plain : ReadsBack plain ⟨[]⟩ book.id ⟨manifestFor plain, [1]⟩ := by
  refine evaluated.1.readsBack rfl (fun act member => ?_) rfl (fun list written => ?_) rfl
  · have noActs : plain.actsForBook book.id = [] := rfl
    rw [noActs] at member
    cases member
  · change (if _ then _ else if _ then _ else if _ then _ else _) = _ at written
    split_ifs at written with here
    · exact here
    all_goals simp at written

theorem readsBack_dotted : ReadsBack dotted ⟨[]⟩ book.id ⟨manifestFor dotted, [2]⟩ := by
  refine evaluated.2.1.readsBack rfl (fun act member => ?_) rfl (fun list written => ?_) rfl
  · have noActs : dotted.actsForBook book.id = [] := rfl
    rw [noActs] at member
    cases member
  · change (if _ then _ else if _ then _ else if _ then _ else _) = _ at written
    split_ifs at written with here here
    · simp at written
    · exact here
    all_goals simp at written

theorem readsBack_foreign :
    ReadsBack foreign foreignLedger book.id ⟨manifestFor foreign, [3]⟩ := by
  refine evaluated.2.2.readsBack noForeignEvents.2 (fun act member => ?_) rfl
    (fun list written => ?_) rfl
  · exact List.mem_singleton.mp member
  · change (if _ then _ else if _ then _ else if _ then _ else _) = _ at written
    split_ifs at written with here here here
    · simp at written
    · simp at written
    · exact here

end Shelf

open Shelf
open scoped Shelf

/-- The bundle of a book with one document. -/
theorem roundTrip_plain :
    RoundTrip noBook plain ⟨[]⟩ book.id ⟨manifestFor plain, [1]⟩ :=
  buildBookBundle_roundTrips export_plain readsBack_plain ⟨0, rfl⟩
    (fun _ member => nomatch (member : _ ∈ [])) (by decide +kernel)
    (evaluated.1.withinCeilings rfl) ⟨false, rfl⟩

/-- Two exports that are presumed fit and yet are never reported as verified: a document whose id
ends in a dot is listed but not written, and an act may be anchored to a seal event of the ledger
that the chain of its book, and so the bundle, lacks. -/
theorem not_roundTrip :
    (buildBookBundle dotted ⟨[]⟩ book.id exportedAt = .ok ⟨manifestFor dotted, [2]⟩ ∧
      Presumed dotted ⟨[]⟩ book.id ⟨manifestFor dotted, [2]⟩ ∧ NeverVerified noBook [2]) ∧
    (buildBookBundle foreign foreignLedger book.id exportedAt = .ok ⟨manifestFor foreign, [3]⟩ ∧
      Presumed foreign foreignLedger book.id ⟨manifestFor foreign, [3]⟩ ∧
        NeverVerified noBook [3]) := by
  have dottedCeilings : WithinCeilings [2] := evaluated.2.1.withinCeilings rfl
  have foreignCeilings : WithinCeilings [3] := evaluated.2.2.withinCeilings rfl
  refine ⟨⟨export_dotted, ⟨readsBack_dotted, ⟨0, rfl⟩, ?_, by decide +kernel, by decide +kernel,
    dottedCeilings⟩, ?_⟩, ⟨export_foreign, ⟨readsBack_foreign, ⟨0, by decide +kernel⟩, ?_,
      by decide +kernel, by decide +kernel, foreignCeilings⟩, ?_⟩⟩
  · exact fun _ member => nomatch (member : _ ∈ [])
  · have read : readBundle [2] =
        .ok (manifestFor dotted, .fromIter ((entriesOf dotted).map readAs)) := rfl
    refine neverVerified_of_unchecked read fun events acts checks => ?_
    have listed := checks.listed ⟨"documents/termo..pdf", sha256Hex [], 0⟩
      (List.mem_of_getElem? (i := 3) rfl)
    have absent : (Table.fromIter ((entriesOf dotted).map readAs) : BundleMembers).get
        "documents/termo..pdf" = none := by decide +kernel
    rw [fileMatches, absent] at listed
    cases listed
  · intro act member
    rw [List.mem_singleton.mp member]
    exact .inr (storedMeeting_verified .sealed)
  · have read : readBundle [3] =
        .ok (manifestFor foreign, .fromIter ((entriesOf foreign).map readAs)) := rfl
    refine neverVerified_of_unchecked read fun events acts checks => ?_
    have noEvents : bundleEvents (.fromIter ((entriesOf foreign).map readAs)) = .ok [] := rfl
    have oneAct : readActs (manifestFor foreign).bookId
        (Table.fromIter ((entriesOf foreign).map readAs) : BundleMembers).values =
          .ok [storedMeeting .sealed] := rfl
    rw [checks.parsed] at noEvents
    rw [checks.readable] at oneAct
    obtain rfl := Except.ok.inj noEvents
    obtain rfl := Except.ok.inj oneAct
    rcases checks.fixity _ List.mem_cons_self with unsealed | verified
    · rw [verifyActFixity_eq_unsealed_iff] at unsealed
      cases unsealed.1
    · obtain ⟨anchor, metadata, -, anchored, -⟩ := verifyActFixity_eq_verified_iff.mp verified
      cases anchored

end Bundle

end Chancela
