import Chancela.Search.Text
import Chancela.Store.BundleRoundTrip
import Chancela.Store.RestoreSwap

/-! # Backups are restored

A backup packs the snapshot of the database and the files beside it, directory by directory,
under names joined with slashes; a restore splits the names again. It accepts the backups whose
names hold no backslash, which stay below its ceilings and whose snapshot is sound, and it leaves
the files that were packed at the paths they were packed from
(`Chancela.Restore.restores_backup`). File names are texts, and no call of `std::fs` fails.
-/

namespace Chancela.Restore

open Outcome Chancela.Bundle SnapshotCrates

/-- What `symlink_metadata` and `read_dir` show of a path, entries in the order they are read. -/
inductive Node where
  | file (bytes : List UInt8)
  | dir (entries : List (String × Node))
  /-- A link, or what is neither a file nor a directory. -/
  | other

def addFileToZip (name : String) (bytes : List UInt8) : List Member :=
  if Text.contains name ".." = true then [] else [(name, bytes)]

mutual

/-- `add_path_to_zip`: the members it writes. -/
def addPathToZip (name : String) : Node → List Member
  | .other => []
  | .file bytes => if Text.contains name ".." = true then [] else addFileToZip name bytes
  | .dir entries => if Text.contains name ".." = true then [] else addEntriesToZip name entries

def addEntriesToZip (name : String) : List (String × Node) → List Member
  | [] => []
  | (child, node) :: rest =>
      addPathToZip (name ++ "/" ++ child) node ++ addEntriesToZip name rest

end

/-- `BackupManifest`, with what a restore does not read. -/
structure WrittenManifest extends BackupManifest where
  path : String
  bytes : Nat
  createdAt : OffsetDateTime
  ledgerHead : Option String

section Backup

variable [Crates]

instance : Serialize WrittenManifest where
  serialize manifest := Json.struct [
    Json.field "path" manifest.path,
    Json.field "bytes" manifest.bytes,
    Json.field "created_at" manifest.createdAt,
    Json.field "app_version" manifest.appVersion,
    Json.field "store_schema_version" manifest.storeSchemaVersion,
    Json.field "ledger_length" manifest.ledgerLength,
    Json.field "ledger_head" manifest.ledgerHead,
    Json.field "ledger_verified" manifest.ledgerVerified,
    Json.field "files" manifest.files]

/-- What a backup is given or draws. -/
structure BackupSurroundings where
  /-- `Connection::path`. -/
  database : Option String
  finalPath : String
  createdAt : OffsetDateTime
  appVersion : String
  storeSchemaVersion : Int
  /-- The snapshot, scrubbed of the search projection and compacted. -/
  snapshot : Except StoreError (List UInt8)
  loaded : Except StoreError SnapshotState

inductive BackupError where
  | notPersistent
  | store (cause : StoreError)

def listed (member : Member) : BackupFile :=
  ⟨member.1, sha256Hex member.2, UInt64.ofNat member.2.length⟩

/-- The members of a backup: `sidecars` by their names in the data directory. -/
def backupMembers (snapshot : List UInt8) (source : String → Option Node)
    (sidecars : List String) : List Member :=
  addFileToZip dbFile snapshot ++
    sidecars.flatMap fun name => (source name).elim [] (addPathToZip name)

def embeddedManifest (around : BackupSurroundings) (loaded : SnapshotState)
    (members : List Member) : WrittenManifest where
  path := around.finalPath
  bytes := 0
  createdAt := around.createdAt
  appVersion := around.appVersion
  storeSchemaVersion := around.storeSchemaVersion
  ledgerLength := loaded.events.length
  ledgerHead := (Ledger.mk loaded.events).head.map hex32
  ledgerVerified := (Ledger.verify ⟨loaded.events⟩).toBool
  files := members.map listed

variable [Bundle.Writer] [ZipCrate]

def archive (around : BackupSurroundings) (source : String → Option Node)
    (sidecars : List String) : Except StoreError (WrittenManifest × List UInt8) := do
  let snapshot ← around.snapshot
  let loaded ← around.loaded
  let members := backupMembers snapshot source sidecars
  let manifest := embeddedManifest around loaded members
  match serialize manifest with
  | none => .error .serialization
  | some json =>
      match writeZip (members ++ [("manifest.json", prettyJson json)]) with
      | .error message => .error (.zip message)
      | .ok bytes => .ok ({ manifest with bytes := bytes.length }, bytes)

/-- `Store::backup`: the manifest it returns, and the file at its path. -/
def backup (around : BackupSurroundings) (source : String → Option Node)
    (sidecars : List String) : Except BackupError (WrittenManifest × List UInt8) :=
  if around.database.all (fun path => path = "" ∨ path = ":memory:") then .error .notPersistent
  else (archive around source sidecars).mapError .store

end Backup

/-! ## The names of members -/

/-- What `read_dir` names an entry. -/
def IsEntryName (name : String) : Prop :=
  name ≠ "" ∧ name ≠ "." ∧ name ≠ ".." ∧ '/' ∉ name.toList

/-- A tree that a file system shows: the entries of a directory bear different names. -/
inductive Node.Sound : Node → Prop where
  | file (bytes : List UInt8) : Sound (.file bytes)
  | other : Sound .other
  | dir {entries : List (String × Node)} (distinct : (entries.map Prod.fst).Nodup)
      (named : ∀ entry ∈ entries, IsEntryName entry.1) (below : ∀ entry ∈ entries, Sound entry.2) :
      Sound (.dir entries)

def Node.read : Node → List String → Option (List UInt8)
  | .file bytes, [] => some bytes
  | .dir entries, name :: rest => (entries.lookup name).bind (·.read rest)
  | _, _ => none

/-- The name of the member for a path below a named one. -/
def joined (name : String) (path : List String) : String :=
  path.foldl (fun name child => name ++ "/" ++ child) name

section Names

variable {name root : String} {path : List String} {bytes : List UInt8} {node : Node}

theorem split_joined (clean : ∀ child ∈ path, '/' ∉ child.toList) :
    Text.split (joined name path) '/' = Text.split name '/' ++ path := by
  induction path generalizing name with
  | nil => exact (List.append_nil _).symm
  | cons child rest ih =>
      have one : Text.split (name ++ "/" ++ child) '/' = Text.split name '/' ++ [child] := by
        have chars : (name ++ "/" ++ child).toList = name.toList ++ '/' :: child.toList := by
          rw [String.toList_append, String.toList_append, List.append_assoc]
          rfl
        rw [Text.split, chars, List.splitOn_append_cons_self,
          List.splitOn_eq_singleton (clean child List.mem_cons_self), List.map_append,
          List.map_singleton, String.ofList_toList]
        rfl
      change Text.split (joined (name ++ "/" ++ child) rest) '/' = _
      rw [ih fun other inside => clean other (List.mem_cons_of_mem child inside), one,
        List.append_assoc, List.singleton_append]

theorem split_joined_entry (named : IsEntryName root) (clean : ∀ child ∈ path, IsEntryName child) :
    Text.split (joined root path) '/' = root :: path := by
  rw [split_joined fun child inside => (clean child inside).2.2.2, Text.split,
    List.splitOn_eq_singleton named.2.2.2, List.map_singleton, String.ofList_toList,
    List.singleton_append]

theorem pathComponents_joined (named : IsEntryName root)
    (clean : ∀ child ∈ path, IsEntryName child) :
    pathComponents (joined root path) = root :: path := by
  rw [pathComponents, split_joined_entry named clean, List.filter_eq_self]
  intro child inside
  rcases List.mem_cons.mp inside with rfl | below
  · exact decide_eq_true ⟨named.1, named.2.1⟩
  · exact decide_eq_true ⟨(clean child below).1, (clean child below).2.1⟩

theorem prefix_joined (name : String) (path : List String) :
    name.toList <+: (joined name path).toList := by
  induction path generalizing name with
  | nil => exact List.prefix_rfl
  | cons child rest ih =>
      refine List.IsPrefix.trans ?_ (ih (name ++ "/" ++ child))
      rw [String.toList_append, String.toList_append, List.append_assoc]
      exact List.prefix_append _ _

theorem contains_dots_of_joined (apart : Text.contains (joined name path) ".." = false) :
    Text.contains name ".." = false := by
  rw [← Bool.not_eq_true] at apart ⊢
  rw [Search.contains_iff] at apart ⊢
  exact fun dots => apart (dots.trans (prefix_joined name path).isInfix)

theorem validate_joined_iff [Crates] (named : IsEntryName root)
    (clean : ∀ child ∈ path, IsEntryName child) :
    validateBackupMemberName (joined root path) = .ok ⟨⟩ ↔
      '\\' ∉ (joined root path).toList := by
  have parts := split_joined_entry named clean
  have unled : (joined root path).toList.head? ≠ some '/' := by
    intro led
    obtain ⟨rest, chars⟩ : ∃ rest, (joined root path).toList = [] ++ '/' :: rest :=
      List.head?_eq_some_iff.mp led
    rw [Text.split, chars, List.splitOn_append_cons_self, List.splitOn_nil, List.singleton_append,
      List.map_cons] at parts
    exact named.1 (List.cons.inj parts).1.symm
  have filled : joined root path ≠ "" := by
    intro empty
    rw [empty] at parts
    exact named.1 (List.cons.inj parts).1.symm
  have upward : ".." ∉ root :: path := by
    intro inside
    rcases List.mem_cons.mp inside with same | below
    · exact named.2.2.1 same.symm
    · exact (clean _ below).2.2.1 rfl
  rw [validateBackupMemberName, rejectIf_eq_ok_iff, parts, pathComponents_joined named clean]
  simp only [filled, unled, upward, List.head?_cons, Option.some.injEq, named.2.1, reduceCtorEq,
    false_or, or_false]

/-! ## What is packed -/

theorem addEntriesToZip_eq (name : String) (entries : List (String × Node)) :
    addEntriesToZip name entries =
      entries.flatMap fun entry => addPathToZip (name ++ "/" ++ entry.1) entry.2 := by
  induction entries with
  | nil => rfl
  | cons entry rest ih => rw [addEntriesToZip, ih, List.flatMap_cons]

theorem mem_addFileToZip {member : Member} :
    member ∈ addFileToZip name bytes ↔
      member = (name, bytes) ∧ Text.contains name ".." = false := by
  rw [addFileToZip]
  by_cases dots : Text.contains name ".." = true
  · rw [if_pos dots]
    exact iff_of_false List.not_mem_nil fun both => Bool.noConfusion (dots.symm.trans both.2)
  · rw [if_neg dots, List.mem_singleton, Bool.eq_false_of_not_eq_true dots]
    exact (and_iff_left rfl).symm

theorem mem_lookup_iff {entries : List (String × Node)} (distinct : (entries.map Prod.fst).Nodup)
    {child : String} : entries.lookup child = some node ↔ (child, node) ∈ entries := by
  induction entries with
  | nil => exact iff_of_false (fun absent => nomatch absent) List.not_mem_nil
  | cons entry rest ih =>
      obtain ⟨absent, distinct⟩ := List.nodup_cons.mp distinct
      rw [List.lookup_cons, List.mem_cons]
      by_cases same : child = entry.1
      · subst same
        have apart : (entry.1, node) ∉ rest := fun inside =>
          absent (List.mem_map.mpr ⟨_, inside, rfl⟩)
        simp only [beq_self_eq_true, Option.some.injEq, apart, or_false, Prod.ext_iff, true_and]
        exact eq_comm
      · have other : (child == entry.1) = false := beq_false_of_ne same
        simp only [other, ih distinct, Prod.ext_iff, same, false_and, false_or]

/-- **A directory is packed whole**, but for the files whose names come to hold two dots. -/
theorem mem_addPathToZip (sound : node.Sound) {member : Member} :
    member ∈ addPathToZip name node ↔ ∃ path, node.read path = some member.2 ∧
      member.1 = joined name path ∧ Text.contains (joined name path) ".." = false := by
  induction sound generalizing name with
  | other =>
      refine iff_of_false List.not_mem_nil ?_
      rintro ⟨path, found, -⟩
      cases path <;> cases found
  | file bytes =>
      have below : ∀ path, (Node.file bytes).read path = some member.2 ↔
          path = [] ∧ member.2 = bytes := by
        intro path
        cases path with
        | nil => exact ⟨fun found => ⟨rfl, (Option.some.inj found).symm⟩, fun both => by
            rw [both.2]
            rfl⟩
        | cons child rest => exact iff_of_false (fun absent => nomatch absent) (by simp)
      simp only [below, and_assoc, exists_eq_left]
      rw [addPathToZip]
      change _ ↔ member.2 = bytes ∧ member.1 = name ∧ Text.contains name ".." = false
      split
      · next dots =>
          exact iff_of_false List.not_mem_nil fun all => Bool.noConfusion (dots.symm.trans all.2.2)
      · rw [mem_addFileToZip, Prod.ext_iff]
        tauto
  | @dir entries distinct named entriesSound ih =>
      rw [addPathToZip]
      constructor
      · intro inside
        split at inside
        · exact (List.not_mem_nil inside).elim
        · rw [addEntriesToZip_eq] at inside
          obtain ⟨entry, listed, inside⟩ := List.mem_flatMap.mp inside
          obtain ⟨path, found, spelt, apart⟩ := (ih entry listed).mp inside
          refine ⟨entry.1 :: path, ?_, spelt, apart⟩
          rw [Node.read, (mem_lookup_iff distinct).mpr listed]
          exact found
      · rintro ⟨path, found, spelt, apart⟩
        rw [if_neg (Bool.not_eq_true _ ▸ contains_dots_of_joined apart), addEntriesToZip_eq]
        cases path with
        | nil => cases found
        | cons child rest =>
            obtain ⟨node, listed, found⟩ := Option.bind_eq_some_iff.mp found
            have listed := (mem_lookup_iff distinct).mp listed
            exact List.mem_flatMap.mpr ⟨_, listed, (ih _ listed).mpr ⟨rest, found, spelt, apart⟩⟩

theorem Node.Sound.named_of_read (sound : node.Sound) (found : node.read path = some bytes) :
    ∀ child ∈ path, IsEntryName child := by
  induction sound generalizing path with
  | file | other =>
      cases path with
      | nil => exact fun _ absent => (List.not_mem_nil absent).elim
      | cons child rest => cases found
  | dir distinct named entriesSound ih =>
      cases path with
      | nil => exact fun _ absent => (List.not_mem_nil absent).elim
      | cons child rest =>
          obtain ⟨node, listed, found⟩ := Option.bind_eq_some_iff.mp found
          have listed := (mem_lookup_iff distinct).mp listed
          intro other inside
          rcases List.mem_cons.mp inside with rfl | below
          · exact named _ listed
          · exact ih _ listed found other below

end Names

/-! ## What a restore accepts -/

section Restores

variable [Crates]

/-- Members found under their names are verified exactly where the names are safe and the sizes
within the ceilings. -/
theorem verifyMembers_listed_iff {entries : List ZipEntry} {list : List Member} {consumed : Nat}
    {members verified : BundleMembers}
    (found : ∀ member ∈ list, entries.find? (·.name = member.1) = some (asEntry member))
    (distinct : (list.map Prod.fst).Nodup) (fresh : ∀ member ∈ list, members.get member.1 = none)
    (room : consumed ≤ recoveryZipTotalUncompressedMaxBytes) :
    verifyMembers entries (list.map listed) consumed members = .ok verified ↔
      (∀ member ∈ list, validateBackupMemberName member.1 = .ok ⟨⟩ ∧
        member.2.length ≤ recoveryZipMemberUncompressedMaxBytes) ∧
      consumed + (list.map (·.2.length)).sum ≤ recoveryZipTotalUncompressedMaxBytes ∧
      (list.map readAs).foldl Table.insert members = verified := by
  induction list generalizing consumed members with
  | nil =>
      change Except.ok members = .ok verified ↔ _
      simp [room]
  | cons member rest ih =>
      obtain ⟨apart, distinct⟩ := List.nodup_cons.mp distinct
      have next := @ih (consumed + member.2.length) (members.insert (readAs member))
        (fun other inside => found other (List.mem_cons_of_mem member inside)) distinct
        (fun other inside => by
          have other_ : other.1 ≠ member.1 := fun same =>
            apart (same ▸ List.mem_map_of_mem inside)
          rw [Table.get_insert, if_neg (show other.1 ≠ (readAs member).name from other_)]
          exact fresh other (List.mem_cons_of_mem member inside))
      rw [List.forall_mem_cons, List.map_cons, List.map_cons, List.map_cons, List.sum_cons,
        List.foldl_cons, ← Nat.add_assoc]
      constructor
      · intro ran
        obtain ⟨valid, ran⟩ := check_bind_eq_ok_iff.mp ran
        rw [show (listed member).name = member.1 from rfl,
          found member List.mem_cons_self] at ran
        obtain ⟨⟨bytes, total⟩, read, ran⟩ := bind_eq_ok_iff.mp ran
        obtain ⟨-, ran⟩ := check_bind_eq_ok_iff.mp ran
        obtain ⟨-, ran⟩ := check_bind_eq_ok_iff.mp ran
        obtain ⟨same, small, rfl, roomy⟩ := readZipMemberBounded_eq_ok_iff.mp read
        obtain rfl := Option.some.inj same
        obtain ⟨each, within, made⟩ := (next roomy).mp ran
        exact ⟨⟨⟨valid, small⟩, each⟩, within, made⟩
      · rintro ⟨⟨⟨valid, small⟩, each⟩, within, made⟩
        have roomy : consumed + member.2.length ≤ recoveryZipTotalUncompressedMaxBytes :=
          (Nat.le_add_right _ _).trans within
        have read : readZipMemberBounded (listed member).name (asEntry member).content consumed
            .badBackup = .ok (member.2, consumed + member.2.length) :=
          readZipMemberBounded_eq_ok_iff.mpr ⟨rfl, small, rfl, roomy⟩
        rw [verifyMembers_cons valid (found member List.mem_cons_self) read rfl
          (fresh member List.mem_cons_self)]
        exact (next roomy).mpr ⟨each, within, made⟩

omit [Crates] in
theorem find?_asEntry {list : List Member} (distinct : (list.map Prod.fst).Nodup) {member : Member}
    (inside : member ∈ list) :
    (list.map asEntry).find? (·.name = member.1) = some (asEntry member) := by
  rw [List.find?_map]
  cases found : list.find? ((fun entry : ZipEntry => decide (entry.name = member.1)) ∘ asEntry) with
  | none => exact absurd rfl (of_decide_eq_false
      (Bool.eq_false_of_not_eq_true (List.find?_eq_none.mp found member inside)))
  | some other =>
      have same : other.1 = member.1 :=
        of_decide_eq_true (List.find?_some (p := _ ∘ asEntry) found)
      rw [List.inj_on_of_nodup_map distinct (List.mem_of_find?_eq_some found) inside same,
        Option.map_some]

variable [Bundle.Writer] [ZipCrate] [SnapshotCrates]

/-- What the crates write they read back: members of different names by `zip`, the manifest by
`serde_json`. An archive begins with the signature of a zip. -/
structure ReadsBackup (manifest : WrittenManifest) (bytes : List UInt8) : Prop where
  members : ∀ list, writeZip list = .ok bytes →
    (list.map Prod.fst).Nodup ∧ readZip bytes = .ok (list.map asEntry)
  manifest : ∀ json, serialize { manifest with bytes := 0 } = some json →
    readBackupManifest (prettyJson json) = .ok manifest.toBackupManifest
  signature : isEncryptedBackup bytes = false

section Packed

variable {source : String → Option Node} {sidecars : List String}

def fileAt (source : String → Option Node) (sidecars : List String) :
    List String → Option (List UInt8)
  | [] => none
  | root :: path =>
      if root ∈ sidecars ∧ Text.contains (joined root path) ".." = false then
        (source root).bind (·.read path)
      else none

omit [Crates] [Bundle.Writer] [ZipCrate] [SnapshotCrates] in
theorem mem_backupMembers {snapshot : List UInt8} {member : Member}
    (sound : ∀ name ∈ sidecars, ∀ node ∈ source name, node.Sound) :
    member ∈ backupMembers snapshot source sidecars ↔ member = (dbFile, snapshot) ∨
      ∃ root path, fileAt source sidecars (root :: path) = some member.2 ∧
        member.1 = joined root path := by
  rw [backupMembers, List.mem_append, mem_addFileToZip,
    and_iff_left (show Text.contains dbFile ".." = false by decide), List.mem_flatMap]
  refine or_congr_right ⟨?_, ?_⟩
  · rintro ⟨root, inside, packed⟩
    cases shown : source root with
    | none =>
        rw [shown] at packed
        exact (List.not_mem_nil packed).elim
    | some node =>
        rw [shown] at packed
        obtain ⟨path, found, spelt, apart⟩ :=
          (mem_addPathToZip (sound root inside node shown)).mp packed
        refine ⟨root, path, ?_, spelt⟩
        rw [fileAt, if_pos ⟨inside, apart⟩, shown]
        exact found
  · rintro ⟨root, path, found, spelt⟩
    rw [fileAt] at found
    split at found
    · next kept =>
        obtain ⟨node, shown, found⟩ := Option.bind_eq_some_iff.mp found
        refine ⟨root, kept.1, ?_⟩
        rw [shown]
        exact (mem_addPathToZip (sound root kept.1 node shown)).mpr ⟨path, found, spelt, kept.2⟩
    · cases found

instance : DecidablePred IsEntryName := fun _ => inferInstanceAs (Decidable (_ ∧ _))

omit [Crates] [Bundle.Writer] [ZipCrate] [SnapshotCrates] in
theorem named_of_sidecar {name : String} (known : name ∈ instanceSidecarNames) :
    IsEntryName name ∧ name ≠ dbFile ∧ name ≠ "manifest.json" ∧ name ≠ walFile ∧ name ≠ shmFile :=
  have all : ∀ name ∈ instanceSidecarNames, IsEntryName name ∧ name ≠ dbFile ∧
    name ≠ "manifest.json" ∧ name ≠ walFile ∧ name ≠ shmFile := by decide
  all name known

omit [Crates] [Bundle.Writer] [ZipCrate] [SnapshotCrates] in
theorem named_of_fileAt {root : String} {path : List String} {bytes : List UInt8}
    (sound : ∀ name ∈ sidecars, ∀ node ∈ source name, node.Sound)
    (found : fileAt source sidecars (root :: path) = some bytes) :
    root ∈ sidecars ∧ ∀ child ∈ path, IsEntryName child := by
  rw [fileAt] at found
  split at found
  · next kept =>
      obtain ⟨node, shown, found⟩ := Option.bind_eq_some_iff.mp found
      exact ⟨kept.1, (sound root kept.1 node shown).named_of_read found⟩
  · cases found

/-- The backups a restore accepts: no name holds a backslash, sizes and number stay below the
ceilings, and the snapshot is sound. -/
structure Restorable (snapshot : List UInt8) (members : List Member) (manifest : List UInt8) :
    Prop where
  count : members.length < recoveryZipMaxMembers
  listing : manifest.length ≤ recoveryZipMemberUncompressedMaxBytes
  each : ∀ member ∈ members, '\\' ∉ member.1.toList ∧
    member.2.length ≤ recoveryZipMemberUncompressedMaxBytes
  total : manifest.length + (members.map (·.2.length)).sum ≤ recoveryZipTotalUncompressedMaxBytes
  sound : SoundAlone snapshot

def closed (members : List Member) (text : List UInt8) : List Member :=
  members ++ [("manifest.json", text)]

/-- A backup as it was written. -/
structure Written (around : BackupSurroundings) (source : String → Option Node)
    (sidecars : List String) (manifest : WrittenManifest) (bytes snapshot text : List UInt8) :
    Prop where
  taken : around.snapshot = .ok snapshot
  files : manifest.files = (backupMembers snapshot source sidecars).map listed
  distinct : ((closed (backupMembers snapshot source sidecars) text).map Prod.fst).Nodup
  zipped : readZip bytes = .ok ((closed (backupMembers snapshot source sidecars) text).map asEntry)
  embedded : readBackupManifest text = .ok manifest.toBackupManifest

variable {around : BackupSurroundings} {manifest : WrittenManifest}
  {bytes snapshot text : List UInt8}

theorem exists_written (ran : backup around source sidecars = .ok (manifest, bytes))
    (back : ReadsBackup manifest bytes) :
    ∃ snapshot loaded json, around.loaded = .ok loaded ∧
      serialize { manifest with bytes := 0 } = some json ∧
      manifest.ledgerVerified = (Ledger.verify ⟨loaded.events⟩).toBool ∧
      Written around source sidecars manifest bytes snapshot (prettyJson json) := by
  rw [backup] at ran
  split at ran
  · cases ran
  · cases made : archive around source sidecars with
    | error fault =>
        rw [made] at ran
        cases ran
    | ok both =>
        rw [made] at ran
        obtain rfl := Except.ok.inj ran
        obtain ⟨snapshot, taken, made⟩ := bind_eq_ok_iff.mp made
        obtain ⟨loaded, load, made⟩ := bind_eq_ok_iff.mp made
        dsimp only at made
        split at made
        · cases made
        · next json spelt =>
            split at made
            · cases made
            · next zip zipped =>
                obtain ⟨rfl, rfl⟩ := Prod.mk.inj (Except.ok.inj made)
                obtain ⟨distinct, read⟩ := back.members _ zipped
                exact ⟨snapshot, loaded, json, load, spelt, rfl,
                  ⟨taken, rfl, distinct, read, back.manifest json spelt⟩⟩

omit [Bundle.Writer] in
theorem Written.names (written : Written around source sidecars manifest bytes snapshot text) :
    ((backupMembers snapshot source sidecars).map Prod.fst).Nodup := by
  have distinct := written.distinct
  rw [closed, List.map_append] at distinct
  exact distinct.of_append_left

omit [Bundle.Writer] in
theorem Written.keys (written : Written around source sidecars manifest bytes snapshot text) :
    (((backupMembers snapshot source sidecars).map readAs).map BundleMember.name).Nodup := by
  rw [List.map_map]
  exact written.names

omit [Bundle.Writer] in
theorem Written.readBackup_iff
    (written : Written around source sidecars manifest bytes snapshot text)
    {entries : List ZipEntry} {declared : BackupManifest} {consumed : Nat} :
    readBackup bytes = .ok (entries, declared, consumed) ↔
      (backupMembers snapshot source sidecars).length < recoveryZipMaxMembers ∧
        text.length ≤ recoveryZipMemberUncompressedMaxBytes ∧
        (closed (backupMembers snapshot source sidecars) text).map asEntry = entries ∧
        manifest.toBackupManifest = declared ∧ text.length = consumed := by
  have listing := find?_asEntry written.distinct (List.mem_append_right _
    (List.mem_singleton_self ("manifest.json", text)))
  have counted : ((closed (backupMembers snapshot source sidecars) text).map asEntry).length =
      (backupMembers snapshot source sidecars).length + 1 := by
    rw [List.length_map, closed, List.length_append, List.length_singleton]
  rw [readBackup, written.zipped]
  constructor
  · intro read
    obtain ⟨count, read⟩ := check_bind_eq_ok_iff.mp read
    rw [listing] at read
    obtain ⟨⟨listing, total⟩, inflated, read⟩ := bind_eq_ok_iff.mp read
    obtain ⟨same, small, rfl, -⟩ := readZipMemberBounded_eq_ok_iff.mp inflated
    obtain rfl := Option.some.inj same
    dsimp only at read
    rw [written.embedded] at read
    obtain ⟨-, read⟩ := check_bind_eq_ok_iff.mp read
    have parts := Except.ok.inj read
    simp only [Prod.mk.injEq, Nat.zero_add] at parts
    rw [rejectIf_eq_ok_iff, counted] at count
    exact ⟨by omega, small, parts⟩
  · rintro ⟨count, small, rfl, rfl, rfl⟩
    have inflated : readZipMemberBounded "manifest.json" (some text) 0 StoreError.badBackup =
        .ok (text, text.length) := readZipMemberBounded_eq_ok_iff.mpr
      ⟨rfl, small, (Nat.zero_add _).symm, small.trans (by decide)⟩
    refine check_bind_eq_ok_iff.mpr ⟨rejectIf_eq_ok_iff.mpr (by rw [counted]; omega), ?_⟩
    rw [listing]
    refine bind_eq_ok_iff.mpr ⟨_, inflated, ?_⟩
    dsimp only
    rw [written.embedded]
    refine check_bind_eq_ok_iff.mpr ⟨rejectIf_eq_ok_iff.mpr ?_, rfl⟩
    rw [written.files, List.length_map]
    omega

omit [Bundle.Writer] in
theorem Written.accepts_iff (written : Written around source sidecars manifest bytes snapshot text)
    {declared : BackupManifest} {members : BundleMembers} {database : List UInt8} :
    Accepts bytes declared members database ↔
      ((backupMembers snapshot source sidecars).length < recoveryZipMaxMembers ∧
        text.length ≤ recoveryZipMemberUncompressedMaxBytes ∧
        (∀ member ∈ backupMembers snapshot source sidecars,
          validateBackupMemberName member.1 = .ok ⟨⟩ ∧
            member.2.length ≤ recoveryZipMemberUncompressedMaxBytes) ∧
        text.length + ((backupMembers snapshot source sidecars).map (·.2.length)).sum ≤
          recoveryZipTotalUncompressedMaxBytes) ∧
      manifest.toBackupManifest = declared ∧
        .fromIter ((backupMembers snapshot source sidecars).map readAs) = members ∧
        snapshot = database := by
  have verified := fun room => @verifyMembers_listed_iff _ _
    (backupMembers snapshot source sidecars) text.length .empty members
    (fun member inside => find?_asEntry written.distinct (List.mem_append_left _ inside))
    written.names (fun _ _ => Table.get_empty) room
  have database_ : ∀ {held}, snapshotOf (.fromIter ((backupMembers snapshot source sidecars).map
      readAs)) = .ok held ↔ snapshot = held := by
    intro held
    have here : (dbFile, snapshot) ∈ backupMembers snapshot source sidecars :=
      List.mem_append_left _ (mem_addFileToZip.mpr ⟨rfl, by decide⟩)
    have found := Table.get_fromIter_of_mem written.keys (List.mem_map_of_mem here)
    rw [snapshotOf, show Table.get _ dbFile = _ from found]
    exact ⟨fun same => Except.ok.inj same, fun same => congrArg Except.ok same⟩
  constructor
  · rintro ⟨entries, consumed, read, ran, found⟩
    obtain ⟨count, small, rfl, rfl, rfl⟩ := written.readBackup_iff.mp read
    rw [written.files] at ran
    obtain ⟨each, total, rfl⟩ := (verified (small.trans (by decide))).mp ran
    exact ⟨⟨count, small, each, total⟩, rfl, rfl, database_.mp found⟩
  · rintro ⟨⟨count, small, each, total⟩, rfl, rfl, rfl⟩
    refine ⟨_, _, written.readBackup_iff.mpr ⟨count, small, rfl, rfl, rfl⟩, ?_, database_.mpr rfl⟩
    rw [written.files]
    exact (verified (small.trans (by decide))).mpr ⟨each, total, rfl⟩

/-! ## What a restore leaves -/

/-- The data directory with the files that were packed in the place of what stood at the paths of
the sidecars, and the snapshot alone in the place of the database. -/
def recovered (dir : DataDir) (source : String → Option Node) (sidecars : List String)
    (database : List UInt8) : DataDir
  | [] => dir []
  | root :: rest =>
      if root ∈ sidecars then fileAt source sidecars (root :: rest)
      else if root :: rest = [dbFile] then some database
      else if root :: rest = [walFile] ∨ root :: rest = [shmFile] then none
      else dir (root :: rest)

omit [Crates] [Bundle.Writer] [ZipCrate] [SnapshotCrates] in
theorem DataDir.foldl_removePathIfExists_apply (names : List String) (dir : DataDir)
    (path : List String) :
    names.foldl (fun dir name => dir.removePathIfExists [name]) dir path =
      if ∃ name ∈ names, [name] <+: path then none else dir path := by
  induction names generalizing dir with
  | nil => exact (if_neg fun ⟨name, absent, _⟩ => List.not_mem_nil absent).symm
  | cons name rest ih =>
      rw [List.foldl_cons, ih, removePathIfExists]
      simp only [List.mem_cons, exists_eq_or_imp]
      by_cases here : [name] <+: path
      · simp only [here, true_or, if_true, ite_self]
      · simp only [here, false_or, if_false]

section Swapped

variable {roots : List String} {files : Table StagedFile.path}

omit [Crates] [Bundle.Writer] [ZipCrate] [SnapshotCrates] in
theorem Stages.get_eq_fileAt
    (stages : Stages ((backupMembers snapshot source sidecars).map readAs).reverse roots files)
    (known : ∀ name ∈ sidecars, name ∈ instanceSidecarNames)
    (sound : ∀ name ∈ sidecars, ∀ node ∈ source name, node.Sound) (path : List String) :
    (files.get path).map (·.bytes) = fileAt source sidecars path := by
  have spelt : ∀ {root rest bytes}, fileAt source sidecars (root :: rest) = some bytes →
      pathComponents (joined root rest) = root :: rest := by
    intro root rest bytes found
    obtain ⟨inside, clean⟩ := named_of_fileAt sound found
    exact pathComponents_joined (named_of_sidecar (known root inside)).1 clean
  have back : ∀ path file, files.get path = some file →
      fileAt source sidecars path = some file.bytes := by
    intro path file found
    obtain ⟨member, listed, aside, located, same, -⟩ :=
      stages.carried file (Table.mem_values_of_get found)
    obtain ⟨packed, inside, rfl⟩ := List.mem_map.mp (List.mem_reverse.mp listed)
    rcases (mem_backupMembers sound).mp inside with rfl | ⟨root, rest, there, name⟩
    · exact (aside.1 rfl).elim
    · rw [show (readAs packed).name = joined root rest from name, spelt there,
        Table.key_of_get found] at located
      rw [← located, there, ← same]
      rfl
  cases there : fileAt source sidecars path with
  | none =>
      cases found : files.get path with
      | none => rfl
      | some file => cases there.symm.trans (back path file found)
  | some bytes =>
      cases path with
      | nil => cases there
      | cons root rest =>
          have inside : (joined root rest, bytes) ∈ backupMembers snapshot source sidecars :=
            (mem_backupMembers sound).mpr (.inr ⟨root, rest, there, rfl⟩)
          have apart := named_of_sidecar (known root (named_of_fileAt sound there).1)
          have aside : Aside (readAs (joined root rest, bytes)) := by
            constructor
            · intro same
              have parts := spelt there
              rw [show joined root rest = dbFile from same] at parts
              exact apart.2.1 (List.cons.inj ((by decide : [dbFile] = _).trans parts)).1.symm
            · intro same
              have parts := spelt there
              rw [show joined root rest = "manifest.json" from same] at parts
              exact apart.2.2.1
                (List.cons.inj ((by decide : ["manifest.json"] = _).trans parts)).1.symm
          obtain ⟨file, found⟩ := stages.complete _
            (List.mem_reverse.mpr (List.mem_map_of_mem inside)) aside
          have found : files.get (root :: rest) = some file := spelt there ▸ found
          rw [found, Option.map_some, ← back _ file found, there]

omit [Crates] [Bundle.Writer] [ZipCrate] [SnapshotCrates] in
theorem swap_eq_recovered {staged : StagedRestore}
    (stages : Stages ((backupMembers snapshot source sidecars).map readAs).reverse staged.roots
      staged.files)
    (known : ∀ name ∈ sidecars, name ∈ instanceSidecarNames)
    (sound : ∀ name ∈ sidecars, ∀ node ∈ source name, node.Sound) (dir : DataDir) :
    swap dir staged sidecars = recovered dir source sidecars staged.database := by
  have same := stages.get_eq_fileAt known sound
  funext path
  rw [swap, replaceLiveSidecars, foldl_replaceRoot, DataDir.foldl_removePathIfExists_apply]
  cases path with
  | nil => simp [recovered, DataDir.write, DataDir.removeFile]
  | cons root rest =>
      have below : ∀ name, [name] <+: root :: rest ↔ name = root := fun name => by
        rw [List.cons_prefix_cons, and_iff_left List.nil_prefix]
      simp only [below, exists_eq_right, exists_eq_right_right]
      rw [recovered]
      by_cases inside : root ∈ sidecars
      · rw [if_pos inside, if_pos inside, same]
        cases there : fileAt source sidecars (root :: rest) with
        | none => exact ite_self none
        | some bytes =>
            have found := same (root :: rest)
            rw [there] at found
            obtain ⟨file, found, -⟩ := Option.map_eq_some_iff.mp found
            have listed := Table.mem_values_of_get found
            have path := Table.key_of_get found
            obtain ⟨first, rooted, head⟩ := stages.rooted file listed
            rw [path] at head
            obtain rfl := Option.some.inj head
            have apart := named_of_sidecar (known root inside)
            refine if_pos ⟨mem_foldl_insert_of_mem sidecars rooted, ?_⟩
            simp only [moves, apart.1.1, apart.2.1, ne_eq, not_false_eq_true, decide_true,
              Bool.true_and, List.any_eq_true]
            exact ⟨file, listed, List.isPrefixOf_iff_prefix.mpr (path ▸ (below root).mpr rfl)⟩
      · rw [if_neg inside, if_neg inside, if_neg]
        · simp only [DataDir.write, DataDir.removeFile]
          by_cases database : root :: rest = [dbFile]
          · rw [if_pos database, if_pos database]
          · rw [if_neg database, if_neg database, if_neg database]
            by_cases wal : root :: rest = [walFile]
            · rw [if_pos wal, if_pos (Or.inl wal), ite_self]
            · rw [if_neg wal]
              simp only [wal, false_or]
        · rintro ⟨-, moved⟩
          rw [moves, Bool.and_eq_true, List.any_eq_true] at moved
          obtain ⟨-, file, listed, starts⟩ := moved
          obtain ⟨more, path⟩ := List.isPrefixOf_iff_prefix.mp starts
          have found := same file.path
          rw [Table.mem_values.mp listed, ← path] at found
          exact inside (named_of_fileAt sound found.symm).1

end Swapped

omit [Bundle.Writer] [ZipCrate] [SnapshotCrates] in
theorem validate_backupMembers_iff
    (known : ∀ name ∈ sidecars, name ∈ instanceSidecarNames)
    (sound : ∀ name ∈ sidecars, ∀ node ∈ source name, node.Sound) {member : Member}
    (inside : member ∈ backupMembers snapshot source sidecars) :
    validateBackupMemberName member.1 = .ok ⟨⟩ ↔ '\\' ∉ member.1.toList := by
  rcases (mem_backupMembers sound).mp inside with rfl | ⟨root, path, found, spelt⟩
  · have valid : validateBackupMemberName dbFile = .ok ⟨⟩ := rejectIf_eq_ok_iff.mpr (by decide)
    exact iff_of_true valid (show '\\' ∉ dbFile.toList by decide)
  · obtain ⟨packed, clean⟩ := named_of_fileAt sound found
    rw [spelt]
    exact validate_joined_iff (named_of_sidecar (known root packed)).1 clean

/-- **Backups are restored.** A restore accepts the archive of a backup exactly where no name
holds a backslash, number and sizes stay below the ceilings and the snapshot is sound; the
manifest then said that the ledger verified, if the snapshot holds what was loaded. What it puts
into any data directory are the files that were packed, at the paths they were packed from, and
the snapshot; the other paths it leaves as they are. -/
theorem restores_backup (known : ∀ name ∈ sidecars, name ∈ instanceSidecarNames)
    (sound : ∀ name ∈ sidecars, ∀ node ∈ source name, node.Sound)
    (ran : backup around source sidecars = .ok (manifest, bytes))
    (back : ReadsBackup manifest bytes) :
    ∃ snapshot loaded json, around.snapshot = .ok snapshot ∧ around.loaded = .ok loaded ∧
      serialize { manifest with bytes := 0 } = some json ∧
      ((∃ staged, restore bytes none = .ok staged) ↔
        Restorable snapshot (backupMembers snapshot source sidecars) (prettyJson json)) ∧
      (∀ state, openSnapshot snapshot [] = .ok (.ok state) → state.events = loaded.events →
        (∃ staged, restore bytes none = .ok staged) → manifest.ledgerVerified = true) ∧
      ∀ staged, restore bytes none = .ok staged → sanitizeSnapshot snapshot = .ok staged.database ∧
        ∀ dir, swap dir staged sidecars = recovered dir source sidecars staged.database := by
  obtain ⟨snapshot, loaded, json, load, spelt, said, written⟩ := exists_written ran back
  have plain : restore bytes none = restoreFromVerifiedZipBytes bytes := by
    rw [restore, back.signature]
    rfl
  have accepted : (∃ staged, restore bytes none = .ok staged) ↔
      Restorable snapshot (backupMembers snapshot source sidecars) (prettyJson json) := by
    rw [plain, restoreFromVerifiedZipBytes_ok_iff]
    simp only [written.accepts_iff]
    constructor
    · rintro ⟨_, _, _, ⟨⟨count, listing, each, total⟩, rfl, rfl, rfl⟩, alone⟩
      exact ⟨count, listing, fun member inside => ⟨(validate_backupMembers_iff known sound
        inside).mp (each member inside).1, (each member inside).2⟩, total, alone⟩
    · rintro ⟨count, listing, each, total, alone⟩
      exact ⟨_, _, _, ⟨⟨count, listing, fun member inside => ⟨(validate_backupMembers_iff known
        sound inside).mpr (each member inside).1, (each member inside).2⟩, total⟩, rfl, rfl, rfl⟩,
        alone⟩
  refine ⟨snapshot, loaded, json, written.taken, load, spelt, accepted, ?_, ?_⟩
  · intro state opened same restored
    obtain ⟨other, total, sanitized, again, verified, -⟩ := (accepted.mp restored).sound
    obtain rfl := Except.ok.inj (Except.ok.inj (again.symm.trans opened))
    rw [said, ← same, verified]
    rfl
  · intro staged restored
    rw [plain, restoreFromVerifiedZipBytes_eq_ok_iff] at restored
    obtain ⟨_, _, _, state, total, accepts, -, -, sanitized, carried⟩ := restored
    obtain ⟨-, -, rfl, rfl⟩ := written.accepts_iff.mp accepts
    have stages := stages_of_stageBackupSidecars carried
    rw [Table.values_fromIter written.keys] at stages
    exact ⟨sanitized, swap_eq_recovered stages known sound⟩

end Packed

end Restores

namespace OneLaw

open scoped Reference

def source (name : String) : Option Node :=
  if name = "laws" then some (.dir [("a.json", .file [5]), ("b..json", .file [6])]) else none

def around : BackupSurroundings where
  database := some "data/chancela.db"
  finalPath := "data/backups/chancela-backup.zip"
  createdAt := ⟨2026, 1, 1, 0, 0, 0, 0, 0⟩
  appVersion := "0.1.0"
  storeSchemaVersion := 1
  snapshot := .ok [2]
  loaded := .ok ⟨singleLink, 0, 0, 0⟩

def members : List Member := [(dbFile, [2]), ("laws/a.json", [5])]

def written : WrittenManifest :=
  { embeddedManifest around ⟨singleLink, 0, 0, 0⟩ members with bytes := 4 }

scoped instance writer : Bundle.Writer where
  prettyJson _ := [1]
  prettyBook _ := none
  prettyAct _ := none
  eventText _ := none
  readBook _ := .error "EOF while parsing a value"

/-- An archive is taken for the members written to it. -/
scoped instance zipCrate : ZipCrate where
  readZip _ := .ok ((closed members [1]).map asEntry)
  writeZip list :=
    if list = closed members [1] then .ok [0x50, 0x4B, 3, 4] else .error "not written here"

scoped instance snapshotCrates : SnapshotCrates where
  readBackupManifest _ := .ok written.toBackupManifest
  openEnvelope _ _ := .error "encrypted backup could not be authenticated or decrypted"
  openSnapshot _ _ := .ok (.ok ⟨singleLink, 0, 0, 0⟩)
  sanitizeSnapshot bytes := .ok bytes

theorem sound : ∀ name ∈ ["settings.json", "laws"], ∀ node ∈ source name, node.Sound := by
  intro name _ node shown
  unfold source at shown
  split at shown
  · obtain rfl := Option.some.inj shown
    refine .dir (by decide) (by decide) fun entry listed => ?_
    simp only [List.mem_cons, List.not_mem_nil, or_false] at listed
    rcases listed with rfl | rfl <;> exact .file _
  · cases shown

theorem ran : backup around source ["settings.json", "laws"] =
    .ok (written, [0x50, 0x4B, 3, 4]) := by
  rfl

theorem reads : ReadsBackup written [0x50, 0x4B, 3, 4] := by
  refine ⟨fun list zipped => ?_, fun _ _ => rfl, by decide⟩
  unfold writeZip zipCrate at zipped
  dsimp only at zipped
  split at zipped
  · next same =>
      subst same
      exact ⟨by decide, rfl⟩
  · cases zipped

theorem restores_laws :
    ∃ staged, restore [0x50, 0x4B, 3, 4] none = .ok staged ∧ ∀ dir,
      swap dir staged ["settings.json", "laws"] ["laws", "a.json"] = some [5] ∧
      swap dir staged ["settings.json", "laws"] ["laws", "b..json"] = none := by
  obtain ⟨snapshot, loaded, json, taken, load, spelt, accepted, -, left⟩ :=
    restores_backup (by decide) sound ran reads
  obtain rfl := Except.ok.inj taken
  have alone : SoundAlone [2] := by
    have verified : Ledger.verify ⟨singleLink⟩ = .ok 1 := by decide +kernel
    exact ⟨_, 1, [2], rfl, verified, rfl⟩
  obtain ⟨staged, restored⟩ := accepted.mpr
    ⟨by decide, show [(1 : UInt8)].length ≤ _ by decide, by decide,
      show [(1 : UInt8)].length + _ ≤ _ by decide, alone⟩
  refine ⟨staged, restored, fun dir => ⟨?_, ?_⟩⟩
  · rw [(left staged restored).2 dir]
    rfl
  · rw [(left staged restored).2 dir]
    rfl

end OneLaw

end Chancela.Restore
