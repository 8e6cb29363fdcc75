import Chancela.Foundation.Checked
import Chancela.Ledger.Agreement
import Chancela.Store.Bundle

/-! # The preflight of a restore

A whole-store backup is an archive with a snapshot of the database and the files beside
it, or an envelope that encrypts one. The preflight repeats the checks of a restore on a
copy, with three differences: it adds up the sizes that the manifest declares, it opens
the snapshot in the directory that holds the other members, and it asks the integrity
report where the restore asks `verify`. It foretells the restore exactly where these do
not matter (`Chancela.Restore.predicts_iff`). The store is the SQLite one, and no call of
`std::fs` fails.
-/

namespace Chancela

/-- `BackupManifest`, as far as a restore reads it. -/
structure BackupManifest where
  appVersion : String
  storeSchemaVersion : Int
  ledgerLength : Nat
  ledgerVerified : Bool
  files : List BackupFile
deriving DecidableEq

/-- `LoadedState`, as far as a preflight reads it. -/
structure SnapshotState where
  events : List Event
  entityCount : Nat
  bookCount : Nat
  actCount : Nat

/-- What is called in `serde_json`, in the ciphers and in SQLite. -/
class SnapshotCrates where
  /-- `from_slice::<BackupManifest>`, or the text of its error. -/
  readBackupManifest : List UInt8 → Except String BackupManifest
  /-- The envelope behind its magic, decrypted and authenticated, or why it is not. -/
  openEnvelope : List UInt8 → String → Except String (List UInt8)
  /-- A database file with the files beside it in its directory: opened, and loaded. -/
  openSnapshot : List UInt8 → List BundleMember → Except String (Except String SnapshotState)
  /-- The search projection cleared, and the file compacted. -/
  sanitizeSnapshot : List UInt8 → Except String (List UInt8)

namespace Restore

open Outcome SnapshotCrates

def backupEnvelopeMagic : List UInt8 := Text.utf8 "chancela-backup-envelope/v1\n"

def dbFile : String := "chancela.db"

def isEncryptedBackup (bytes : List UInt8) : Bool := backupEnvelopeMagic.isPrefixOf bytes

/-- The components of a relative path: empty ones and `.` are dropped. -/
def pathComponents (name : String) : List String :=
  (Text.split name '/').filter fun component => component ≠ "" ∧ component ≠ "."

section Checks

variable [Crates]

/-- `validate_backup_member_name`: a relative path of normal components. -/
def validateBackupMemberName (name : String) : Except StoreError Unit :=
  rejectIf (name = "" ∨ '\\' ∈ name.toList ∨ name.toList.head? = some '/' ∨
      (Text.split name '/').head? = some "." ∨ ".." ∈ Text.split name '/' ∨
      pathComponents name = [])
    (.badBackup ("unsafe archive member name " ++ debugStr name))

/-- A file of a directory. -/
structure StagedFile where
  path : List String
  bytes : List UInt8

/-- One turn of the loop of `stage_backup_sidecars`. -/
def stageMember (staged : List String × Table StagedFile.path) (member : BundleMember) :
    Except StoreError (List String × Table StagedFile.path) :=
  if member.name = dbFile ∨ member.name = "manifest.json" then .ok staged
  else do
    validateBackupMemberName member.name
    match pathComponents member.name with
    | [] => .error (.badBackup ("unsafe archive member name " ++ debugStr member.name))
    | root :: rest =>
        .ok (staged.1.insert root, staged.2.insert ⟨root :: rest, member.bytes⟩)

/-- `stage_backup_sidecars`: the roots, and the files under them. -/
def stageBackupSidecars (members : BundleMembers) :
    Except StoreError (List String × Table StagedFile.path) :=
  (members.values.mergeSort (·.name ≤ ·.name)).foldlM stageMember ([], .empty)

def verifyMembers (entries : List ZipEntry) :
    List BackupFile → Nat → BundleMembers → Except StoreError BundleMembers
  | [], _, members => .ok members
  | file :: rest, consumed, members => do
      validateBackupMemberName file.name
      match entries.find? (·.name = file.name) with
      | none => .error (.badBackup ("archive missing member " ++ file.name))
      | some entry => do
          let (bytes, consumed) ← readZipMemberBounded file.name entry.content consumed .badBackup
          rejectIf (sha256Hex bytes ≠ file.sha256)
            (.badBackup s!"member {file.name} digest mismatch")
          rejectIf (members.get file.name).isSome
            (.badBackup ("manifest lists duplicate member " ++ file.name))
          verifyMembers entries rest consumed (members.insert ⟨file.name, bytes⟩)

def snapshotOf (members : BundleMembers) : Except StoreError (List UInt8) :=
  match members.get dbFile with
  | none => .error (.badBackup ("archive has no " ++ dbFile))
  | some member => .ok member.bytes

variable [ZipCrate] [SnapshotCrates]

/-- The archive and its manifest, with what has been inflated. Preflight and restore read
them by the same statements. -/
def readBackup (bytes : List UInt8) :
    Except StoreError (List ZipEntry × BackupManifest × Nat) :=
  match readZip bytes with
  | .error fault => .error (.badBackup ("not a readable zip: " ++ fault))
  | .ok entries => do
      rejectIf (recoveryZipMaxMembers < entries.length)
        (.badBackup (s!"backup has {entries.length} members, exceeding the " ++
          s!"{recoveryZipMaxMembers}-member limit"))
      match entries.find? (·.name = "manifest.json") with
      | none => .error (.badBackup "no manifest.json: specified file not found in archive")
      | some entry => do
          let (bytes, consumed) ← readZipMemberBounded "manifest.json" entry.content 0 .badBackup
          match readBackupManifest bytes with
          | .error fault => .error (.badBackup ("bad manifest: " ++ fault))
          | .ok manifest => do
              rejectIf (recoveryZipMaxMembers < manifest.files.length)
                (.badBackup (s!"backup manifest lists {manifest.files.length} members, " ++
                  s!"exceeding the {recoveryZipMaxMembers}-member limit"))
              return (entries, manifest, consumed)

/-- `decrypt_backup_envelope`, or the text of its `BadBackup`. -/
def decryptBackupEnvelope (bytes : List UInt8) (passphrase : String) :
    Except String (List UInt8) :=
  if passphrase = "" then .error "backup passphrase must not be empty"
  else if isEncryptedBackup bytes = false then
    .error "backup is not an encrypted Chancela envelope"
  else openEnvelope (bytes.drop backupEnvelopeMagic.length) passphrase

/-! ## The restore, up to its commit point -/

/-- What a restore has staged when it commits. -/
structure StagedRestore where
  database : List UInt8
  roots : List String
  files : Table StagedFile.path

/-- `restore_from_verified_zip_bytes`, before the live database is removed. -/
def restoreFromVerifiedZipBytes (bytes : List UInt8) : Except StoreError StagedRestore := do
  let (entries, manifest, consumed) ← readBackup bytes
  let members ← verifyMembers entries manifest.files consumed .empty
  let database ← snapshotOf members
  match openSnapshot database [] with
  | .error _ => .error .database
  | .ok (.error _) => .error .database
  | .ok (.ok state) =>
      match Ledger.verify ⟨state.events⟩ with
      | .error _ => .error (.badBackup
          "snapshot ledger does not verify — refusing to restore a broken backup")
      | .ok _ =>
          match sanitizeSnapshot database with
          | .error _ => .error .database
          | .ok sanitized => do
              let (roots, files) ← stageBackupSidecars members
              return ⟨sanitized, roots, files⟩

/-- `restore_with_sidecars` without a passphrase, `restore_encrypted_with_sidecars` with
one, before the live database is removed. -/
def restore (archiveBytes : List UInt8) : Option String → Except StoreError StagedRestore
  | none =>
      if isEncryptedBackup archiveBytes = true then
        .error (.badBackup "encrypted backup requires an explicit passphrase")
      else restoreFromVerifiedZipBytes archiveBytes
  | some passphrase =>
      match decryptBackupEnvelope archiveBytes passphrase with
      | .error message => .error (.badBackup message)
      | .ok bytes => restoreFromVerifiedZipBytes bytes

/-! ## The preflight -/

/-- `RestorePreflightManifestEvidence`. -/
structure ManifestEvidence where
  path : String
  schema : String
  version : Nat
  appVersion : String
  storeSchemaVersion : Int
  ledgerLength : Nat
  ledgerVerified : Bool
  memberCount : Nat
  sidecarMemberCount : Nat
  dbMemberPresent : Bool
  totalMemberBytes : Nat

/-- `RestorePreflightIsolatedRestoreEvidence`, of a directory that was removed. -/
structure IsolatedRestoreEvidence where
  ledgerLength : Nat
  ledgerVerified : Bool
  entityCount : Nat
  bookCount : Nat
  actCount : Nat
  sidecarRootCount : Nat
  sidecarMaterializedFileCount : Nat
  sidecarMaterializedBytes : Nat

/-- `RestorePreflightOutcome`. -/
structure PreflightOutcome where
  ok : Bool
  ready : Bool
  encrypted : Option Bool
  archive : String
  manifest : Option ManifestEvidence
  ledgerVerified : Bool
  isolatedRestore : Option IsolatedRestoreEvidence
  findings : List String
  errors : List String
  nextStep : String

def restorePreflightFailure (archive : String) (encrypted : Option Bool) (message : String) :
    PreflightOutcome where
  ok := false
  ready := false
  encrypted := encrypted
  archive := archive
  manifest := none
  ledgerVerified := false
  isolatedRestore := none
  findings := []
  errors := [message]
  nextStep := "fix the archive material or choose another backup before restoring"

/-- The sum of the declared sizes: `none` is a panic. -/
def declaredBytes (checks : OverflowChecks) (files : List BackupFile) : Option Nat :=
  files.foldlM (fun total file => Machine.add checks 64 total file.bytes.toNat) 0

def restorePreflightManifestEvidence (checks : OverflowChecks) (manifest : BackupManifest) :
    Option ManifestEvidence :=
  (declaredBytes checks manifest.files).map fun total => {
    path := "manifest.json"
    schema := "chancela-backup-manifest/v1"
    version := 1
    appVersion := manifest.appVersion
    storeSchemaVersion := manifest.storeSchemaVersion
    ledgerLength := manifest.ledgerLength
    ledgerVerified := manifest.ledgerVerified
    memberCount := manifest.files.length
    sidecarMemberCount := (manifest.files.filter (·.name ≠ dbFile)).length
    dbMemberPresent := manifest.files.any (·.name = dbFile)
    totalMemberBytes := total }

/-- The members beside the snapshot in the directory of the preflight. -/
def beside (members : BundleMembers) : List BundleMember :=
  members.values.filter fun member => member.name ≠ dbFile ∧ member.name ≠ "manifest.json"

variable [RecordParser]

def materializeIsolatedRestorePreflight (database : List UInt8) (members : BundleMembers) :
    Except StoreError IsolatedRestoreEvidence := do
  let (roots, files) ← stageBackupSidecars members
  match openSnapshot database (beside members) with
  | .error fault =>
      .error (.badBackup ("snapshot database could not be opened: " ++ fault))
  | .ok (.error fault) =>
      .error (.badBackup ("snapshot database could not be loaded: " ++ fault))
  | .ok (.ok state) => .ok {
      ledgerLength := state.events.length
      ledgerVerified := (Ledger.integrityReport ⟨state.events⟩).healthy
      entityCount := state.entityCount
      bookCount := state.bookCount
      actCount := state.actCount
      sidecarRootCount := roots.length
      sidecarMaterializedFileCount := files.values.length
      sidecarMaterializedBytes := (files.values.map (·.bytes.length)).sum }

/-- The end of `verify_restore_preflight_zip`. -/
def preflightVerdict (archive : String) (encrypted : Bool) (evidence : ManifestEvidence)
    (isolated : IsolatedRestoreEvidence) : PreflightOutcome :=
  let findings := [
    "archive structure is readable",
    "manifest.json parsed",
    s!"{evidence.memberCount} manifest-listed member(s) verified",
    s!"isolated restore materialized {isolated.sidecarRootCount} sidecar root(s) / " ++
      s!"{isolated.sidecarMaterializedFileCount} file(s)"] ++
    (if isolated.ledgerVerified then ["snapshot ledger verified from an isolated copy"]
      else []) ++
    ["isolated restore temp directory was removed"]
  { ok := isolated.ledgerVerified
    ready := isolated.ledgerVerified
    encrypted := some encrypted
    archive := archive
    manifest := some evidence
    ledgerVerified := isolated.ledgerVerified
    isolatedRestore := some isolated
    findings := findings
    errors := if isolated.ledgerVerified then []
      else ["snapshot ledger does not verify; refusing to restore a broken backup"]
    nextStep := if isolated.ledgerVerified then "restore can proceed"
      else "choose another backup or repair the source archive before restoring" }

/-- `verify_restore_preflight_zip`: `none` is a panic. -/
def verifyRestorePreflightZip (checks : OverflowChecks) (archive : String) (encrypted : Bool)
    (bytes : List UInt8) : Option (Except StoreError PreflightOutcome) :=
  match readBackup bytes with
  | .error fault => some (.error fault)
  | .ok (entries, manifest, consumed) =>
      (restorePreflightManifestEvidence checks manifest).map fun evidence => do
        let members ← verifyMembers entries manifest.files consumed .empty
        let database ← snapshotOf members
        let isolated ← materializeIsolatedRestorePreflight database members
        return preflightVerdict archive encrypted evidence isolated

/-- The preflight of a readable zip: a bad backup is a verdict. -/
def preflightZip (checks : OverflowChecks) (archive : String) (encrypted : Bool)
    (bytes : List UInt8) : Option (Except StoreError PreflightOutcome) :=
  (verifyRestorePreflightZip checks archive encrypted bytes).map fun
    | .ok outcome => .ok outcome
    | .error (.badBackup message) => .ok (restorePreflightFailure archive (some encrypted) message)
    | .error fault => .error fault

/-- `restore_preflight`: `none` is a panic. -/
def restorePreflight (checks : OverflowChecks) (archive : String) (archiveBytes : List UInt8)
    (passphrase : Option String) : Option (Except StoreError PreflightOutcome) :=
  if isEncryptedBackup archiveBytes = true then
    match passphrase with
    | none => some (.ok (restorePreflightFailure archive (some true)
        "encrypted backup requires an explicit passphrase"))
    | some passphrase =>
        match decryptBackupEnvelope archiveBytes passphrase with
        | .error message => some (.ok (restorePreflightFailure archive (some true) message))
        | .ok bytes => preflightZip checks archive true bytes
  else if passphrase.isSome then
    some (.ok (restorePreflightFailure archive (some false)
      "backup is not an encrypted Chancela envelope"))
  else preflightZip checks archive false archiveBytes

/-! ## What the two agree on -/

omit [ZipCrate] [SnapshotCrates] [RecordParser] in
theorem stageMember_ok {staged : List String × Table StagedFile.path} {member : BundleMember}
    (valid : validateBackupMemberName member.name = .ok ⟨⟩) :
    ∃ next, stageMember staged member = .ok next := by
  rw [stageMember]
  split
  · exact ⟨staged, rfl⟩
  · rw [valid]
    have nonempty : pathComponents member.name ≠ [] := by
      have safe := rejectIf_eq_ok_iff.mp valid
      simp only [not_or] at safe
      exact safe.2.2.2.2.2
    cases components : pathComponents member.name with
    | nil => exact (nonempty components).elim
    | cons root rest => exact ⟨_, rfl⟩

variable {members : BundleMembers}

omit [ZipCrate] [SnapshotCrates] [RecordParser] in
theorem stageBackupSidecars_ok
    (valid : ∀ member ∈ members.values, validateBackupMemberName member.name = .ok ⟨⟩) :
    ∃ staged, stageBackupSidecars members = .ok staged := by
  have general : ∀ (listed : List BundleMember) (staged : List String × Table StagedFile.path),
      (∀ member ∈ listed, validateBackupMemberName member.name = .ok ⟨⟩) →
        ∃ final, listed.foldlM stageMember staged = .ok final := by
    intro listed
    induction listed with
    | nil => exact fun staged _ => ⟨staged, rfl⟩
    | cons member rest ih =>
        intro staged valid
        obtain ⟨next, stepped⟩ : ∃ next, stageMember staged member = .ok next :=
          stageMember_ok (valid member List.mem_cons_self)
        obtain ⟨final, ran⟩ := ih next fun other later => valid other (List.mem_cons_of_mem _ later)
        exact ⟨final, by rw [List.foldlM_cons, stepped]; exact ran⟩
  refine general _ _ fun member inside => valid member ?_
  exact (List.mergeSort_perm members.values _).mem_iff.mp inside

omit [ZipCrate] [SnapshotCrates] [RecordParser] in
theorem exists_of_verifyMembers_cons {entries : List ZipEntry} {file : BackupFile}
    {rest : List BackupFile} {consumed : Nat} {members verified : BundleMembers}
    (ran : verifyMembers entries (file :: rest) consumed members = .ok verified) :
    validateBackupMemberName file.name = .ok ⟨⟩ ∧ ∃ bytes total,
      verifyMembers entries rest total (members.insert ⟨file.name, bytes⟩) = .ok verified := by
  obtain ⟨valid, ran⟩ := check_bind_eq_ok_iff.mp ran
  cases found : entries.find? (·.name = file.name) with
  | none =>
      rw [found] at ran
      cases ran
  | some entry =>
      rw [found] at ran
      obtain ⟨⟨bytes, total⟩, read, ran⟩ := bind_eq_ok_iff.mp ran
      obtain ⟨digest, ran⟩ := check_bind_eq_ok_iff.mp ran
      obtain ⟨single, ran⟩ := check_bind_eq_ok_iff.mp ran
      exact ⟨valid, bytes, total, ran⟩

omit [ZipCrate] [SnapshotCrates] [RecordParser] in
theorem valid_of_verifyMembers {entries : List ZipEntry} {files : List BackupFile}
    {consumed : Nat} {members verified : BundleMembers}
    (held : ∀ member ∈ members.values, validateBackupMemberName member.name = .ok ⟨⟩)
    (ran : verifyMembers entries files consumed members = .ok verified) :
    ∀ member ∈ verified.values, validateBackupMemberName member.name = .ok ⟨⟩ := by
  induction files generalizing consumed members with
  | nil =>
      obtain rfl := Except.ok.inj ran
      exact held
  | cons file rest ih =>
      obtain ⟨valid, bytes, total, ran⟩ := exists_of_verifyMembers_cons ran
      refine ih (fun member inside => ?_) ran
      rcases Table.eq_or_mem_of_mem_values_insert inside with rfl | before
      · exact valid
      · exact held member before

omit [ZipCrate] [SnapshotCrates] [RecordParser] in
theorem verifyMembers_cons {entries : List ZipEntry} {file : BackupFile} {rest : List BackupFile}
    {consumed total : Nat} {entry : ZipEntry} {bytes : List UInt8}
    (valid : validateBackupMemberName file.name = .ok ⟨⟩)
    (found : entries.find? (·.name = file.name) = some entry)
    (read : readZipMemberBounded file.name entry.content consumed .badBackup = .ok (bytes, total))
    (digest : sha256Hex bytes = file.sha256) (single : members.get file.name = none) :
    verifyMembers entries (file :: rest) consumed members =
      verifyMembers entries rest total (members.insert ⟨file.name, bytes⟩) := by
  simp only [verifyMembers, valid, found, read, rejectIf, digest, single, ne_eq, not_true_eq_false,
    Option.isSome_none, Bool.false_eq_true, if_false, bind, Except.bind]

/-- The declared sizes add up in 64 bits, or nobody checks that they do. -/
def Fits (checks : OverflowChecks) (files : List BackupFile) : Prop :=
  checks = .off ∨ (files.map (·.bytes.toNat)).sum < 2 ^ 64

omit [Crates] [ZipCrate] [SnapshotCrates] [RecordParser] in
theorem isSome_declaredBytes_iff {checks : OverflowChecks} {files : List BackupFile} :
    (declaredBytes checks files).isSome ↔ Fits checks files := by
  have general : ∀ (files : List BackupFile) (total : Nat), (checks = .off ∨ total < 2 ^ 64) →
      ((files.foldlM (fun total file => Machine.add checks 64 total file.bytes.toNat)
        total).isSome ↔ checks = .off ∨ total + (files.map (·.bytes.toNat)).sum < 2 ^ 64) := by
    intro files
    induction files with
    | nil => exact fun total below => iff_of_true rfl below
    | cons file rest ih =>
        intro total below
        rw [List.foldlM_cons, List.map_cons, List.sum_cons, ← Nat.add_assoc, Machine.add]
        by_cases room : total + file.bytes.toNat < 2 ^ 64
        · rw [Machine.narrow_of_lt room]
          exact ih _ (.inr room)
        · cases checks with
          | on =>
              have panics : Machine.narrow .on 64 (total + file.bytes.toNat) = none :=
                Option.not_isSome_iff_eq_none.mp (mt Machine.isSome_narrow_on_iff.mp room)
              rw [panics]
              refine iff_of_false Bool.false_ne_true (not_or.mpr ⟨OverflowChecks.noConfusion, ?_⟩)
              omega
          | off =>
              have wraps : Machine.narrow .off 64 (total + file.bytes.toNat) =
                some ((total + file.bytes.toNat) % 2 ^ 64) := if_neg room
              rw [wraps]
              exact iff_of_true ((ih _ (.inl rfl)).mpr (.inl rfl)) (.inl rfl)
  have whole := general files 0 (.inr (Nat.two_pow_pos 64))
  rwa [Nat.zero_add] at whole

example : declaredBytes .on [⟨"chancela.db", "", 0xFFFFFFFFFFFFFFFF⟩, ⟨"settings.json", "", 1⟩] =
    none := by
  decide

def Declares (zip : List UInt8) (manifest : BackupManifest) : Prop :=
  ∃ entries consumed, readBackup zip = .ok (entries, manifest, consumed)

/-- Every listed member is verified, and the snapshot is among them. -/
def Accepts (zip : List UInt8) (manifest : BackupManifest) (members : BundleMembers)
    (database : List UInt8) : Prop :=
  ∃ entries consumed, readBackup zip = .ok (entries, manifest, consumed) ∧
    verifyMembers entries manifest.files consumed .empty = .ok members ∧
    snapshotOf members = .ok database

/-- The snapshot opens among the other members, and the report on its rows is healthy. -/
def HealthyBeside (database : List UInt8) (members : BundleMembers) : Prop :=
  ∃ state, openSnapshot database (beside members) = .ok (.ok state) ∧
    (Ledger.integrityReport ⟨state.events⟩).healthy = true

/-- The snapshot opens alone, its rows verify and it can be compacted. -/
def SoundAlone (database : List UInt8) : Prop :=
  ∃ state total sanitized, openSnapshot database [] = .ok (.ok state) ∧
    Ledger.verify ⟨state.events⟩ = .ok total ∧ sanitizeSnapshot database = .ok sanitized

/-- The preflight is answered, and the answer is that the restore can proceed. -/
def Ready (outcome : Option (Except StoreError PreflightOutcome)) : Prop :=
  ∃ result, outcome = some (.ok result) ∧ result.ready = true

variable {checks : OverflowChecks} {archive : String} {encrypted : Bool} {zip : List UInt8}

omit [RecordParser] in
theorem restoreFromVerifiedZipBytes_eq_ok_iff {staged : StagedRestore} :
    restoreFromVerifiedZipBytes zip = .ok staged ↔
      ∃ manifest members database state total, Accepts zip manifest members database ∧
        openSnapshot database [] = .ok (.ok state) ∧ Ledger.verify ⟨state.events⟩ = .ok total ∧
        sanitizeSnapshot database = .ok staged.database ∧
        stageBackupSidecars members = .ok (staged.roots, staged.files) := by
  constructor
  · intro ran
    obtain ⟨⟨entries, manifest, consumed⟩, read, ran⟩ := bind_eq_ok_iff.mp ran
    obtain ⟨members, verified, ran⟩ := bind_eq_ok_iff.mp ran
    obtain ⟨database, found, ran⟩ := bind_eq_ok_iff.mp ran
    dsimp only at ran
    split at ran
    · cases ran
    · cases ran
    · next state opened =>
        split at ran
        · cases ran
        · next total accepted =>
            split at ran
            · cases ran
            · next sanitized compacted =>
                obtain ⟨⟨roots, files⟩, carried, ran⟩ := bind_eq_ok_iff.mp ran
                obtain rfl := Except.ok.inj ran
                exact ⟨manifest, members, database, state, total,
                  ⟨entries, consumed, read, verified, found⟩, opened, accepted, compacted, carried⟩
  · rintro ⟨manifest, members, database, state, total, ⟨entries, consumed, read, verified, found⟩,
      opened, accepted, compacted, carried⟩
    simp only [restoreFromVerifiedZipBytes, read, verified, found, opened, accepted, compacted,
      carried, bind, Except.bind, pure, Except.pure]

omit [RecordParser] in
theorem restoreFromVerifiedZipBytes_ok_iff :
    (∃ staged, restoreFromVerifiedZipBytes zip = .ok staged) ↔
      ∃ manifest members database, Accepts zip manifest members database ∧
        SoundAlone database := by
  constructor
  · rintro ⟨staged, ran⟩
    obtain ⟨manifest, members, database, state, total, accepts, opened, accepted, compacted, -⟩ :=
      restoreFromVerifiedZipBytes_eq_ok_iff.mp ran
    exact ⟨manifest, members, database, accepts, state, total, _, opened, accepted, compacted⟩
  · rintro ⟨manifest, members, database, accepts, state, total, sanitized, opened, accepted,
      compacted⟩
    have ⟨entries, consumed, read, verified, found⟩ := accepts
    obtain ⟨⟨roots, files⟩, staged⟩ := stageBackupSidecars_ok
      (valid_of_verifyMembers (fun _ absent => (List.not_mem_nil absent).elim) verified)
    exact ⟨⟨sanitized, roots, files⟩, restoreFromVerifiedZipBytes_eq_ok_iff.mpr
      ⟨manifest, members, database, state, total, accepts, opened, accepted, compacted, staged⟩⟩

omit [ZipCrate] in
theorem materialize_ok_iff {database : List UInt8}
    (valid : ∀ member ∈ members.values, validateBackupMemberName member.name = .ok ⟨⟩) :
    (∃ isolated, materializeIsolatedRestorePreflight database members = .ok isolated ∧
        isolated.ledgerVerified = true) ↔ HealthyBeside database members := by
  obtain ⟨⟨roots, files⟩, staged⟩ := stageBackupSidecars_ok valid
  rw [materializeIsolatedRestorePreflight, staged]
  constructor
  · rintro ⟨isolated, ran, verified⟩
    change (match openSnapshot database (beside members) with
      | .error fault => _
      | .ok (.error fault) => _
      | .ok (.ok state) => _) = Except.ok isolated at ran
    split at ran
    · cases ran
    · cases ran
    · next state opened =>
        obtain rfl := Except.ok.inj ran
        exact ⟨state, opened, verified⟩
  · rintro ⟨state, opened, healthy⟩
    simp only [opened, bind, Except.bind]
    exact ⟨_, rfl, healthy⟩

theorem ready_preflightZip : Ready (preflightZip checks archive encrypted zip) ↔
    Ready (verifyRestorePreflightZip checks archive encrypted zip) := by
  rw [preflightZip]
  constructor
  · rintro ⟨result, answered, ready⟩
    obtain ⟨outcome, ran, same⟩ := Option.map_eq_some_iff.mp answered
    split at same
    · obtain rfl := Except.ok.inj same
      exact ⟨_, ran, ready⟩
    · obtain rfl := Except.ok.inj same
      cases ready
    · cases same
  · rintro ⟨result, ran, ready⟩
    exact ⟨result, by rw [ran]; rfl, ready⟩

theorem ready_preflightZip_iff :
    Ready (preflightZip checks archive encrypted zip) ↔
      ∃ manifest members database, Accepts zip manifest members database ∧
        Fits checks manifest.files ∧ HealthyBeside database members := by
  rw [ready_preflightZip, verifyRestorePreflightZip]
  constructor
  · rintro ⟨result, ran, ready⟩
    split at ran
    · cases ran
    · next entries manifest consumed read =>
        obtain ⟨evidence, gathered, ran⟩ := Option.map_eq_some_iff.mp ran
        obtain ⟨members, verified, ran⟩ := bind_eq_ok_iff.mp ran
        obtain ⟨database, found, ran⟩ := bind_eq_ok_iff.mp ran
        obtain ⟨isolated, copied, ran⟩ := bind_eq_ok_iff.mp ran
        obtain rfl := Except.ok.inj ran
        have fits : (restorePreflightManifestEvidence checks manifest).isSome := by
          rw [gathered]
          rfl
        rw [restorePreflightManifestEvidence, Option.isSome_map, isSome_declaredBytes_iff] at fits
        refine ⟨manifest, members, database, ⟨entries, consumed, read, verified, found⟩, fits, ?_⟩
        exact (materialize_ok_iff (valid_of_verifyMembers
          (fun _ absent => (List.not_mem_nil absent).elim) verified)).mp ⟨isolated, copied, ready⟩
  · rintro ⟨manifest, members, database, ⟨entries, consumed, read, verified, found⟩, fits, healthy⟩
    obtain ⟨isolated, copied, ready⟩ := (materialize_ok_iff (valid_of_verifyMembers
      (fun _ absent => (List.not_mem_nil absent).elim) verified)).mpr healthy
    have gathered : (restorePreflightManifestEvidence checks manifest).isSome := by
      rw [restorePreflightManifestEvidence, Option.isSome_map]
      exact isSome_declaredBytes_iff.mpr fits
    obtain ⟨evidence, gathered⟩ := Option.isSome_iff_exists.mp gathered
    refine ⟨preflightVerdict archive encrypted evidence isolated, ?_, ready⟩
    simp only [read, gathered, verified, found, copied, Option.map_some, bind, Except.bind, pure,
      Except.pure]

theorem isSome_preflightZip_iff :
    (preflightZip checks archive encrypted zip).isSome ↔
      ∀ manifest, Declares zip manifest → Fits checks manifest.files := by
  rw [preflightZip, Option.isSome_map, verifyRestorePreflightZip]
  cases read : readBackup zip with
  | error fault =>
      refine iff_of_true rfl fun manifest ⟨entries, consumed, other⟩ => ?_
      cases read.symm.trans other
  | ok contents =>
      obtain ⟨entries, manifest, consumed⟩ := contents
      rw [Option.isSome_map, restorePreflightManifestEvidence, Option.isSome_map,
        isSome_declaredBytes_iff]
      constructor
      · rintro fits declared ⟨others, total, again⟩
        obtain ⟨-, rfl, -⟩ : entries = others ∧ manifest = declared ∧ consumed = total := by
          simpa only [Prod.mk.injEq] using Except.ok.inj (read.symm.trans again)
        exact fits
      · exact fun all => all manifest ⟨entries, consumed, read⟩

/-- The zip that both read: the archive itself, or the plaintext of an envelope. -/
def plaintext (archiveBytes : List UInt8) : Option String → Option (List UInt8)
  | none => if isEncryptedBackup archiveBytes = true then none else some archiveBytes
  | some passphrase => (decryptBackupEnvelope archiveBytes passphrase).toOption

/-- The preflight is answered, and it says that the restore can proceed exactly where the
restore passes every check before its commit point. -/
def Predicts (checks : OverflowChecks) (archive : String) (archiveBytes : List UInt8)
    (passphrase : Option String) : Prop :=
  (restorePreflight checks archive archiveBytes passphrase).isSome ∧
    (Ready (restorePreflight checks archive archiveBytes passphrase) ↔
      ∃ staged, restore archiveBytes passphrase = .ok staged)

/-- The declared sizes fit, and the snapshot of an accepted archive is healthy beside the
other members exactly where it is sound alone. -/
def Reliable (checks : OverflowChecks) (zip : List UInt8) : Prop :=
  ∀ manifest, Declares zip manifest → Fits checks manifest.files ∧
    ∀ members database, Accepts zip manifest members database →
      (HealthyBeside database members ↔ SoundAlone database)

omit [RecordParser] in
theorem Accepts.declares {manifest : BackupManifest} {database : List UInt8}
    (accepts : Accepts zip manifest members database) : Declares zip manifest := by
  obtain ⟨entries, consumed, read, -⟩ := accepts
  exact ⟨entries, consumed, read⟩

omit [RecordParser] in
theorem Accepts.unique {manifest other : BackupManifest} {members others : BundleMembers}
    {database another : List UInt8} (first : Accepts zip manifest members database)
    (second : Accepts zip other others another) :
    manifest = other ∧ members = others ∧ database = another := by
  obtain ⟨entries, consumed, read, verified, found⟩ := first
  obtain ⟨entries', consumed', read', verified', found'⟩ := second
  obtain ⟨rfl, rfl, rfl⟩ : entries = entries' ∧ manifest = other ∧ consumed = consumed' := by
    simpa only [Prod.mk.injEq] using Except.ok.inj (read.symm.trans read')
  obtain rfl := Except.ok.inj (verified.symm.trans verified')
  exact ⟨rfl, rfl, Except.ok.inj (found.symm.trans found')⟩

theorem preflightZip_iff :
    (preflightZip checks archive encrypted zip).isSome ∧
        (Ready (preflightZip checks archive encrypted zip) ↔
          ∃ staged, restoreFromVerifiedZipBytes zip = .ok staged) ↔
      Reliable checks zip := by
  rw [isSome_preflightZip_iff, ready_preflightZip_iff, restoreFromVerifiedZipBytes_ok_iff]
  constructor
  · rintro ⟨fits, foretold⟩ manifest declares
    refine ⟨fits manifest declares, fun members database accepts =>
      ⟨fun healthy => ?_, fun sound => ?_⟩⟩
    · obtain ⟨other, others, another, again, sound⟩ :=
        foretold.mp ⟨manifest, members, database, accepts, fits manifest declares, healthy⟩
      obtain ⟨-, -, rfl⟩ := accepts.unique again
      exact sound
    · obtain ⟨other, others, another, again, -, healthy⟩ :=
        foretold.mpr ⟨manifest, members, database, accepts, sound⟩
      obtain ⟨-, rfl, rfl⟩ := accepts.unique again
      exact healthy
  · intro reliable
    refine ⟨fun manifest declares => (reliable manifest declares).1, ?_, ?_⟩
    · rintro ⟨manifest, members, database, accepts, -, healthy⟩
      have agree := (reliable manifest accepts.declares).2 members database accepts
      exact ⟨manifest, members, database, accepts, agree.mp healthy⟩
    · rintro ⟨manifest, members, database, accepts, sound⟩
      obtain ⟨fits, agree⟩ := reliable manifest accepts.declares
      exact ⟨manifest, members, database, accepts, fits,
        (agree members database accepts).mpr sound⟩

theorem predicts_zip_iff {archiveBytes : List UInt8} {passphrase : Option String} :
    Predicts checks archive archiveBytes passphrase ↔
      ∀ zip, plaintext archiveBytes passphrase = some zip → Reliable checks zip := by
  have refused : ∀ (encrypted : Option Bool) (message : String),
      ¬Ready (some (.ok (restorePreflightFailure archive encrypted message))) := by
    rintro encrypted message ⟨result, answered, ready⟩
    obtain rfl := Except.ok.inj (Option.some.inj answered)
    cases ready
  unfold Predicts restorePreflight
  cases passphrase with
  | none =>
      rw [restore, plaintext]
      cases envelope : isEncryptedBackup archiveBytes with
      | true =>
          refine iff_of_true ⟨rfl, iff_of_false (refused _ _) ?_⟩ fun zip absent => ?_
          · rintro ⟨staged, ran⟩
            cases ran
          · cases absent
      | false =>
          simp only [Bool.false_eq_true, if_false, Option.isSome_none, Option.some.injEq,
            forall_eq']
          exact preflightZip_iff
  | some passphrase =>
      rw [restore, plaintext]
      cases envelope : isEncryptedBackup archiveBytes with
      | true =>
          simp only [if_true]
          cases decryptBackupEnvelope archiveBytes passphrase with
          | error message =>
              refine iff_of_true ⟨rfl, iff_of_false (refused _ _) ?_⟩ fun zip absent => ?_
              · rintro ⟨staged, ran⟩
                cases ran
              · cases absent
          | ok bytes =>
              simp only [Except.toOption, Option.some.injEq, forall_eq']
              exact preflightZip_iff
      | false =>
          have fails : ∃ message,
              decryptBackupEnvelope archiveBytes passphrase = .error message := by
            rw [decryptBackupEnvelope]
            split
            · exact ⟨_, rfl⟩
            · exact ⟨_, rfl⟩
          obtain ⟨message, failed⟩ := fails
          rw [failed]
          refine iff_of_true ⟨rfl, iff_of_false (refused _ _) ?_⟩ fun zip absent => ?_
          · rintro ⟨staged, ran⟩
            cases ran
          · cases absent

/-- **Where the preflight foretells the restore.** It does exactly where the zip that both
read declares sizes that fit and, once accepted, holds a snapshot that is healthy beside
the other members exactly where it is sound alone; of a snapshot that they leave alone and
that can be compacted, that is a matter of its rows. -/
theorem predicts_iff :
    (∀ (checks : OverflowChecks) (archive : String) (archiveBytes : List UInt8)
      (passphrase : Option String),
      Predicts checks archive archiveBytes passphrase ↔
        ∀ zip, plaintext archiveBytes passphrase = some zip → Reliable checks zip) ∧
    ∀ (database sanitized : List UInt8) (members : BundleMembers) (state : SnapshotState),
      openSnapshot database (beside members) = .ok (.ok state) →
      openSnapshot database [] = .ok (.ok state) →
      sanitizeSnapshot database = .ok sanitized → Ledger.NoSelfLink state.events →
      ((HealthyBeside database members ↔ SoundAlone database) ↔
        ¬SpineSound state.events ∨
          (∃ chain, chain ≠ .global ∧
            ¬HashChain.Linked zeroDigest none (firstMembers chain state.events)) ∨
          (Ledger.NamesChainsOnce state.events ∧
            HashChain.Linked zeroDigest none (firstMembers .global state.events))) := by
  refine ⟨fun _ _ _ _ => predicts_zip_iff, ?_⟩
  intro database sanitized members state opened alone compacted fresh
  rw [← Ledger.healthy_iff_accepted_iff fresh]
  have healthy : HealthyBeside database members ↔
      (Ledger.integrityReport ⟨state.events⟩).healthy = true := by
    simp only [HealthyBeside, opened, Except.ok.injEq, exists_eq_left']
  have sound : SoundAlone database ↔ ∃ total, Ledger.verify ⟨state.events⟩ = .ok total := by
    simp only [SoundAlone, alone, compacted, Except.ok.injEq]
    constructor
    · rintro ⟨_, total, _, rfl, accepted, -⟩
      exact ⟨total, accepted⟩
    · rintro ⟨total, accepted⟩
      exact ⟨state, total, sanitized, rfl, accepted, rfl⟩
  rw [healthy, sound]

end Checks

namespace RepeatedLink

open scoped Reference

/-- A backup whose snapshot holds one event that names a chain twice. -/
def manifest : BackupManifest where
  appVersion := "0.1.0"
  storeSchemaVersion := 1
  ledgerLength := 1
  ledgerVerified := true
  files := [⟨dbFile, sha256Hex [1], 1⟩]

scoped instance zipCrate : ZipCrate where
  readZip _ := .ok [⟨"manifest.json", some [0]⟩, ⟨dbFile, some [1]⟩]
  writeZip _ := .error "not written here"

scoped instance snapshotCrates : SnapshotCrates where
  readBackupManifest bytes := if bytes = [0] then .ok manifest else .error "expected value"
  openEnvelope _ _ := .error "encrypted backup could not be authenticated or decrypted"
  openSnapshot bytes _ :=
    if bytes = [1] then .ok (.ok ⟨repeatedLink, 0, 0, 0⟩)
    else if bytes = [2] then .ok (.ok ⟨singleLink, 0, 0, 0⟩)
    else .error "file is not a database"
  sanitizeSnapshot bytes := .ok bytes

theorem accepts : Accepts [0] manifest (Table.empty.insert ⟨dbFile, [1]⟩) [1] := by
  have valid : validateBackupMemberName dbFile = .ok ⟨⟩ :=
    rejectIf_eq_ok_iff.mpr (by decide)
  refine ⟨[⟨"manifest.json", some [0]⟩, ⟨dbFile, some [1]⟩], 1, rfl, ?_, rfl⟩
  exact verifyMembers_cons valid rfl rfl rfl Table.get_empty

end RepeatedLink

open scoped Reference in
open scoped RepeatedLink in
/-- A snapshot of an event that is linked once is healthy where it is sound. -/
theorem predicts_iff_singleLink : HealthyBeside [2] .empty ↔ SoundAlone [2] :=
  (predicts_iff.2 [2] [2] .empty ⟨singleLink, 0, 0, 0⟩ rfl rfl rfl
    Ledger.noSelfLink_singleLink).mpr (.inr (.inr ⟨by decide, HashChain.linked_nil _ _⟩))

open scoped Reference in
open scoped RepeatedLink in
/-- In no build does the preflight foretell every restore: of a backup whose snapshot holds
an event with a repeated link it says that the restore can proceed, and the restore
refuses it. -/
theorem not_predicts_repeatedLink :
    ¬∃ checks : OverflowChecks, ∀ (archive : String) (archiveBytes : List UInt8)
      (passphrase : Option String), Predicts checks archive archiveBytes passphrase := by
  rintro ⟨checks, always⟩
  have reliable := predicts_zip_iff.mp (always "backup.zip" [0] none) [0] rfl
  obtain ⟨-, agree⟩ := reliable _ RepeatedLink.accepts.declares
  obtain ⟨state, total, sanitized, opened, verified, -⟩ := (agree _ _ RepeatedLink.accepts).mp
    ⟨_, rfl, Ledger.report_repeatedLink⟩
  obtain rfl := Except.ok.inj (Except.ok.inj opened)
  cases Ledger.verify_repeatedLink.symm.trans verified

end Restore

end Chancela
