import Chancela.Store.RestorePreflight

/-! # The swap of a restore

Once everything is verified, a restore removes the live database and its journals, writes
the snapshot, moves the staged members beside it and opens the database anew. A member at
the path of a journal is then read with the database, though the snapshot was verified
without it. Where there is none, what is opened is the snapshot, and its ledger verifies
(`Chancela.Restore.trusted_iff`). No call of `std::fs` fails.
-/

namespace Chancela.Restore

open Outcome SnapshotCrates

/-- A directory: the bytes of the files at relative paths. -/
abbrev DataDir := List String → Option (List UInt8)

namespace DataDir

def removeFile (dir : DataDir) (path : List String) : DataDir :=
  fun other => if other = path then none else dir other

def write (dir : DataDir) (path : List String) (bytes : List UInt8) : DataDir :=
  fun other => if other = path then some bytes else dir other

/-- `remove_path_if_exists`: a file, or a directory with all that is below it. -/
def removePathIfExists (dir : DataDir) (path : List String) : DataDir :=
  fun other => if path <+: other then none else dir other

theorem foldl_removePathIfExists {names : List String} {name : String} (apart : name ∉ names)
    (dir : DataDir) :
    names.foldl (fun dir name => dir.removePathIfExists [name]) dir [name] = dir [name] := by
  induction names generalizing dir with
  | nil => rfl
  | cons other rest ih =>
      rw [List.foldl_cons, ih (fun later => apart (List.mem_cons_of_mem other later))]
      refine if_neg fun below => apart ?_
      rw [(List.cons_prefix_cons.mp below).1]
      exact List.mem_cons_self

theorem foldl_removePathIfExists_of_absent {names : List String} {path : List String}
    {dir : DataDir} (absent : dir path = none) :
    names.foldl (fun dir name => dir.removePathIfExists [name]) dir path = none := by
  induction names generalizing dir with
  | nil => exact absent
  | cons other rest ih =>
      refine ih ?_
      change (if [other] <+: path then none else dir path) = none
      rw [absent, ite_self]

end DataDir

/-- `DB_FILE` with `-wal`. -/
def walFile : String := dbFile ++ "-wal"

/-- `DB_FILE` with `-shm`. -/
def shmFile : String := dbFile ++ "-shm"

/-- `INSTANCE_SIDECAR_NAMES`: what the callers of a restore pass, by the names in the data
directory. -/
def instanceSidecarNames : List String := [
  "settings.json", "platform-logs.json", "password-verifier-seed.json", "users.json",
  "roles.json", "delegations.json", "privacy-dsr-requests.json", "privacy-processors.json",
  "privacy-dpias.json", "privacy-breach-playbooks.json", "privacy-transfer-controls.json",
  "retention-policies.json", "privacy-retention-executions.json",
  "privacy-retention-candidate-resolutions.json", "backup-recovery-drills.json",
  "notification-triage.json", "user_preferences.json", "cmd-saved-phones.json",
  "apikeys.json", "external-signing-envelopes.json", "connector-targets.json",
  "external-validator-reports", "cae-catalog.json", "tsl-cache", "laws", "zk-repositories"]

section Swap

variable [Crates]

/-- Whether a turn of the loop of `replace_live_sidecars` moves a root out of the stage. -/
def moves (files : Table StagedFile.path) (root : String) : Bool :=
  root ≠ "" && root ≠ dbFile && files.values.any fun file => [root].isPrefixOf file.path

/-- One turn of the loop of `replace_live_sidecars`. -/
def replaceRoot (files : Table StagedFile.path) (dir : DataDir) (root : String) : DataDir :=
  if moves files root = true then
    fun path =>
      if [root] <+: path then (files.get path).map (·.bytes)
      else dir.removePathIfExists [root] path
  else dir

/-- `replace_live_sidecars`. The roots lie apart, so their order is immaterial. -/
def replaceLiveSidecars (dir : DataDir) (staged : StagedRestore) (sidecars : List String) :
    DataDir :=
  (sidecars.foldl (fun roots name => roots.insert name) staged.roots).foldl
    (replaceRoot staged.files)
    (sidecars.foldl (fun dir name => dir.removePathIfExists [name]) dir)

/-- The data directory when the database is opened again. -/
def swap (dir : DataDir) (staged : StagedRestore) (sidecars : List String) : DataDir :=
  let freed := ((dir.removeFile [dbFile]).removeFile [walFile]).removeFile [shmFile]
  replaceLiveSidecars (freed.write [dbFile] staged.database) staged sidecars

/-- What an opening of the database reads. -/
structure DatabaseFiles where
  database : Option (List UInt8)
  wal : Option (List UInt8)
  shm : Option (List UInt8)
deriving DecidableEq

def databaseFiles (dir : DataDir) : DatabaseFiles :=
  ⟨dir [dbFile], dir [walFile], dir [shmFile]⟩

structure RestoreRecord where
  actor : String
  at_ : OffsetDateTime
  archive : String
  sourceInstanceId : Option String
  restoredLength : Nat
  restoredHead : Option String

instance : Serialize RestoreRecord where
  serialize record := Json.struct [
    Json.field "actor" record.actor,
    Json.field "at" record.at_,
    Json.field "archive" record.archive,
    Json.field "source_instance_id" record.sourceInstanceId,
    Json.field "restored_length" record.restoredLength,
    Json.field "restored_head" record.restoredHead]

structure RestoreOutcome where
  restoredFrom : String
  ledgerLength : Nat
  ledgerHead : Option String
  chainVerified : Bool

/-- What the end of a restore is given or draws. -/
structure RestoreSurroundings where
  archive : String
  actor : String
  at_ : OffsetDateTime
  /-- `instance_id`, where it can be read. -/
  sourceInstanceId : Option String
  id : Uuid
  now : OffsetDateTime
  /-- How the insertion of the event ends. -/
  persisted : Except StoreError Unit

/-- `StoreError::RestoreCommitted`, with what has gone wrong after the commit point. -/
structure RestoreCommitted where
  cause : StoreError
deriving DecidableEq

variable [SnapshotCrates]

/-- `open_connection_with_options`, and the `load` after it. -/
def openDatabase (files : DatabaseFiles) : Except String (Except String SnapshotState) :=
  openSnapshot (files.database.getD []) <|
    (files.wal.map (BundleMember.mk walFile ·)).toList ++
      (files.shm.map (BundleMember.mk shmFile ·)).toList

/-- `restore_from_verified_zip_bytes` from the opening on: the outcome, and the ledger that
it hands back. -/
def finishRestore (dir : DataDir) (around : RestoreSurroundings) :
    Except RestoreCommitted (RestoreOutcome × Ledger) :=
  match openDatabase (databaseFiles dir) with
  | .error _ => .error ⟨.database⟩
  | .ok (.error _) => .error ⟨.database⟩
  | .ok (.ok state) =>
      let restored : Ledger := ⟨state.events⟩
      let record : RestoreRecord := {
        actor := around.actor
        at_ := around.at_
        archive := around.archive
        sourceInstanceId := around.sourceInstanceId
        restoredLength := restored.events.length
        restoredHead := restored.head.map hex32 }
      match serialize record with
      | none => .error ⟨.serialization⟩
      | some json => do
          let text := jsonToString json
          let appended := restored.appendAt {
            actor := around.actor
            scope := recoveryScope
            kind := "ledger.restored"
            justification := some text
            payload := Text.utf8 text
            id := around.id
            timestamp := around.now }
          around.persisted.mapError RestoreCommitted.mk
          return ({
            restoredFrom := around.archive
            ledgerLength := appended.events.length
            ledgerHead := appended.head.map hex32
            chainVerified := true }, appended)

/-! ## What is staged -/

variable {members : BundleMembers} {roots : List String} {files : Table StagedFile.path}

def Aside (member : BundleMember) : Prop := member.name ≠ dbFile ∧ member.name ≠ "manifest.json"

/-- A staged file is the last, by name, of the members at its path. -/
def CarriedFrom (members : List BundleMember) (file : StagedFile) : Prop :=
  ∃ member ∈ members, Aside member ∧ pathComponents member.name = file.path ∧
    member.bytes = file.bytes ∧
    ∀ other ∈ members, Aside other → pathComponents other.name = file.path →
      other.name ≤ member.name

/-- What holds of a stage once some members are in it. -/
structure Stages (members : List BundleMember) (roots : List String)
    (files : Table StagedFile.path) : Prop where
  rooted : ∀ file ∈ files.values, ∃ root ∈ roots, file.path.head? = some root
  carried : ∀ file ∈ files.values, CarriedFrom members file
  complete : ∀ member ∈ members, Aside member →
    ∃ file, files.get (pathComponents member.name) = some file

omit [Crates] [SnapshotCrates] in
theorem CarriedFrom.concat {done : List BundleMember} {member : BundleMember} {file : StagedFile}
    (carried : CarriedFrom done file)
    (elsewhere : Aside member → pathComponents member.name ≠ file.path) :
    CarriedFrom (done ++ [member]) file := by
  obtain ⟨source, inside, aside, located, same, last⟩ := carried
  refine ⟨source, List.mem_append_left _ inside, aside, located, same, ?_⟩
  intro other listed staged there
  rcases List.mem_append.mp listed with before | new
  · exact last other before staged there
  · obtain rfl := List.mem_singleton.mp new
    exact (elsewhere staged there).elim

omit [SnapshotCrates] in
theorem Stages.stageMember {done : List BundleMember} {member : BundleMember}
    {roots' : List String} {files' : Table StagedFile.path} (stages : Stages done roots files)
    (later : ∀ other ∈ done, other.name ≤ member.name)
    (ran : stageMember (roots, files) member = .ok (roots', files')) :
    Stages (done ++ [member]) roots' files' := by
  rw [Restore.stageMember] at ran
  split at ran
  · next leftOut =>
      obtain ⟨rfl, rfl⟩ := Prod.mk.inj (Except.ok.inj ran)
      have notAside : ¬Aside member := fun aside => leftOut.elim aside.1 aside.2
      refine ⟨stages.rooted, fun file staged => ?_, fun other listed aside => ?_⟩
      · exact (stages.carried file staged).concat fun aside => (notAside aside).elim
      · rcases List.mem_append.mp listed with before | new
        · exact stages.complete other before aside
        · obtain rfl := List.mem_singleton.mp new
          exact (notAside aside).elim
  · next taken =>
      have aside : Aside member := not_or.mp taken
      obtain ⟨valid, ran⟩ := check_bind_eq_ok_iff.mp ran
      cases components : pathComponents member.name with
      | nil =>
          rw [components] at ran
          cases ran
      | cons root rest =>
          rw [components] at ran
          obtain ⟨rfl, rfl⟩ := Prod.mk.inj (Except.ok.inj ran)
          refine ⟨fun file staged => ?_, fun file staged => ?_, fun other listed aside => ?_⟩
          · rcases Table.eq_or_mem_of_mem_values_insert staged with rfl | before
            · exact ⟨root, List.mem_insert_self, rfl⟩
            · obtain ⟨old, inside, first⟩ := stages.rooted file before
              exact ⟨old, List.mem_insert_of_mem inside, first⟩
          · rcases Table.get_insert_eq_some_iff.mp (Table.mem_values.mp staged) with
              ⟨-, rfl⟩ | ⟨apart, before⟩
            · refine ⟨member, List.mem_concat_self, aside, components, rfl, ?_⟩
              intro other listed _ _
              rcases List.mem_append.mp listed with before | new
              · exact later other before
              · rw [List.mem_singleton.mp new]
            · refine (stages.carried file (Table.mem_values_of_get before)).concat fun _ here => ?_
              exact apart (here.symm.trans components)
          · rw [Table.get_insert]
            split
            · exact ⟨_, rfl⟩
            · next apart =>
                rcases List.mem_append.mp listed with before | new
                · exact stages.complete other before aside
                · rw [List.mem_singleton.mp new] at apart
                  exact (apart components).elim

omit [SnapshotCrates] in
theorem Stages.foldlM {done listed : List BundleMember} {roots' : List String}
    {files' : Table StagedFile.path} (stages : Stages done roots files)
    (ordered : listed.Pairwise fun first second => first.name ≤ second.name)
    (later : ∀ earlier ∈ done, ∀ member ∈ listed, earlier.name ≤ member.name)
    (ran : listed.foldlM Restore.stageMember (roots, files) = .ok (roots', files')) :
    Stages (done ++ listed) roots' files' := by
  induction listed generalizing done roots files with
  | nil =>
      obtain ⟨rfl, rfl⟩ := Prod.mk.inj (Except.ok.inj ran)
      rw [List.append_nil]
      exact stages
  | cons member rest ih =>
      rw [List.foldlM_cons] at ran
      obtain ⟨⟨nextRoots, nextFiles⟩, stepped, ran⟩ := bind_eq_ok_iff.mp ran
      obtain ⟨least, ordered⟩ := List.pairwise_cons.mp ordered
      have next := stages.stageMember
        (fun other before => later other before member List.mem_cons_self) stepped
      rw [List.append_cons]
      refine ih next ordered (fun earlier before other after => ?_) ran
      rcases List.mem_append.mp before with old | new
      · exact later earlier old other (List.mem_cons_of_mem member after)
      · rw [List.mem_singleton.mp new]
        exact least other after

omit [SnapshotCrates] in
/-- What `stage_backup_sidecars` stages. -/
theorem stages_of_stageBackupSidecars (ran : stageBackupSidecars members = .ok (roots, files)) :
    Stages members.values roots files := by
  have started : Stages [] [] (Table.empty : Table StagedFile.path) := {
    rooted := fun _ absent => (List.not_mem_nil absent).elim
    carried := fun _ absent => (List.not_mem_nil absent).elim
    complete := fun _ absent => (List.not_mem_nil absent).elim }
  have ordered : (members.values.mergeSort (·.name ≤ ·.name)).Pairwise
      fun first second => first.name ≤ second.name := by
    refine (List.pairwise_mergeSort (fun _ _ _ => ?_) (fun _ _ => ?_) members.values).imp ?_
    · intro below above
      rw [decide_eq_true_eq] at below above ⊢
      exact below.trans above
    · rw [Bool.or_eq_true, decide_eq_true_eq, decide_eq_true_eq]
      exact le_total _ _
    · exact fun below => of_decide_eq_true below
  have sorted := started.foldlM ordered (fun _ absent => (List.not_mem_nil absent).elim) ran
  have same : ∀ member, member ∈ [] ++ members.values.mergeSort (·.name ≤ ·.name) ↔
      member ∈ members.values := fun _ => (List.mergeSort_perm members.values _).mem_iff
  refine ⟨sorted.rooted, fun file staged => ?_, fun member listed =>
    sorted.complete member ((same member).mpr listed)⟩
  obtain ⟨member, listed, aside, located, bytes, last⟩ := sorted.carried file staged
  exact ⟨member, (same member).mp listed, aside, located, bytes, fun other inside =>
    last other ((same other).mpr inside)⟩

/-! ## What is opened -/

omit [Crates] [SnapshotCrates] in
theorem foldl_replaceRoot (names : List String) (dir : DataDir) (path : List String) :
    names.foldl (replaceRoot files) dir path =
      if ∃ root ∈ names, moves files root = true ∧ [root] <+: path then
        (files.get path).map (·.bytes)
      else dir path := by
  induction names generalizing dir with
  | nil =>
      refine (if_neg ?_).symm
      rintro ⟨root, absent, -⟩
      exact List.not_mem_nil absent
  | cons root rest ih =>
      have turn : replaceRoot files dir root path =
          if moves files root = true ∧ [root] <+: path then (files.get path).map (·.bytes)
          else dir path := by
        rw [replaceRoot]
        by_cases moved : moves files root = true
        · by_cases below : [root] <+: path
          · rw [if_pos moved, if_pos below, if_pos ⟨moved, below⟩]
          · rw [if_pos moved, if_neg below, if_neg fun both => below both.2,
              DataDir.removePathIfExists, if_neg below]
        · rw [if_neg moved, if_neg fun both => moved both.1]
      rw [List.foldl_cons, ih, turn]
      simp only [List.mem_cons, exists_eq_or_imp]
      by_cases later : ∃ root ∈ rest, moves files root = true ∧ [root] <+: path
      · rw [if_pos later, if_pos (.inr later)]
      · rw [if_neg later]
        simp only [later, or_false]

omit [Crates] [SnapshotCrates] in
theorem mem_foldl_insert_of_mem {root : String} (names : List String) (member : root ∈ roots) :
    root ∈ names.foldl (fun roots name => roots.insert name) roots := by
  induction names generalizing roots with
  | nil => exact member
  | cons name rest ih => exact ih (List.mem_insert_of_mem member)

variable {staged : StagedRestore} {sidecars : List String}

omit [Crates] [SnapshotCrates] in
theorem moves_of_get {name : String} {file : StagedFile} (named : name ≠ "" ∧ name ≠ dbFile)
    (found : files.get [name] = some file) : moves files name = true := by
  have path : file.path = [name] := Table.key_of_get found
  simp only [moves, named.1, named.2, ne_eq, not_false_eq_true, decide_true, Bool.true_and,
    List.any_eq_true]
  exact ⟨file, Table.mem_values_of_get found, by
    rw [path]
    exact List.isPrefixOf_iff_prefix.mpr List.prefix_rfl⟩

omit [Crates] [SnapshotCrates] in
theorem swap_journal {name : String}
    (rooted : ∀ file ∈ staged.files.values, ∃ root ∈ staged.roots, file.path.head? = some root)
    (named : name ≠ "" ∧ name ≠ dbFile) (journal : name = walFile ∨ name = shmFile)
    (dir : DataDir) :
    swap dir staged sidecars [name] = (staged.files.get [name]).map (·.bytes) := by
  rw [swap, replaceLiveSidecars, foldl_replaceRoot]
  split
  · rfl
  · next unmoved =>
      have unstaged : staged.files.get [name] = none := by
        cases found : staged.files.get [name] with
        | none => rfl
        | some file =>
            obtain ⟨root, inside, first⟩ := rooted file (Table.mem_values_of_get found)
            rw [Table.key_of_get found] at first
            obtain rfl := Option.some.inj first
            exact (unmoved ⟨name, mem_foldl_insert_of_mem sidecars inside,
              moves_of_get named found, List.prefix_rfl⟩).elim
      rw [unstaged]
      refine DataDir.foldl_removePathIfExists_of_absent ?_
      rw [DataDir.write, if_neg fun same => named.2 (List.cons.inj same).1]
      rcases journal with rfl | rfl
      · rw [DataDir.removeFile, DataDir.removeFile, if_pos rfl, ite_self]
      · rw [DataDir.removeFile, if_pos rfl]

omit [Crates] [SnapshotCrates] in
theorem swap_database (apart : dbFile ∉ sidecars) (dir : DataDir) :
    swap dir staged sidecars [dbFile] = some staged.database := by
  rw [swap, replaceLiveSidecars, foldl_replaceRoot, if_neg]
  · rw [DataDir.foldl_removePathIfExists apart]
    exact if_pos rfl
  · rintro ⟨root, -, moved, below⟩
    rw [(List.cons_prefix_cons.mp below).1, moves] at moved
    simp at moved

omit [Crates] [SnapshotCrates] in
theorem not_mem_of_mem_splitOn {separator : Char} {chars part : List Char}
    (member : part ∈ chars.splitOn separator) : separator ∉ part := by
  induction chars generalizing part with
  | nil =>
      obtain rfl := List.mem_singleton.mp member
      exact List.not_mem_nil
  | cons c rest ih =>
      rw [List.splitOn, List.splitOnP_cons_eq_if_modifyHead] at member
      split at member
      · rcases List.mem_cons.mp member with rfl | later
        · exact List.not_mem_nil
        · exact ih later
      · next other =>
          cases parts : rest.splitOnP (· == separator) with
          | nil => exact (List.splitOnP_ne_nil _ rest parts).elim
          | cons first others =>
              rw [parts, List.modifyHead_cons] at member
              have below : ∀ part ∈ first :: others, separator ∉ part := fun part listed =>
                ih (by rw [List.splitOn, parts]; exact listed)
              rcases List.mem_cons.mp member with rfl | later
              · intro inside
                rcases List.mem_cons.mp inside with rfl | deeper
                · exact other (beq_self_eq_true separator)
                · exact below first List.mem_cons_self deeper
              · exact below part (List.mem_cons_of_mem first later)

/-- The parts of a path that lead into a directory and no further. -/
def Inward (path : List String) : Prop :=
  path ≠ [] ∧ ∀ component ∈ path,
    component ≠ "" ∧ component ≠ "." ∧ component ≠ ".." ∧ '/' ∉ component.toList

omit [SnapshotCrates] in
theorem inward_of_valid {name : String} (valid : validateBackupMemberName name = .ok ⟨⟩) :
    Inward (pathComponents name) := by
  have safe := rejectIf_eq_ok_iff.mp valid
  simp only [not_or] at safe
  obtain ⟨-, -, -, -, noParent, nonempty⟩ := safe
  refine ⟨nonempty, fun component member => ?_⟩
  obtain ⟨listed, normal⟩ := List.mem_filter.mp member
  obtain ⟨filled, notSelf⟩ := of_decide_eq_true normal
  refine ⟨filled, notSelf, fun parent => noParent (parent ▸ listed), ?_⟩
  obtain ⟨part, inside, rfl⟩ := List.mem_map.mp listed
  rw [String.toList_ofList]
  exact not_mem_of_mem_splitOn inside

omit [SnapshotCrates] in
theorem isSome_get_of_verifyMembers {entries : List ZipEntry} {listed : List BackupFile}
    {consumed : Nat} {verified : BundleMembers} {name : String}
    (ran : verifyMembers entries listed consumed members = .ok verified) :
    (verified.get name).isSome ↔
      (members.get name).isSome ∨ ∃ file ∈ listed, file.name = name := by
  induction listed generalizing consumed members with
  | nil =>
      obtain rfl := Except.ok.inj ran
      simp only [List.not_mem_nil, false_and, exists_false, or_false]
  | cons file rest ih =>
      obtain ⟨-, bytes, total, ran⟩ := exists_of_verifyMembers_cons ran
      rw [ih ran, Table.get_insert]
      by_cases same : name = file.name
      · rw [if_pos same]
        exact iff_of_true (.inl rfl) (.inr ⟨file, List.mem_cons_self, same.symm⟩)
      · have apart : file.name ≠ name := fun again => same again.symm
        rw [if_neg same]
        simp only [List.mem_cons, exists_eq_or_imp, apart, false_or]

variable [ZipCrate]

/-- Compacting a snapshot leaves its events as they are. -/
def SanitizeKeepsEvents : Prop :=
  ∀ (database sanitized : List UInt8) (state : SnapshotState),
    openSnapshot database [] = .ok (.ok state) → sanitizeSnapshot database = .ok sanitized →
    ∃ later, openSnapshot sanitized [] = .ok (.ok later) ∧ later.events = state.events

/-- No listed member is at the path of a journal of the database. -/
def NoJournal (manifest : BackupManifest) : Prop :=
  ∀ file ∈ manifest.files,
    pathComponents file.name ≠ [walFile] ∧ pathComponents file.name ≠ [shmFile]

instance (manifest : BackupManifest) : Decidable (NoJournal manifest) :=
  inferInstanceAs (Decidable (∀ file ∈ manifest.files,
    pathComponents file.name ≠ [walFile] ∧ pathComponents file.name ≠ [shmFile]))

/-- What a restore is to trust, once an archive has passed its checks. -/
structure Trusted (members : BundleMembers) (staged : StagedRestore) (dir : DataDir)
    (sidecars : List String) : Prop where
  /-- The snapshot is one whose ledger verified. -/
  verified : ∃ database state total, snapshotOf members = .ok database ∧
    openSnapshot database [] = .ok (.ok state) ∧ Ledger.verify ⟨state.events⟩ = .ok total ∧
    sanitizeSnapshot database = .ok staged.database
  /-- It is what is opened, and nothing beside it. -/
  opened : databaseFiles (swap dir staged sidecars) = ⟨some staged.database, none, none⟩
  /-- No file is staged outside the staging directory. -/
  inward : ∀ file ∈ staged.files.values, Inward file.path
  /-- A staged file holds the bytes of one member. -/
  carried : ∀ file ∈ staged.files.values, CarriedFrom members.values file
  /-- A restore that says so has loaded a ledger that verifies. -/
  sound : ∀ around outcome ledger,
    finishRestore (swap dir staged sidecars) around = .ok (outcome, ledger) →
    outcome.chainVerified = true →
    ∃ state total, openDatabase (databaseFiles (swap dir staged sidecars)) = .ok (.ok state) ∧
      Ledger.verify ⟨state.events⟩ = .ok total

omit [Crates] [SnapshotCrates] [ZipCrate] in
theorem Stages.get_eq_none_iff {listed : List BundleMember} (stages : Stages listed roots files)
    {name : String} (named : name ≠ dbFile ∧ name ≠ "manifest.json") :
    files.get [name] = none ↔ ∀ member ∈ listed, pathComponents member.name ≠ [name] := by
  constructor
  · intro absent member inside here
    have aside : Aside member := by
      constructor
      · intro same
        rw [same] at here
        exact named.1 (List.cons.inj (here.symm.trans (by decide : _ = [dbFile]))).1
      · intro same
        rw [same] at here
        exact named.2 (List.cons.inj (here.symm.trans (by decide : _ = ["manifest.json"]))).1
    obtain ⟨file, found⟩ := stages.complete member inside aside
    rw [here, absent] at found
    cases found
  · intro apart
    cases found : files.get [name] with
    | none => rfl
    | some file =>
        obtain ⟨member, inside, -, located, -⟩ :=
          stages.carried file (Table.mem_values_of_get found)
        exact (apart member inside (located.trans (Table.key_of_get found))).elim

omit [SnapshotCrates] [ZipCrate] in
theorem forall_mem_iff_of_verifyMembers {entries : List ZipEntry} {listed : List BackupFile}
    {consumed : Nat} {verified : BundleMembers} (fits : String → Prop)
    (ran : verifyMembers entries listed consumed .empty = .ok verified) :
    (∀ member ∈ verified.values, fits member.name) ↔ ∀ file ∈ listed, fits file.name := by
  have names := fun name => @isSome_get_of_verifyMembers _ _ _ _ _ _ name ran
  constructor
  · intro all file inside
    obtain ⟨member, found⟩ :=
      Option.isSome_iff_exists.mp ((names file.name).mpr (.inr ⟨file, inside, rfl⟩))
    have named : member.name = file.name := Table.key_of_get found
    rw [← named]
    exact all member (Table.mem_values_of_get found)
  · intro all member inside
    have present : (verified.get member.name).isSome := by
      rw [Table.mem_values.mp inside]
      rfl
    rcases (names member.name).mp present with absent | ⟨file, declared, named⟩
    · rw [Table.get_empty] at absent
      cases absent
    · rw [← named]
      exact all file declared

theorem opened_iff {zip : List UInt8} {manifest : BackupManifest} {database : List UInt8}
    (accepts : Accepts zip manifest members database)
    (carried : stageBackupSidecars members = .ok (staged.roots, staged.files))
    (known : ∀ name ∈ sidecars, name ∈ instanceSidecarNames) (dir : DataDir) :
    databaseFiles (swap dir staged sidecars) = ⟨some staged.database, none, none⟩ ↔
      NoJournal manifest := by
  obtain ⟨entries, consumed, read, verified, found⟩ := accepts
  have stages := stages_of_stageBackupSidecars carried
  have here : dbFile ∉ sidecars := fun member => absurd (known dbFile member) (by decide)
  have none_ : ∀ name, name ≠ dbFile ∧ name ≠ "manifest.json" →
      (staged.files.get [name] = none ↔
        ∀ file ∈ manifest.files, pathComponents file.name ≠ [name]) := fun name named =>
    (stages.get_eq_none_iff named).trans
      (forall_mem_iff_of_verifyMembers (pathComponents · ≠ [name]) verified)
  rw [databaseFiles, swap_database here, swap_journal stages.rooted (by decide) (.inl rfl),
    swap_journal stages.rooted (by decide) (.inr rfl)]
  simp only [DatabaseFiles.mk.injEq, true_and, Option.map_eq_none_iff]
  rw [none_ walFile (by decide), none_ shmFile (by decide)]
  constructor
  · exact fun apart file listed => ⟨apart.1 file listed, apart.2 file listed⟩
  · intro apart
    exact ⟨fun file listed => (apart file listed).1, fun file listed => (apart file listed).2⟩

/-- **What a restore trusts.** The snapshot that was verified is what is opened, every staged
file is within the stage and from one member, and a ledger said to be verified is, exactly
where no listed member is at the path of a journal. -/
theorem trusted_iff (keeps : SanitizeKeepsEvents) {zip : List UInt8} {manifest : BackupManifest}
    {database : List UInt8} (accepts : Accepts zip manifest members database)
    (ran : restoreFromVerifiedZipBytes zip = .ok staged)
    (known : ∀ name ∈ sidecars, name ∈ instanceSidecarNames) (dir : DataDir) :
    Trusted members staged dir sidecars ↔ NoJournal manifest := by
  obtain ⟨declared, others, snapshot, state, total, again, alone, accepted, compacted, carried⟩ :=
    restoreFromVerifiedZipBytes_eq_ok_iff.mp ran
  obtain ⟨rfl, rfl, rfl⟩ := accepts.unique again
  have opened := opened_iff accepts carried known dir
  refine ⟨fun trusted => opened.mp trusted.opened, fun apart => ?_⟩
  have ⟨entries, consumed, read, verified, found⟩ := accepts
  have valid := valid_of_verifyMembers (fun _ absent => (List.not_mem_nil absent).elim) verified
  have stages := stages_of_stageBackupSidecars carried
  refine ⟨⟨database, state, total, found, alone, accepted, compacted⟩, opened.mpr apart,
    fun file inside => ?_, stages.carried, fun around outcome ledger finished _ => ?_⟩
  · obtain ⟨member, listed, -, located, -⟩ := stages.carried file inside
    rw [← located]
    exact inward_of_valid (valid member listed)
  · obtain ⟨later, reopened, same⟩ := keeps database staged.database state alone compacted
    rw [opened.mpr apart]
    refine ⟨later, total, reopened, ?_⟩
    rw [same]
    exact accepted

end Swap

namespace PlantedJournal

open scoped Reference

def listed (name : String) (byte : UInt8) : BackupFile := ⟨name, sha256Hex [byte], 1⟩

def manifest (file : BackupFile) : BackupManifest where
  appVersion := "0.1.0"
  storeSchemaVersion := 1
  ledgerLength := 1
  ledgerVerified := true
  files := [listed dbFile 2, file]

/-- The backup with a file of settings, and the one with a journal. -/
scoped instance zipCrate : ZipCrate where
  readZip bytes := .ok [⟨"manifest.json", some bytes⟩, ⟨dbFile, some [2]⟩,
    ⟨"settings.json", some [3]⟩, ⟨walFile, some [4]⟩]
  writeZip _ := .error "not written here"

/-- With the journal beside it, the snapshot is that of an altered ledger. -/
scoped instance snapshotCrates : SnapshotCrates where
  readBackupManifest bytes :=
    .ok (manifest (if bytes = [0] then listed "settings.json" 3 else listed walFile 4))
  openEnvelope _ _ := .error "encrypted backup could not be authenticated or decrypted"
  openSnapshot _ files := .ok (.ok ⟨if files = [] then singleLink else alteredActor, 0, 0, 0⟩)
  sanitizeSnapshot bytes := .ok bytes

def members (member : BundleMember) : BundleMembers :=
  (Table.empty.insert ⟨dbFile, [2]⟩).insert member

theorem accepts_settings :
    Accepts [0] (manifest (listed "settings.json" 3)) (members ⟨"settings.json", [3]⟩) [2] := by
  have database : validateBackupMemberName dbFile = .ok ⟨⟩ := rejectIf_eq_ok_iff.mpr (by decide)
  have settings : validateBackupMemberName "settings.json" = .ok ⟨⟩ :=
    rejectIf_eq_ok_iff.mpr (by decide)
  refine ⟨_, 1, rfl, ?_, rfl⟩
  refine (verifyMembers_cons database rfl rfl rfl Table.get_empty).trans ?_
  exact verifyMembers_cons settings rfl rfl rfl rfl

theorem accepts_journal :
    Accepts [1] (manifest (listed walFile 4)) (members ⟨walFile, [4]⟩) [2] := by
  have database : validateBackupMemberName dbFile = .ok ⟨⟩ := rejectIf_eq_ok_iff.mpr (by decide)
  have journal : validateBackupMemberName walFile = .ok ⟨⟩ := rejectIf_eq_ok_iff.mpr (by decide)
  refine ⟨_, 1, rfl, ?_, rfl⟩
  refine (verifyMembers_cons database rfl rfl rfl Table.get_empty).trans ?_
  exact verifyMembers_cons journal rfl rfl rfl rfl

theorem keeps : SanitizeKeepsEvents := by
  intro database sanitized state opened compacted
  obtain rfl := Except.ok.inj compacted
  exact ⟨state, opened, rfl⟩

theorem soundAlone : SoundAlone [2] := by
  have verified : Ledger.verify ⟨singleLink⟩ = .ok 1 := by decide +kernel
  exact ⟨_, 1, [2], rfl, verified, rfl⟩

end PlantedJournal

open scoped Reference in
open scoped PlantedJournal in
/-- A backup with a file of settings is restored to what was verified. -/
theorem trusted_settings :
    ∃ staged, restoreFromVerifiedZipBytes [0] = .ok staged ∧
      Trusted (PlantedJournal.members ⟨"settings.json", [3]⟩) staged (fun _ => none)
        instanceSidecarNames := by
  obtain ⟨staged, ran⟩ := restoreFromVerifiedZipBytes_ok_iff.mpr
    ⟨_, _, _, PlantedJournal.accepts_settings, PlantedJournal.soundAlone⟩
  exact ⟨staged, ran, (trusted_iff PlantedJournal.keeps PlantedJournal.accepts_settings ran
    (fun _ member => member) _).mpr (by decide)⟩

open scoped Reference in
open scoped PlantedJournal in
/-- A backup with a journal passes every check, and the journal is opened with the
snapshot. -/
theorem not_trusted_journal :
    ¬∀ (zip : List UInt8) (manifest : BackupManifest) (members : BundleMembers)
      (database : List UInt8) (staged : StagedRestore) (sidecars : List String) (dir : DataDir),
      Accepts zip manifest members database → restoreFromVerifiedZipBytes zip = .ok staged →
      (∀ name ∈ sidecars, name ∈ instanceSidecarNames) → Trusted members staged dir sidecars := by
  intro always
  obtain ⟨staged, ran⟩ := restoreFromVerifiedZipBytes_ok_iff.mpr
    ⟨_, _, _, PlantedJournal.accepts_journal, PlantedJournal.soundAlone⟩
  obtain ⟨_, _, _, _, _, again, -, -, -, carried⟩ := restoreFromVerifiedZipBytes_eq_ok_iff.mp ran
  obtain ⟨rfl, rfl, rfl⟩ := PlantedJournal.accepts_journal.unique again
  have known : ∀ name ∈ ([] : List String), name ∈ instanceSidecarNames := fun _ absent =>
    (List.not_mem_nil absent).elim
  have trusted := always [1] _ _ _ staged [] (fun _ => none) again ran known
  have apart := (opened_iff again carried known _).mp trusted.opened
  exact (apart (PlantedJournal.listed walFile 4)
    (List.mem_cons_of_mem _ List.mem_cons_self)).1 (by decide)

end Chancela.Restore
