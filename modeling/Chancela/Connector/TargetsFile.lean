import Chancela.Connector.Registry
import Chancela.Foundation.JsonCodec

/-! # The file of the connector targets

`write_targets_atomic` writes the records of the registry as one JSON document, `load_targets`
reads it back: all of it, or nothing where the document is too long, does not parse or holds a
record that is not valid.
-/

namespace Chancela

open Json

/-- What `serde_json` and `uuid` do with the document. A value that nests below the recursion
limit of the reader is read back from its text. -/
class SerdeCrates where
  toVecPretty : Json → List UInt8
  fromSlice : List UInt8 → Option Json
  parseUuidStr : String → Option Uuid
  fromSlice_toVecPretty : ∀ json, json.readable 127 = true →
    fromSlice (toVecPretty json) = some json
  parseUuidStr_display : ∀ uuid, parseUuidStr uuid.display = some uuid

export SerdeCrates (toVecPretty fromSlice parseUuidStr)

/-! ### Derived readers and writers -/

instance [SerdeCrates] : JsonCodec Uuid where
  encode uuid := .str uuid.display
  decode
    | .str text => parseUuidStr text
    | _ => none
  levels := 0
  decode_encode uuid := SerdeCrates.parseUuidStr_display uuid
  encode_ne_null _ same := by cases same
  readable_encode _ := rfl

/-- `JobPurpose`, by the names of its variants. -/
def JobPurpose.serialName : JobPurpose → String
  | .sync => "sync"
  | .backup => "backup"

instance : JsonCodec JobPurpose where
  encode purpose := .str purpose.serialName
  decode
    | .str "sync" => some .sync
    | .str "backup" => some .backup
    | _ => none
  levels := 0
  decode_encode purpose := by cases purpose <;> rfl
  encode_ne_null _ same := by cases same
  readable_encode _ := rfl

/-- A `BTreeSet` of purposes in its order. -/
def purposeList (purposes : Finset JobPurpose) : List JobPurpose :=
  [.sync, .backup].filter (· ∈ purposes)

theorem toFinset_purposeList (purposes : Finset JobPurpose) :
    (purposeList purposes).toFinset = purposes := by
  ext purpose
  unfold purposeList
  cases purpose <;> simp

instance : JsonCodec (Finset JobPurpose) where
  encode purposes := encode (purposeList purposes)
  decode json := (decode json : Option (List JobPurpose)).map List.toFinset
  levels := 1
  decode_encode purposes := by
    rw [JsonCodec.decode_encode, Option.map_some, toFinset_purposeList]
  encode_ne_null _ := JsonCodec.encode_ne_null _
  readable_encode purposes := JsonCodec.readable_encode (purposeList purposes)

/-- `WebDavAuth`, tagged by `mode`. -/
instance : JsonCodec WebDavAuth where
  encode
    | .basic username passwordRef =>
        .obj [("mode", .str "basic"), ("username", encode username),
          ("password_ref", encode passwordRef)]
    | .bearer tokenRef => .obj [("mode", .str "bearer"), ("token_ref", encode tokenRef)]
  decode json :=
    match untag "mode" json with
    | some ("basic", fields) => do
        let fields ← fieldsOf ["username", "password_ref"] (.obj fields)
        return .basic (← required fields "username") (← required fields "password_ref")
    | some ("bearer", fields) => do
        let fields ← fieldsOf ["token_ref"] (.obj fields)
        return .bearer (← required fields "token_ref")
    | _ => none
  levels := 1
  decode_encode auth := by
    cases auth with
    | basic username passwordRef =>
        dsimp only
        rw [untag_cons (by simp)]
        rfl
    | bearer tokenRef =>
        dsimp only
        rw [untag_cons (by simp)]
        rfl
  encode_ne_null auth same := by cases auth <;> cases same
  readable_encode auth := by cases auth <;> rfl

/-! Defaults of the fields. -/

def defaultTimeout : UInt64 := 60

def defaultGraphBase : String := "https://graph.microsoft.com/v1.0"

def defaultGoogleBase : String := "https://www.googleapis.com"

def defaultS3Region : String := "us-east-1"

def defaultSftpPort : UInt16 := 22

def defaultFtpsPort : UInt16 := 21

def defaultSmbPort : UInt16 := 445

instance : StructCodec LocalTarget where
  keys := ["id", "root"]
  write target := [("id", encode target.id), ("root", encode target.root)]
  read fields := do
    return {
      id := ← required fields "id"
      root := ← required fields "root" }
  levels := 0
  distinct := by decide
  keys_write _ := rfl
  read_write target := by simp
  readable_write target := by simp (disch := decide) [JsonCodec.readable_of_le]

instance : StructCodec WebDavTarget where
  keys := ["id", "base_url", "auth", "timeout_seconds", "allow_insecure_http"]
  write target := [("id", encode target.id), ("base_url", encode target.baseUrl),
    ("auth", encode target.auth), ("timeout_seconds", encode target.timeoutSeconds),
    ("allow_insecure_http", encode target.allowInsecureHttp)]
  read fields := do
    return {
      id := ← required fields "id"
      baseUrl := ← required fields "base_url"
      auth := ← required fields "auth"
      timeoutSeconds := ← withDefault fields "timeout_seconds" defaultTimeout
      allowInsecureHttp := ← withDefault fields "allow_insecure_http" false }
  levels := 1
  distinct := by decide
  keys_write _ := rfl
  read_write target := by simp
  readable_write target := by simp (disch := decide) [JsonCodec.readable_of_le]

instance : StructCodec GraphTarget where
  keys := ["id", "drive_id", "parent_item_id", "token_ref", "api_base_url", "timeout_seconds",
    "allow_insecure_http"]
  write target := [("id", encode target.id), ("drive_id", encode target.driveId),
    ("parent_item_id", encode target.parentItemId), ("token_ref", encode target.tokenRef),
    ("api_base_url", encode target.apiBaseUrl), ("timeout_seconds", encode target.timeoutSeconds),
    ("allow_insecure_http", encode target.allowInsecureHttp)]
  read fields := do
    return {
      id := ← required fields "id"
      driveId := ← required fields "drive_id"
      parentItemId := ← required fields "parent_item_id"
      tokenRef := ← required fields "token_ref"
      apiBaseUrl := ← withDefault fields "api_base_url" defaultGraphBase
      timeoutSeconds := ← withDefault fields "timeout_seconds" defaultTimeout
      allowInsecureHttp := ← withDefault fields "allow_insecure_http" false }
  levels := 0
  distinct := by decide
  keys_write _ := rfl
  read_write target := by simp
  readable_write target := by simp (disch := decide) [JsonCodec.readable_of_le]

instance : StructCodec GoogleDriveTarget where
  keys := ["id", "parent_folder_id", "token_ref", "api_base_url", "timeout_seconds",
    "allow_insecure_http"]
  write target := [("id", encode target.id), ("parent_folder_id", encode target.parentFolderId),
    ("token_ref", encode target.tokenRef), ("api_base_url", encode target.apiBaseUrl),
    ("timeout_seconds", encode target.timeoutSeconds),
    ("allow_insecure_http", encode target.allowInsecureHttp)]
  read fields := do
    return {
      id := ← required fields "id"
      parentFolderId := ← required fields "parent_folder_id"
      tokenRef := ← required fields "token_ref"
      apiBaseUrl := ← withDefault fields "api_base_url" defaultGoogleBase
      timeoutSeconds := ← withDefault fields "timeout_seconds" defaultTimeout
      allowInsecureHttp := ← withDefault fields "allow_insecure_http" false }
  levels := 0
  distinct := by decide
  keys_write _ := rfl
  read_write target := by simp
  readable_write target := by simp (disch := decide) [JsonCodec.readable_of_le]

instance : StructCodec SftpTarget where
  keys := ["id", "host", "port", "username", "password_ref", "host_key_sha256", "root",
    "timeout_seconds"]
  write target := [("id", encode target.id), ("host", encode target.host),
    ("port", encode target.port), ("username", encode target.username),
    ("password_ref", encode target.passwordRef), ("host_key_sha256", encode target.hostKeySha256),
    ("root", encode target.root), ("timeout_seconds", encode target.timeoutSeconds)]
  read fields := do
    return {
      id := ← required fields "id"
      host := ← required fields "host"
      port := ← withDefault fields "port" defaultSftpPort
      username := ← required fields "username"
      passwordRef := ← required fields "password_ref"
      hostKeySha256 := ← required fields "host_key_sha256"
      root := ← required fields "root"
      timeoutSeconds := ← withDefault fields "timeout_seconds" defaultTimeout }
  levels := 0
  distinct := by decide
  keys_write _ := rfl
  read_write target := by simp
  readable_write target := by simp (disch := decide) [JsonCodec.readable_of_le]

instance : StructCodec FtpsTarget where
  keys := ["id", "host", "port", "username", "password_ref", "root", "timeout_seconds"]
  write target := [("id", encode target.id), ("host", encode target.host),
    ("port", encode target.port), ("username", encode target.username),
    ("password_ref", encode target.passwordRef), ("root", encode target.root),
    ("timeout_seconds", encode target.timeoutSeconds)]
  read fields := do
    return {
      id := ← required fields "id"
      host := ← required fields "host"
      port := ← withDefault fields "port" defaultFtpsPort
      username := ← required fields "username"
      passwordRef := ← required fields "password_ref"
      root := ← required fields "root"
      timeoutSeconds := ← withDefault fields "timeout_seconds" defaultTimeout }
  levels := 0
  distinct := by decide
  keys_write _ := rfl
  read_write target := by simp
  readable_write target := by simp (disch := decide) [JsonCodec.readable_of_le]

instance : StructCodec SmbTarget where
  keys := ["id", "host", "port", "share", "username", "domain", "password_ref", "root",
    "timeout_seconds", "allow_unencrypted"]
  write target := [("id", encode target.id), ("host", encode target.host),
    ("port", encode target.port), ("share", encode target.share),
    ("username", encode target.username), ("domain", encode target.domain),
    ("password_ref", encode target.passwordRef), ("root", encode target.root),
    ("timeout_seconds", encode target.timeoutSeconds),
    ("allow_unencrypted", encode target.allowUnencrypted)]
  read fields := do
    return {
      id := ← required fields "id"
      host := ← required fields "host"
      port := ← withDefault fields "port" defaultSmbPort
      share := ← required fields "share"
      username := ← required fields "username"
      domain := ← withDefault fields "domain" ""
      passwordRef := ← required fields "password_ref"
      root := ← required fields "root"
      timeoutSeconds := ← withDefault fields "timeout_seconds" defaultTimeout
      allowUnencrypted := ← withDefault fields "allow_unencrypted" false }
  levels := 0
  distinct := by decide
  keys_write _ := rfl
  read_write target := by simp
  readable_write target := by simp (disch := decide) [JsonCodec.readable_of_le]

instance : StructCodec S3Target where
  keys := ["id", "bucket", "prefix", "region", "endpoint_url", "force_path_style",
    "access_key_ref", "secret_key_ref", "session_token_ref", "timeout_seconds",
    "allow_insecure_http"]
  write target := [("id", encode target.id), ("bucket", encode target.bucket),
    ("prefix", encode target.keyPrefix), ("region", encode target.region),
    ("endpoint_url", encodeOption target.endpointUrl),
    ("force_path_style", encode target.forcePathStyle),
    ("access_key_ref", encode target.accessKeyRef), ("secret_key_ref", encode target.secretKeyRef),
    ("session_token_ref", encodeOption target.sessionTokenRef),
    ("timeout_seconds", encode target.timeoutSeconds),
    ("allow_insecure_http", encode target.allowInsecureHttp)]
  read fields := do
    return {
      id := ← required fields "id"
      bucket := ← required fields "bucket"
      keyPrefix := ← withDefault fields "prefix" ""
      region := ← withDefault fields "region" defaultS3Region
      endpointUrl := ← optionalField fields "endpoint_url"
      forcePathStyle := ← withDefault fields "force_path_style" false
      accessKeyRef := ← required fields "access_key_ref"
      secretKeyRef := ← required fields "secret_key_ref"
      sessionTokenRef := ← optionalField fields "session_token_ref"
      timeoutSeconds := ← withDefault fields "timeout_seconds" defaultTimeout
      allowInsecureHttp := ← withDefault fields "allow_insecure_http" false }
  levels := 0
  distinct := by decide
  keys_write _ := rfl
  read_write target := by simp
  readable_write target := by simp (disch := decide) [JsonCodec.readable_of_le]

/-- `TargetConfig`, tagged by `kind`. -/
instance : JsonCodec TargetConfig where
  encode
    | .local_ value => StructCodec.tagged "kind" "local" value
    | .webDav value => StructCodec.tagged "kind" "web_dav" value
    | .microsoftGraph value => StructCodec.tagged "kind" "microsoft_graph" value
    | .googleDrive value => StructCodec.tagged "kind" "google_drive" value
    | .sftp value => StructCodec.tagged "kind" "sftp" value
    | .ftps value => StructCodec.tagged "kind" "ftps" value
    | .smb value => StructCodec.tagged "kind" "smb" value
    | .s3 value => StructCodec.tagged "kind" "s3" value
  decode json :=
    match untag "kind" json with
    | some ("local", fields) => (StructCodec.readFields fields).map .local_
    | some ("web_dav", fields) => (StructCodec.readFields fields).map .webDav
    | some ("microsoft_graph", fields) => (StructCodec.readFields fields).map .microsoftGraph
    | some ("google_drive", fields) => (StructCodec.readFields fields).map .googleDrive
    | some ("sftp", fields) => (StructCodec.readFields fields).map .sftp
    | some ("ftps", fields) => (StructCodec.readFields fields).map .ftps
    | some ("smb", fields) => (StructCodec.readFields fields).map .smb
    | some ("s3", fields) => (StructCodec.readFields fields).map .s3
    | _ => none
  levels := 2
  decode_encode config := by
    cases config with
    | _ value =>
        dsimp only
        rw [StructCodec.untag_tagged value (by decide)]
        exact congrArg (Option.map _) (StructCodec.readFields_write value)
  encode_ne_null config same := by cases config <;> cases same
  readable_encode config := by
    cases config <;> exact StructCodec.readable_tagged _ (by decide)

instance [SerdeCrates] : StructCodec ConnectorTargetRecord where
  keys := ["schema_version", "id", "repository_id", "tenant_id", "name", "enabled", "purposes",
    "config", "created_at", "updated_at", "archived_at"]
  write record := [("schema_version", encode record.schemaVersion), ("id", encode record.id),
    ("repository_id", encode record.repositoryId), ("tenant_id", encode record.tenantId),
    ("name", encode record.name), ("enabled", encode record.enabled),
    ("purposes", encode record.purposes), ("config", encode record.config),
    ("created_at", encode record.createdAt), ("updated_at", encode record.updatedAt),
    ("archived_at", encodeOption record.archivedAt)]
  read fields := do
    return {
      schemaVersion := ← required fields "schema_version"
      id := ← required fields "id"
      repositoryId := ← required fields "repository_id"
      tenantId := ← required fields "tenant_id"
      name := ← required fields "name"
      enabled := ← required fields "enabled"
      purposes := ← required fields "purposes"
      config := ← required fields "config"
      createdAt := ← required fields "created_at"
      updatedAt := ← required fields "updated_at"
      archivedAt := ← optionalField fields "archived_at" }
  levels := 2
  distinct := by decide
  keys_write _ := rfl
  read_write record := by simp
  readable_write record := by simp (disch := exact Nat.le_of_ble_eq_true rfl) [JsonCodec.readable_of_le]

/-! ### The document -/

def maxTargetsFileBytes : Nat := 1024 * 1024

/-- `write_targets_atomic`: the bytes of the new file. -/
def writeTargets [SerdeCrates] (targets : ConnectorTargetMap) : List UInt8 :=
  toVecPretty (encode targets.records)

def ConnectorTargetRecord.loadable [UrlCrate] (record : ConnectorTargetRecord) : Bool :=
  record.schemaVersion = 1 && record.config.id = record.id.display && record.config.validate.isOk &&
    record.config.kind ≠ .local_ && (validatePurposes record.purposes record.config).isOk

/-- The records one after the other, up to one that is invalid or stands twice. -/
def loadTargetRecords [UrlCrate] (targets : ConnectorTargetMap) :
    List ConnectorTargetRecord → Option ConnectorTargetMap
  | [] => some targets
  | record :: rest =>
      if record.loadable = false ∨ (targets.get record.id).isSome = true then none
      else loadTargetRecords (targets.insert record) rest

/-- `load_targets`, from the bytes of the file if there is one. -/
def loadTargets [UrlCrate] [SerdeCrates] : Option (List UInt8) → ConnectorTargetMap
  | none => .empty
  | some bytes =>
      if bytes.length > maxTargetsFileBytes then .empty
      else
        match (fromSlice bytes).bind decode with
        | none => .empty
        | some records => (loadTargetRecords .empty records).getD .empty

section RoundTrip

variable [UrlCrate] {targets : ConnectorTargetMap}

theorem loadTargetRecords_eq {records : List ConnectorTargetRecord}
    (valid : ∀ record ∈ records, record.loadable = true)
    (distinct : (records.map ConnectorTargetRecord.id).Nodup)
    (absent : ∀ record ∈ records, targets.get record.id = none) :
    loadTargetRecords targets records = some (records.foldl Table.insert targets) := by
  induction records generalizing targets with
  | nil => rfl
  | cons record rest ih =>
      rw [List.map_cons, List.nodup_cons] at distinct
      have taken : ¬ (record.loadable = false ∨ (targets.get record.id).isSome = true) := by
        rw [valid record List.mem_cons_self, absent record List.mem_cons_self]
        exact fun refused => refused.elim Bool.noConfusion Bool.noConfusion
      rw [loadTargetRecords, if_neg taken, List.foldl_cons]
      apply ih (fun other member => valid other (List.mem_cons_of_mem _ member)) distinct.2
      intro other member
      have apart : other.id ≠ record.id := fun same =>
        distinct.1 (same ▸ List.mem_map_of_mem member)
      rw [Table.get_insert, if_neg apart]
      exact absent other (List.mem_cons_of_mem _ member)

omit [UrlCrate] in
theorem perm_records (targets : ConnectorTargetMap) : targets.records.Perm targets.values :=
  List.mergeSort_perm ..

variable [SerdeCrates]

omit [UrlCrate] in
theorem fromSlice_writeTargets (targets : ConnectorTargetMap) :
    (fromSlice (writeTargets targets)).bind decode = some targets.records := by
  have shallow : (encode targets.records).readable 127 = true :=
    JsonCodec.readable_of_le targets.records (Nat.le_of_ble_eq_true rfl)
  rw [writeTargets, SerdeCrates.fromSlice_toVecPretty _ shallow, Option.bind_some,
    JsonCodec.decode_encode]

theorem loadTargets_writeTargets (valid : ∀ record ∈ targets.values, record.loadable = true)
    (short : (writeTargets targets).length ≤ maxTargetsFileBytes) :
    (loadTargets (some (writeTargets targets))).get = targets.get := by
  have taken : loadTargetRecords .empty targets.records =
    some (Table.fromIter targets.records) := by
    apply loadTargetRecords_eq
    · intro record member
      exact valid record ((perm_records targets).mem_iff.mp member)
    · exact ((perm_records targets).map _).nodup_iff.mpr Table.nodup_map_values
    · intro record _
      exact Table.get_empty
  unfold loadTargets
  dsimp only
  rw [if_neg (Nat.not_lt.mpr short), fromSlice_writeTargets]
  dsimp only
  rw [taken, Option.getD_some]
  exact Table.get_fromIter_of_perm (perm_records targets)

theorem loadTargets_of_long {bytes : List UInt8} (long : maxTargetsFileBytes < bytes.length) :
    loadTargets (some bytes) = .empty :=
  if_pos long

/-- **Valid records survive a restart exactly when their document is short enough.** -/
theorem loadTargets_writeTargets_iff (valid : ∀ record ∈ targets.values, record.loadable = true) :
    (∀ target, (loadTargets (some (writeTargets targets))).get target = targets.get target) ↔
      targets.values = [] ∨ (writeTargets targets).length ≤ maxTargetsFileBytes := by
  constructor
  · intro same
    by_contra neither
    obtain ⟨inhabited, long⟩ := not_or.mp neither
    obtain ⟨record, member⟩ := List.exists_mem_of_ne_nil _ inhabited
    have lost := same record.id
    rw [loadTargets_of_long (Nat.lt_of_not_le long), Table.get_empty,
      Table.mem_values.mp member] at lost
    cases lost
  · intro fits
    by_cases short : (writeTargets targets).length ≤ maxTargetsFileBytes
    · exact fun target => congrFun (loadTargets_writeTargets valid short) target
    · have none_ := fits.resolve_right short
      intro target
      rw [loadTargets_of_long (Nat.lt_of_not_le short), Table.get_empty]
      cases present : targets.get target with
      | none => rfl
      | some record =>
          have member := Table.mem_values_of_get present
          rw [none_] at member
          cases member

end RoundTrip

end Chancela
