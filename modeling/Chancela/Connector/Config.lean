import Chancela.Crates.Basic
import Chancela.Foundation.Outcome

/-! # Connector targets

Where a job uploads to: the eight kinds of targets with their fields, and the checks of a
configuration. A URL is parsed by a crate (`Chancela.UrlCrate`).
-/

namespace Chancela

open Outcome

inductive JobPurpose where
  | sync
  | backup
deriving DecidableEq

inductive ConnectorKind where
  | local_
  | webDav
  | microsoftGraph
  | googleDrive
  | sftp
  | ftps
  | smb
  | s3
deriving DecidableEq

structure LocalTarget where
  id : String
  root : String
deriving DecidableEq

inductive WebDavAuth where
  | basic (username passwordRef : String)
  | bearer (tokenRef : String)
deriving DecidableEq

structure WebDavTarget where
  id : String
  baseUrl : String
  auth : WebDavAuth
  timeoutSeconds : UInt64
  allowInsecureHttp : Bool
deriving DecidableEq

structure GraphTarget where
  id : String
  driveId : String
  parentItemId : String
  tokenRef : String
  apiBaseUrl : String
  timeoutSeconds : UInt64
  allowInsecureHttp : Bool
deriving DecidableEq

structure GoogleDriveTarget where
  id : String
  parentFolderId : String
  tokenRef : String
  apiBaseUrl : String
  timeoutSeconds : UInt64
  allowInsecureHttp : Bool
deriving DecidableEq

structure SftpTarget where
  id : String
  host : String
  port : UInt16
  username : String
  passwordRef : String
  hostKeySha256 : String
  root : String
  timeoutSeconds : UInt64
deriving DecidableEq

structure FtpsTarget where
  id : String
  host : String
  port : UInt16
  username : String
  passwordRef : String
  root : String
  timeoutSeconds : UInt64
deriving DecidableEq

structure SmbTarget where
  id : String
  host : String
  port : UInt16
  share : String
  username : String
  domain : String
  passwordRef : String
  root : String
  timeoutSeconds : UInt64
  allowUnencrypted : Bool
deriving DecidableEq

structure S3Target where
  id : String
  bucket : String
  keyPrefix : String
  region : String
  endpointUrl : Option String
  forcePathStyle : Bool
  accessKeyRef : String
  secretKeyRef : String
  sessionTokenRef : Option String
  timeoutSeconds : UInt64
  allowInsecureHttp : Bool
deriving DecidableEq

inductive TargetConfig where
  | local_ (value : LocalTarget)
  | webDav (value : WebDavTarget)
  | microsoftGraph (value : GraphTarget)
  | googleDrive (value : GoogleDriveTarget)
  | sftp (value : SftpTarget)
  | ftps (value : FtpsTarget)
  | smb (value : SmbTarget)
  | s3 (value : S3Target)
deriving DecidableEq

/-- `reqwest::Url`, as far as the checks read it. -/
structure ParsedUrl where
  scheme : String
  username : String
  password : Option String
  hostStr : Option String

/-- `reqwest::Url::parse`. -/
class UrlCrate where
  parseUrl : String → Option ParsedUrl

export UrlCrate (parseUrl)

/-- `validate_id`. -/
def validateTargetId (value : String) : Except String Unit :=
  if value ≠ "" ∧ Text.byteLen value ≤ 64 ∧
      value.toList.all (fun c => c.isAlphanum || c == '-' || c == '_' || c == '.') then .ok ()
  else .error "invalid target id"

/-- `SECRET_PREFIX`. -/
def secretLead : String := "CHANCELA_CONNECTOR_SECRET_"

def validateReference (reference : String) : Except String Unit :=
  let suffix := (Text.stripPrefix reference secretLead).getD ""
  if suffix ≠ "" ∧ Text.byteLen reference ≤ 128 ∧
      suffix.toList.all (fun c => c.isUpper || c.isDigit || c == '_') then .ok ()
  else .error ("credential references must start with " ++ secretLead
    ++ " and contain only A-Z, 0-9, and underscore")

def validateNetworkUrl [UrlCrate] (value label : String) (allowInsecureHttp : Bool) :
    Except String Unit :=
  match parseUrl value with
  | none => .error ("invalid " ++ label ++ " URL")
  | some url => do
      rejectIf (url.username ≠ "" ∨ url.password.isSome)
        (label ++ " URL must not contain user information")
      rejectIf (url.scheme ≠ "https" ∧ ¬(url.scheme = "http" ∧ allowInsecureHttp = true))
        (label ++ " URL must use HTTPS unless allow_insecure_http is explicitly enabled")
      rejectIf (url.hostStr = none) (label ++ " URL has no host")

def validateTimeout (value : UInt64) : Except String Unit :=
  if 1 ≤ value ∧ value ≤ 600 then .ok () else .error "timeout_seconds must be between 1 and 600"

def requireNonEmpty (value label : String) : Except String Unit :=
  if Text.trim value = "" then .error (label ++ " is empty") else .ok ()

/-- A part of the path is `.` or `..`. -/
def hasTraversal (path : String) : Bool :=
  (path.toList.splitOnP fun c => c == '/' || c == '\\').any fun part =>
    part == ['.'] || part == ['.', '.']

section Validate

variable [UrlCrate]

def WebDavTarget.validate (target : WebDavTarget) : Except String Unit := do
  validateNetworkUrl target.baseUrl "WebDAV" target.allowInsecureHttp
  match target.auth with
  | .basic _ passwordRef => validateReference passwordRef
  | .bearer tokenRef => validateReference tokenRef
  validateTimeout target.timeoutSeconds

def GraphTarget.validate (target : GraphTarget) : Except String Unit := do
  validateNetworkUrl target.apiBaseUrl "Microsoft Graph" target.allowInsecureHttp
  requireNonEmpty target.driveId "Graph drive_id"
  requireNonEmpty target.parentItemId "Graph parent_item_id"
  validateReference target.tokenRef
  validateTimeout target.timeoutSeconds

def GoogleDriveTarget.validate (target : GoogleDriveTarget) : Except String Unit := do
  validateNetworkUrl target.apiBaseUrl "Google Drive" target.allowInsecureHttp
  requireNonEmpty target.parentFolderId "Google parent_folder_id"
  validateReference target.tokenRef
  validateTimeout target.timeoutSeconds

def SftpTarget.validate (target : SftpTarget) : Except String Unit := do
  requireNonEmpty target.host "SFTP host"
  requireNonEmpty target.username "SFTP username"
  validateReference target.passwordRef
  rejectIf ((Text.stripPrefix target.hostKeySha256 "SHA256:").isNone)
    "SFTP host_key_sha256 must be an OpenSSH SHA256 fingerprint"
  validateTimeout target.timeoutSeconds

def FtpsTarget.validate (target : FtpsTarget) : Except String Unit := do
  requireNonEmpty target.host "FTPS host"
  requireNonEmpty target.username "FTPS username"
  validateReference target.passwordRef
  validateTimeout target.timeoutSeconds

def SmbTarget.validate (target : SmbTarget) : Except String Unit := do
  requireNonEmpty target.host "SMB host"
  requireNonEmpty target.share "SMB share"
  requireNonEmpty target.username "SMB username"
  validateReference target.passwordRef
  rejectIf (hasTraversal target.root = true) "SMB root contains traversal"
  validateTimeout target.timeoutSeconds

def S3Target.validate (target : S3Target) : Except String Unit := do
  requireNonEmpty target.bucket "S3 bucket"
  requireNonEmpty target.region "S3 region"
  validateReference target.accessKeyRef
  validateReference target.secretKeyRef
  match target.sessionTokenRef with
  | some reference => validateReference reference
  | none => .ok ()
  match target.endpointUrl with
  | some endpoint => validateNetworkUrl endpoint "S3 endpoint" target.allowInsecureHttp
  | none => .ok ()
  rejectIf (hasTraversal target.keyPrefix = true) "S3 prefix contains traversal"
  validateTimeout target.timeoutSeconds

end Validate

namespace TargetConfig

def id : TargetConfig → String
  | .local_ value => value.id
  | .webDav value => value.id
  | .microsoftGraph value => value.id
  | .googleDrive value => value.id
  | .sftp value => value.id
  | .ftps value => value.id
  | .smb value => value.id
  | .s3 value => value.id

def kind : TargetConfig → ConnectorKind
  | .local_ _ => .local_
  | .webDav _ => .webDav
  | .microsoftGraph _ => .microsoftGraph
  | .googleDrive _ => .googleDrive
  | .sftp _ => .sftp
  | .ftps _ => .ftps
  | .smb _ => .smb
  | .s3 _ => .s3

def withId (config : TargetConfig) (id : String) : TargetConfig :=
  match config with
  | .local_ value => .local_ { value with id }
  | .webDav value => .webDav { value with id }
  | .microsoftGraph value => .microsoftGraph { value with id }
  | .googleDrive value => .googleDrive { value with id }
  | .sftp value => .sftp { value with id }
  | .ftps value => .ftps { value with id }
  | .smb value => .smb { value with id }
  | .s3 value => .s3 { value with id }

/-- `TargetConfig::validate`, with the message of the configuration error. -/
def validate [UrlCrate] (config : TargetConfig) : Except String Unit := do
  validateTargetId config.id
  match config with
  | .local_ value => rejectIf (value.root = "") "local root is empty"
  | .webDav value => value.validate
  | .microsoftGraph value => value.validate
  | .googleDrive value => value.validate
  | .sftp value => value.validate
  | .ftps value => value.validate
  | .smb value => value.validate
  | .s3 value => value.validate

@[simp] theorem id_withId (config : TargetConfig) (id : String) : (config.withId id).id = id := by
  cases config <;> rfl

@[simp] theorem kind_withId (config : TargetConfig) (id : String) :
    (config.withId id).kind = config.kind := by
  cases config <;> rfl

end TargetConfig

/-- URLs of a scheme and a host, without user information. -/
scoped instance Reference.urlCrate : UrlCrate where
  parseUrl value :=
    (Text.stripPrefix value "https://").map fun host =>
      { scheme := "https"
        username := ""
        password := none
        hostStr := if host = "" then none else some host }

end Chancela
