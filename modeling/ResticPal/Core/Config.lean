import ResticPal.Lib.BTreeMap
import ResticPal.Lib.Checks
import ResticPal.Rust.Net
import ResticPal.Rust.Path
/-!
# Configuration

`resticpal-core/src/config.rs`: the local layer an administrator edits, the
effective configuration the service runs, and what each accepts. A structure's
field defaults are its `Default`.
-/

open Lib

namespace ResticPal

/-! ## Limits -/

def CONFIG_SCHEMA_VERSION : UInt32 := 1
def MAX_BACKUP_PATHS : Nat := 128
def MAX_EXCLUSIONS : Nat := 512
def MAX_PATH_CHARACTERS : Nat := 32767
def MAX_EXCLUSION_CHARACTERS : Nat := 1024
def MAX_REPOSITORY_URL_CHARACTERS : Nat := 8 * 1024
def MAX_REPOSITORY_DISPLAY_NAME_CHARACTERS : Nat := 256
def MAX_REPOSITORY_OPTIONS : Nat := 64
def MAX_REPOSITORY_OPTION_VALUE_CHARACTERS : Nat := 4 * 1024
def MAX_SECRET_REFERENCE_BYTES : Nat := 64
def MAX_SCHEDULE_INTERVAL_HOURS : UInt32 := 24 * 365
def MAX_RETENTION_COUNT : UInt32 := 10000
def MAX_PRUNE_INTERVAL_DAYS : UInt32 := 365
def MAX_MANAGEMENT_URL_CHARACTERS : Nat := 8 * 1024
def MAX_MANAGEMENT_ID_CHARACTERS : Nat := 256
def MIN_MANAGEMENT_REFRESH_MINUTES : UInt32 := 5
def MAX_MANAGEMENT_REFRESH_MINUTES : UInt32 := 24 * 60
def DEFAULT_INTERVAL_HOURS : UInt32 := 24
def DEFAULT_WAKE_GRACE_SECONDS : UInt64 := 5 * 60
def DEFAULT_WAKE_LOCK_TIMEOUT_SECONDS : UInt64 := 2 * 60 * 60

/-! ## Settings -/

inductive RepositoryMode where
  | Standard
  | AppendOnly
  deriving DecidableEq, Repr

inductive ManagementMode where
  | Disabled
  | PlainManifest
  | SignedManifest
  deriving DecidableEq, Repr

inductive SecretEnvironmentVariable where
  | ResticPassword
  | AwsAccessKeyId
  | AwsSecretAccessKey
  | AwsSessionToken
  | AzureAccountKey
  | B2AccountKey
  | GoogleApplicationCredentials
  | RcloneConfigPassword
  deriving DecidableEq, Repr

namespace SecretEnvironmentVariable

/-- The declaration order, which the derived `Ord` follows. -/
def index : SecretEnvironmentVariable → Nat
  | .ResticPassword => 0
  | .AwsAccessKeyId => 1
  | .AwsSecretAccessKey => 2
  | .AwsSessionToken => 3
  | .AzureAccountKey => 4
  | .B2AccountKey => 5
  | .GoogleApplicationCredentials => 6
  | .RcloneConfigPassword => 7

theorem index_injective : Function.Injective index := by
  intro a b h
  cases a <;> cases b <;> first | rfl | cases h

instance : LinearOrder SecretEnvironmentVariable := LinearOrder.lift' index index_injective

def reference_prefix : SecretEnvironmentVariable → String
  | .ResticPassword => "restic-password"
  | .AwsAccessKeyId => "aws-access-key-id"
  | .AwsSecretAccessKey => "aws-secret-access-key"
  | .AwsSessionToken => "aws-session-token"
  | .AzureAccountKey => "azure-account-key"
  | .B2AccountKey => "b2-account-key"
  | .GoogleApplicationCredentials => "google-credentials"
  | .RcloneConfigPassword => "rclone-config-password"

end SecretEnvironmentVariable

abbrev Options := BTreeMap String String
abbrev SecretRefs := BTreeMap SecretEnvironmentVariable String

structure LocalBackupConfig where
  paths : Option (List PathBuf) := none
  exclusions : Option (List String) := none
  deriving DecidableEq

structure LocalRepositoryConfig where
  display_name : Option String := none
  url : Option String := none
  mode : Option RepositoryMode := none
  options : Option Options := none
  secret_refs : Option SecretRefs := none
  deriving DecidableEq

structure LocalScheduleConfig where
  interval_hours : Option UInt32 := none
  wake_grace_seconds : Option UInt64 := none
  wake_lock_timeout_seconds : Option UInt64 := none
  allow_on_battery : Option Bool := none
  allow_metered_network : Option Bool := none
  deriving DecidableEq

structure LocalRetentionConfig where
  daily : Option UInt32 := none
  weekly : Option UInt32 := none
  monthly : Option UInt32 := none
  yearly : Option UInt32 := none
  prune_interval_days : Option UInt32 := none
  deriving DecidableEq

structure LocalUpdateConfig where
  automatic_install : Option Bool := none
  deriving DecidableEq

structure LocalManagementConfig where
  mode : ManagementMode := .Disabled
  manifest_url : Option String := none
  signing_public_key : Option String := none
  refresh_interval_minutes : Option UInt32 := none
  status_url : Option String := none
  device_id : Option String := none
  status_token_ref : Option String := none
  enrollment_key_ref : Option String := none
  deriving DecidableEq

structure LocalConfig where
  schema_version : UInt32 := CONFIG_SCHEMA_VERSION
  backup : LocalBackupConfig := {}
  repository : LocalRepositoryConfig := {}
  schedule : LocalScheduleConfig := {}
  retention : LocalRetentionConfig := {}
  updates : LocalUpdateConfig := {}
  management : LocalManagementConfig := {}
  deriving DecidableEq

structure BackupConfig where
  paths : List PathBuf := []
  exclusions : List String := []
  deriving DecidableEq

structure RepositoryConfig where
  display_name : Option String := none
  url : Option String := none
  mode : RepositoryMode := .Standard
  options : Options := ∅
  secret_refs : SecretRefs := ∅
  deriving DecidableEq

structure ScheduleConfig where
  interval_hours : UInt32 := DEFAULT_INTERVAL_HOURS
  wake_grace_seconds : UInt64 := DEFAULT_WAKE_GRACE_SECONDS
  wake_lock_timeout_seconds : UInt64 := DEFAULT_WAKE_LOCK_TIMEOUT_SECONDS
  allow_on_battery : Bool := true
  allow_metered_network : Bool := true
  deriving DecidableEq

structure RetentionConfig where
  daily : UInt32 := 7
  weekly : UInt32 := 5
  monthly : UInt32 := 12
  yearly : UInt32 := 3
  prune_interval_days : UInt32 := 7
  deriving DecidableEq

structure UpdateConfig where
  automatic_install : Bool := false
  deriving DecidableEq

structure EffectiveConfig where
  backup : BackupConfig := {}
  repository : RepositoryConfig := {}
  schedule : ScheduleConfig := {}
  retention : RetentionConfig := {}
  updates : UpdateConfig := {}
  deriving DecidableEq

def EffectiveConfig.is_configured (self : EffectiveConfig) : Bool :=
  self.repository.url.isSome && !self.backup.paths.isEmpty

def LocalManagementConfig.refreshIntervalMinutes (self : LocalManagementConfig) : UInt32 :=
  self.refresh_interval_minutes.getD 15

/-! ## Errors -/

inductive ConfigValidationError where
  | EmptyRepositoryUrl
  | InvalidRepositoryUrl
  | InvalidRepositoryDisplayName
  | InvalidScheduleInterval
  | WakeGraceTooLong
  | InvalidWakeLockTimeout
  | TooManyBackupPaths
  | InvalidBackupPath (path : PathBuf)
  | UnsupportedNetworkBackupPath (path : PathBuf)
  | UnsupportedBackupPathNamespace (path : PathBuf)
  | TooManyExclusions
  | InvalidExclusion
  | InvalidRepositoryOption (key : String)
  | SnapshotDisablingRepositoryOption (key : String)
  | InvalidRepositoryOptionValue (key : String)
  | TooManyRepositoryOptions
  | InvalidSecretReference
  | InvalidRetentionCount
  | EmptyRetentionPolicy
  | InvalidPruneInterval
  deriving DecidableEq

def ConfigValidationError.text : ConfigValidationError → String
  | .EmptyRepositoryUrl => "repository URL cannot be empty"
  | .InvalidRepositoryUrl => "repository URL must be a single-line value within the size limit"
  | .InvalidRepositoryDisplayName =>
    "repository display name must be a non-empty single-line value within the size limit"
  | .InvalidScheduleInterval => "schedule interval must be between one hour and 8760 hours"
  | .WakeGraceTooLong => "wake grace period cannot exceed 24 hours"
  | .InvalidWakeLockTimeout => "wake-lock timeout must be between one second and 24 hours"
  | .TooManyBackupPaths => "backup configuration exceeds the maximum of 128 paths"
  | .InvalidBackupPath path =>
    "backup path must be an absolute path within the Windows path-length limit: " ++ path.text
  | .UnsupportedNetworkBackupPath path => "network folders are not supported as backup sources: " ++ path.text
  | .UnsupportedBackupPathNamespace path =>
    "backup source uses an unsupported Windows device namespace: " ++ path.text
  | .TooManyExclusions => "backup configuration exceeds the maximum of 512 exclusions"
  | .InvalidExclusion => "backup exclusions must be non-empty, single-line patterns within the size limit"
  | .InvalidRepositoryOption key => "invalid repository option name: " ++ key
  | .SnapshotDisablingRepositoryOption key =>
    "repository option \"" ++ key ++ "\" is reserved because backups must use Windows filesystem snapshots"
  | .InvalidRepositoryOptionValue key =>
    "repository option value must be a single-line value within the size limit: " ++ key
  | .TooManyRepositoryOptions => "repository configuration exceeds the maximum of 64 options"
  | .InvalidSecretReference => "secret reference IDs must contain 1-64 lowercase letters, digits, or hyphens"
  | .InvalidRetentionCount => "retention counts must be between zero and 10000"
  | .EmptyRetentionPolicy => "retention must keep at least one daily, weekly, monthly, or yearly snapshot"
  | .InvalidPruneInterval => "prune interval must be between one and 365 days"

inductive ManagementConfigError where
  | InvalidRefreshInterval
  | UnexpectedDisabledFields
  | MissingManifestUrl
  | InvalidUrl
  | PlainModeCannotReport
  | MissingSigningKey
  | InvalidSigningKey
  | InsecureTransport
  | IncompleteStatusConfiguration
  | InvalidDeviceId
  | InvalidStatusTokenReference
  | InvalidEnrollmentKeyReference
  deriving DecidableEq

/-! ## Validation -/

def repository_option_disables_source_snapshots (option : String) : Bool :=
  ["vss.exclude-volumes", "vss.exclude-all-mount-points"].any (Text.eq_ignore_ascii_case option)

def is_valid_option_name (value : String) : Bool :=
  match value.toList with
  | [] => false
  | first :: rest => first.isAlphanum && rest.all (fun c => c.isAlphanum || c == '.' || c == '_' || c == '-')

def is_valid_secret_reference (reference : String) : Bool :=
  !Text.is_empty reference && Text.len reference ≤ MAX_SECRET_REFERENCE_BYTES &&
    reference.toList.all (fun c => c.isLower || c.isDigit || c == '-')

/-- The checks on one backup path. -/
def validate_path (path : PathBuf) : Except ConfigValidationError Unit := do
  rejectIf (Text.is_empty path.text || !path.is_absolute || Text.utf16Count path.text > MAX_PATH_CHARACTERS ||
    path.text.toList.contains '\x00') (.InvalidBackupPath path)
  match path.components.head? with
  | some (.Prefix (.UNC _ _)) | some (.Prefix (.VerbatimUNC _ _)) => .error (.UnsupportedNetworkBackupPath path)
  | some (.Prefix (.DeviceNS _)) | some (.Prefix (.Verbatim _)) => .error (.UnsupportedBackupPathNamespace path)
  | _ => .ok ()

/-- The checks on one repository option. -/
def validate_option (option : String × String) : Except ConfigValidationError Unit := do
  rejectIf (repository_option_disables_source_snapshots option.1) (.SnapshotDisablingRepositoryOption option.1)
  rejectIf (!is_valid_option_name option.1) (.InvalidRepositoryOption option.1)
  rejectIf (option.2.length > MAX_REPOSITORY_OPTION_VALUE_CHARACTERS || Text.hasBreak option.2)
    (.InvalidRepositoryOptionValue option.1)

def validate_url (url : String) : Except ConfigValidationError Unit := do
  rejectIf (Text.is_empty (Text.trim url)) .EmptyRepositoryUrl
  rejectIf (url.length > MAX_REPOSITORY_URL_CHARACTERS || Text.hasBreak url) .InvalidRepositoryUrl

def EffectiveConfig.validate (self : EffectiveConfig) : Except ConfigValidationError Unit := do
  forM self.repository.url.toList validate_url
  rejectIf (self.repository.display_name.any (fun name => Text.is_empty (Text.trim name) ||
    name.length > MAX_REPOSITORY_DISPLAY_NAME_CHARACTERS || Text.hasBreak name)) .InvalidRepositoryDisplayName
  rejectIf (!(1 ≤ self.schedule.interval_hours && self.schedule.interval_hours ≤ MAX_SCHEDULE_INTERVAL_HOURS))
    .InvalidScheduleInterval
  rejectIf (self.schedule.wake_grace_seconds > 24 * 60 * 60) .WakeGraceTooLong
  rejectIf (self.schedule.wake_lock_timeout_seconds == 0 || self.schedule.wake_lock_timeout_seconds > 24 * 60 * 60)
    .InvalidWakeLockTimeout
  rejectIf (self.backup.paths.length > MAX_BACKUP_PATHS) .TooManyBackupPaths
  forM self.backup.paths validate_path
  rejectIf (self.backup.exclusions.length > MAX_EXCLUSIONS) .TooManyExclusions
  forM self.backup.exclusions (fun exclusion => rejectIf (Text.is_empty exclusion ||
    exclusion.length > MAX_EXCLUSION_CHARACTERS || Text.hasBreak exclusion) .InvalidExclusion)
  rejectIf (self.repository.options.length > MAX_REPOSITORY_OPTIONS) .TooManyRepositoryOptions
  forM self.repository.options.entries validate_option
  forM self.repository.secret_refs.values
    (fun secret_id => rejectIf (!is_valid_secret_reference secret_id) .InvalidSecretReference)
  let retention := self.retention
  rejectIf ([retention.daily, retention.weekly, retention.monthly, retention.yearly].any (· > MAX_RETENTION_COUNT))
    .InvalidRetentionCount
  rejectIf (retention.daily == 0 && retention.weekly == 0 && retention.monthly == 0 && retention.yearly == 0)
    .EmptyRetentionPolicy
  rejectIf (!(1 ≤ retention.prune_interval_days && retention.prune_interval_days ≤ MAX_PRUNE_INTERVAL_DAYS))
    .InvalidPruneInterval

theorem EffectiveConfig.validate_schedule {c : EffectiveConfig} (h : c.validate = .ok ()) :
    1 ≤ c.schedule.interval_hours ∧ c.schedule.interval_hours ≤ MAX_SCHEDULE_INTERVAL_HOURS ∧
      c.schedule.wake_grace_seconds ≤ 24 * 60 * 60 := by
  simp only [validate, check_bind_eq_ok, rejectIf_eq_ok] at h
  obtain ⟨-, -, hi, hg, -⟩ := h
  have hi' : 1 ≤ c.schedule.interval_hours ∧ c.schedule.interval_hours ≤ MAX_SCHEDULE_INTERVAL_HOURS := by
    simpa using hi
  exact ⟨hi'.1, hi'.2, by simpa using hg⟩

section Management

-- `Url::parse` of the `url` crate.
variable (parse_url : String → Option Url)

def validate_management_url (value : Option String) : Except ManagementConfigError Url := do
  let some value := value | .error .MissingManifestUrl
  rejectIf (value.length > MAX_MANAGEMENT_URL_CHARACTERS || Text.hasBreak value) .InvalidUrl
  let some url := parse_url value | .error .InvalidUrl
  rejectIf (!(url.scheme == "http" || url.scheme == "https") || url.host_str.isNone ||
    !Text.is_empty url.username || url.password.isSome || url.fragment.isSome) .InvalidUrl
  return url

def validate_signed_transport (value : Url) : Except ManagementConfigError Unit :=
  let loopback := value.host_str.any
    (fun host => Text.eq_ignore_ascii_case host "localhost" || IpAddr.parses_as_loopback host)
  rejectIf (!(value.scheme == "https" || loopback)) .InsecureTransport

def LocalManagementConfig.validate (self : LocalManagementConfig) : Except ManagementConfigError Unit := do
  let refresh := self.refresh_interval_minutes.getD 15
  rejectIf (!(MIN_MANAGEMENT_REFRESH_MINUTES ≤ refresh && refresh ≤ MAX_MANAGEMENT_REFRESH_MINUTES))
    .InvalidRefreshInterval
  match self.mode with
  | .Disabled =>
    rejectIf (self.manifest_url.isSome || self.signing_public_key.isSome || self.status_url.isSome ||
      self.device_id.isSome || self.status_token_ref.isSome || self.enrollment_key_ref.isSome)
      .UnexpectedDisabledFields
  | .PlainManifest =>
    let manifest_url ← validate_management_url parse_url self.manifest_url
    validate_signed_transport manifest_url
    rejectIf (self.signing_public_key.isSome || self.status_url.isSome || self.device_id.isSome ||
      self.status_token_ref.isSome || self.enrollment_key_ref.isSome) .PlainModeCannotReport
  | .SignedManifest =>
    let manifest_url ← validate_management_url parse_url self.manifest_url
    validate_signed_transport manifest_url
    let some key := self.signing_public_key | .error .MissingSigningKey
    rejectIf (Text.is_empty key || Text.len key > 256 || Text.hasBreak key) .InvalidSigningKey
    let reporting_fields := [self.status_url.isSome, self.device_id.isSome, self.status_token_ref.isSome]
    rejectIf (reporting_fields.any id && !reporting_fields.all id) .IncompleteStatusConfiguration
    match self.status_url with
    | some status_url =>
      let status_url ← validate_management_url parse_url (some status_url)
      validate_signed_transport status_url
    | none => .ok ()
    rejectIf (self.device_id.any (fun value => Text.is_empty value || Text.len value > MAX_MANAGEMENT_ID_CHARACTERS ||
      !value.toList.all (fun c => c.isAlphanum || c == '-' || c == '_'))) .InvalidDeviceId
    rejectIf (self.status_token_ref.any (!is_valid_secret_reference ·)) .InvalidStatusTokenReference
    rejectIf (self.enrollment_key_ref.any (!is_valid_secret_reference ·)) .InvalidEnrollmentKeyReference

end Management

end ResticPal
