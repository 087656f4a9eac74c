import ResticPal.Core.Status
/-!
# Messages

`resticpal-protocol/src/lib.rs`: what a client can ask of the service over the
named pipe, and what it answers.
-/

open Lib

namespace ResticPal

inductive RepositoryOperationKind where
  | Validate
  | Initialize
  deriving DecidableEq, Repr

inductive RepositoryOperationStatus where
  | NotRun
  | ValidationRequired
  | Running (operation : RepositoryOperationKind)
  | Succeeded (operation : RepositoryOperationKind) (completed_at : DateTime)
  | Failed (operation : RepositoryOperationKind) (completed_at : DateTime) (code : String)
  deriving DecidableEq

/-- `matches!(status, RepositoryOperationStatus::Running { .. })`. -/
def RepositoryOperationStatus.isRunning : RepositoryOperationStatus → Bool
  | .Running _ => true
  | _ => false

inductive RepositorySecretUpdate where
  | Set (variable_ : SecretEnvironmentVariable) (value : String)
  | Remove (variable_ : SecretEnvironmentVariable)
  deriving DecidableEq

def RepositorySecretUpdate.target : RepositorySecretUpdate → SecretEnvironmentVariable
  | .Set v _ => v
  | .Remove v => v

structure UpdatePackage where
  version : String
  url : String
  signature : String
  length : UInt64
  deriving DecidableEq

inductive RequestCommand where
  | GetStatus
  | GetManagement
  | Enroll (bootstrap_url : String)
  | Unenroll
  | GetRunHistory (limit : UInt16)
  | GetRunFailureDetails (run_id : UInt64)
  | GetDiagnostics (limit : UInt16)
  | GetBackupSources
  | DiscoverBackupSources
  | UpdateBackupSources (paths : Option (List PathBuf)) (exclusions : Option (List String))
  | GetRepository
  | UpdateRepository (display_name url : Option String) (mode : Option RepositoryMode) (options : Option Options)
      (secret_updates : List RepositorySecretUpdate)
  | ValidateRepository
  | InitializeRepository
  | GetSchedule
  | UpdateSchedule (interval_hours : Option UInt32) (wake_grace_seconds wake_lock_timeout_seconds : Option UInt64)
      (allow_on_battery allow_metered_network : Option Bool)
  | GetRetention
  | UpdateRetention (daily weekly monthly yearly prune_interval_days : Option UInt32)
  | RunBackupNow
  | CancelBackup
  | DeferBackup (minutes : UInt32)
  | PrepareForUpdate (hold_seconds : UInt32)
  | GetUpdateSettings
  | UpdateUpdateSettings (automatic_install : Bool)
  | InstallUpdate (package : UpdatePackage)
  deriving DecidableEq

/-! ## Answers -/

structure ManagementView where
  mode : ManagementMode
  enrolled : Bool
  device_id : Option String
  manifest_url : Option String
  deriving DecidableEq

structure BackupRunFailureDetails where
  run_id : UInt64
  items : List String
  omitted : UInt64
  deriving DecidableEq

structure BackupSourcesView where
  paths : List PathBuf
  exclusions : List String
  paths_locked : Bool
  exclusions_locked : Bool
  deriving DecidableEq

inductive DiscoveredSourceKind where
  | Desktop
  | Documents
  | Pictures
  | Videos
  | Music
  deriving DecidableEq, Repr

structure DiscoveredBackupSource where
  profile_name : String
  kind : DiscoveredSourceKind
  path : PathBuf
  deriving DecidableEq

structure RepositoryView where
  display_name : Option String
  url : Option String
  mode : RepositoryMode
  options : Options
  configured_secrets : List SecretEnvironmentVariable
  operation_status : RepositoryOperationStatus
  display_name_locked : Bool
  url_locked : Bool
  mode_locked : Bool
  options_locked : Bool
  secrets_locked : Bool
  deriving DecidableEq

structure ScheduleView where
  interval_hours : UInt32
  wake_grace_seconds : UInt64
  wake_lock_timeout_seconds : UInt64
  allow_on_battery : Bool
  allow_metered_network : Bool
  interval_hours_locked : Bool
  wake_grace_seconds_locked : Bool
  wake_lock_timeout_seconds_locked : Bool
  allow_on_battery_locked : Bool
  allow_metered_network_locked : Bool
  deriving DecidableEq

structure RetentionView where
  repository_mode : RepositoryMode
  daily : UInt32
  weekly : UInt32
  monthly : UInt32
  yearly : UInt32
  prune_interval_days : UInt32
  daily_locked : Bool
  weekly_locked : Bool
  monthly_locked : Bool
  yearly_locked : Bool
  prune_interval_days_locked : Bool
  last_retention : Option DateTime
  last_prune : Option DateTime
  last_error : Option String
  deriving DecidableEq

structure UpdateSettingsView where
  automatic_install : Bool
  automatic_install_locked : Bool
  deriving DecidableEq

inductive DiagnosticLevel where
  | Information
  | Warning
  | Error
  deriving DecidableEq, Repr

structure DiagnosticEntry where
  timestamp : DateTime
  level : DiagnosticLevel
  event_id : String
  message : String
  code : Option String
  deriving DecidableEq

inductive ResponsePayload where
  | Status (status : ServiceStatus)
  | Management (configuration : ManagementView)
  | RunHistory (runs : List BackupRunRecord)
  | RunFailureDetails (details : BackupRunFailureDetails)
  | BackupSources (configuration : BackupSourcesView)
  | DiscoveredBackupSources (sources : List DiscoveredBackupSource)
  | Repository (configuration : RepositoryView)
  | Schedule (configuration : ScheduleView)
  | Retention (configuration : RetentionView)
  | UpdateSettings (configuration : UpdateSettingsView)
  | Diagnostics (entries : List DiagnosticEntry)
  | Accepted (message : String)
  | Rejected (code message : String)
  deriving DecidableEq

def ResponsePayload.isAccepted : ResponsePayload → Bool
  | .Accepted _ => true
  | _ => false

def rejected (code message : String) : ResponsePayload := .Rejected code message

def administrator_required : ResponsePayload :=
  rejected "administrator_required" "Open resticpal as an administrator to change machine backup settings."

end ResticPal
