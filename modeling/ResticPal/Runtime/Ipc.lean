import ResticPal.Runtime.Enrollment
import ResticPal.Runtime.Lifecycle
import ResticPal.Service.History
/-!
# Requests

`resticpal-service/src/runtime/ipc.rs`: one function for each request of the
protocol. A handler that changes the configuration first checks the request
against the runtime, which a refused request leaves as it was, and then commits.
-/

open Lib

namespace ResticPal

def MAX_SECRET_UPDATES : Nat := 16
def MIN_UPDATE_HOLD_SECONDS : UInt32 := 60
def UPDATE_INSTALL_TIMEOUT_SECONDS : UInt32 := 30 * 60
def MAX_UPDATE_HOLD_SECONDS : UInt32 := UPDATE_INSTALL_TIMEOUT_SECONDS
def MAX_UPDATE_BYTES : UInt64 := 512 * 1024 * 1024
def MAX_DIAGNOSTIC_RESULTS : Nat := 200

/-- `i64::from(seconds)` seconds, always representable. -/
def holdDuration (seconds : UInt32) : Duration := seconds.toNat * 1000000000

/-! ## Views -/

section Views

variable (runtime : ServiceRuntime)

def ServiceRuntime.repository_secrets_locked : Bool :=
  runtime.field_locked .RepositorySecretRefs || runtime.management_view.enrolled

def ServiceRuntime.backup_sources_view : BackupSourcesView where
  paths := runtime.config.backup.paths
  exclusions := runtime.config.backup.exclusions
  paths_locked := runtime.field_locked .BackupPaths
  exclusions_locked := runtime.field_locked .BackupExclusions

def ServiceRuntime.repository_view : RepositoryView where
  display_name := runtime.config.repository.display_name
  url := runtime.config.repository.url
  mode := runtime.config.repository.mode
  options := runtime.config.repository.options
  configured_secrets := runtime.config.repository.secret_refs.keys
  operation_status := runtime.state.repository_operation
  display_name_locked := runtime.field_locked .RepositoryDisplayName
  url_locked := runtime.field_locked .RepositoryUrl
  mode_locked := runtime.field_locked .RepositoryMode
  options_locked := runtime.field_locked .RepositoryOptions
  secrets_locked := runtime.repository_secrets_locked

def ServiceRuntime.schedule_view : ScheduleView where
  interval_hours := runtime.config.schedule.interval_hours
  wake_grace_seconds := runtime.config.schedule.wake_grace_seconds
  wake_lock_timeout_seconds := runtime.config.schedule.wake_lock_timeout_seconds
  allow_on_battery := runtime.config.schedule.allow_on_battery
  allow_metered_network := runtime.config.schedule.allow_metered_network
  interval_hours_locked := runtime.field_locked .ScheduleIntervalHours
  wake_grace_seconds_locked := runtime.field_locked .ScheduleWakeGraceSeconds
  wake_lock_timeout_seconds_locked := runtime.field_locked .ScheduleWakeLockTimeoutSeconds
  allow_on_battery_locked := runtime.field_locked .ScheduleAllowOnBattery
  allow_metered_network_locked := runtime.field_locked .ScheduleAllowMeteredNetwork

def ServiceRuntime.retention_view : RetentionView where
  repository_mode := runtime.config.repository.mode
  daily := runtime.config.retention.daily
  weekly := runtime.config.retention.weekly
  monthly := runtime.config.retention.monthly
  yearly := runtime.config.retention.yearly
  prune_interval_days := runtime.config.retention.prune_interval_days
  daily_locked := runtime.field_locked .RetentionDaily
  weekly_locked := runtime.field_locked .RetentionWeekly
  monthly_locked := runtime.field_locked .RetentionMonthly
  yearly_locked := runtime.field_locked .RetentionYearly
  prune_interval_days_locked := runtime.field_locked .RetentionPruneIntervalDays
  last_retention := runtime.state.service_state.last_retention
  last_prune := runtime.state.service_state.last_prune
  last_error := runtime.state.service_state.last_retention_error

def ServiceRuntime.update_settings_view : UpdateSettingsView where
  automatic_install := runtime.config.updates.automatic_install
  automatic_install_locked := runtime.field_locked .UpdateAutomaticInstall

end Views

/-! ## Repository operations -/

/-- What an operation needs of the configuration. -/
def check_repository_operation (config : EffectiveConfig) (operation : RepositoryOperationKind) :
    Except ResponsePayload Unit := do
  rejectIf config.repository.url.isNone
    (rejected "repository_not_configured" "Save a repository URL before testing the connection.")
  rejectIf (!config.repository.secret_refs.contains .ResticPassword)
    (rejected "repository_password_required" "Store the repository password before testing the connection.")
  rejectIf (operation == .Initialize && !ResticOperation.Initialize.allowed_in config.repository.mode)
    (rejected "append_only_initialization_forbidden" "Repository creation is disabled in append-only mode.")

/-- `begin_repository_operation` under the state lock, on a copy of the configuration. -/
def begin_repository_section (config : EffectiveConfig) (runtime : ServiceRuntime)
    (operation : RepositoryOperationKind) (io : RequestIo) : ServiceRuntime × ResponsePayload :=
  let state := runtime.state
  if state.update_pending io.now then (runtime, rejected "update_pending"
    "A resticpal update is about to start. Try again after it finishes.")
  else if state.running then (runtime, rejected "backup_running"
    "Wait for the active backup to finish before testing its repository.")
  else if state.repository_operation.isRunning then (runtime, rejected "repository_operation_running"
    "A repository operation is already running.")
  else
    let status := if config.is_configured then
      { transition_state state.status (.Waiting .RepositoryValidation) io.now with next_deadline := none }
      else state.status
    let service_state := state.service_state.require_repository_validation
    let running := { runtime with state := { state with
      status, service_state, repository_operation := .Running operation } }
    let stopped (runtime : ServiceRuntime) (code : String) : ServiceRuntime := { runtime with
      state := { runtime.state with repository_operation := .Failed operation io.now code } }
    match running.save_state service_state io.state_written with
    | none => (stopped running "state_save_failed",
        rejected "state_save_failed" "Repository validation state could not be saved.")
    | some running =>
      if !io.receiver_open then (stopped running "service_stopping",
        rejected "service_stopping" "The backup service is stopping. Try again shortly.")
      else (running, .Accepted (match operation with
        | .Validate => "Repository connection test started."
        | .Initialize => "Repository creation started."))

def ServiceRuntime.begin_repository_operation (runtime : ServiceRuntime) (operation : RepositoryOperationKind)
    (elevated : Bool) (io : RequestIo) : ServiceRuntime × ResponsePayload :=
  if !elevated then (runtime, administrator_required)
  else match check_repository_operation runtime.config operation with
    | .error response => (runtime, response)
    | .ok () => begin_repository_section runtime.config runtime operation io

/-! ## Updates -/

inductive UpdateError where
  | InvalidVersion
  | NotNewer
  | InvalidLength
  | InvalidUrl
  | InvalidSignature
  deriving DecidableEq

def parse_component (value : List Char) : Option Nat :=
  if !value.isEmpty && value.all Char.isDigit then
    let n := value.foldl (fun n c => n * 10 + (c.toNat - '0'.toNat)) 0
    if n < 2 ^ 64 then some n else none
  else none

def parse_version (value : String) : Option (List Nat) :=
  match value.toList.splitOn '.' with
  | [major, minor, patch] => [major, minor, patch].mapM parse_component
  | _ => none

/-- The version of this service, `CARGO_PKG_VERSION`. -/
def currentVersion : List Nat := [1, 0, 8]

def validate_package (ext : External) (package : UpdatePackage) : Except UpdateError Unit := do
  let some version := parse_version package.version | .error .InvalidVersion
  rejectIf (!(currentVersion < version)) .NotNewer
  rejectIf (package.length == 0 || package.length > MAX_UPDATE_BYTES) .InvalidLength
  let expected_github_url := "https://github.com/theatrus/resticpal/releases/download/v" ++ package.version ++
    "/resticpal-" ++ package.version ++ "-x64.msi"
  let expected_primary_url := "https://updates.resticpal.com/releases/v" ++ package.version ++
    "/resticpal-" ++ package.version ++ "-x64.msi"
  rejectIf (package.url != expected_github_url && package.url != expected_primary_url) .InvalidUrl
  rejectIf (Text.len package.signature > 256 || Text.hasBreak package.signature) .InvalidSignature
  let some signature := ext.base64_standard_decode package.signature | .error .InvalidSignature
  rejectIf (signature.length != 64) .InvalidSignature

/-- Hold backups for an update until `deadline`. -/
def begin_hold (state : RuntimeState) (now deadline : DateTime) : RuntimeState := { state with
  update_hold_previous_status := state.update_hold_previous_status.or
    (some (state.status.state, state.status.next_deadline))
  update_hold_until := some deadline
  manual_requested := false
  resumed_at := none
  status := { transition_state state.status (.Waiting .Update) now with next_deadline := some deadline } }

/-- What refuses an update hold, with the messages of the two requests that start one. -/
def check_hold (state : RuntimeState) (now : DateTime) (already pending backup operation : String) :
    Except ResponsePayload Unit := do
  rejectIf state.update_install_active (rejected "update_already_running" already)
  rejectIf (state.update_hold_until.any (fun deadline => now < deadline)) (rejected "update_pending" pending)
  rejectIf state.running (rejected "backup_running" backup)
  rejectIf (state.repository_operation.isRunning || state.management_operation_active)
    (rejected "operation_running" operation)

def ServiceRuntime.prepare_for_update (runtime : ServiceRuntime) (hold_seconds : UInt32) (elevated : Bool)
    (io : RequestIo) : ServiceRuntime × ResponsePayload :=
  let check : Except ResponsePayload Unit := do
    rejectIf (!elevated) administrator_required
    rejectIf runtime.config.updates.automatic_install (rejected "automatic_updates_enabled"
      "This device's effective policy requires the protected service to install updates silently.")
    rejectIf (!(MIN_UPDATE_HOLD_SECONDS ≤ hold_seconds && hold_seconds ≤ MAX_UPDATE_HOLD_SECONDS))
      (rejected "invalid_update_hold" "The update hold must be between one and 30 minutes.")
    check_hold runtime.state io.now
      "The protected service is already installing an update."
      "Another update request is already holding backup work."
      "Wait for the active backup to finish before installing the update."
      "Wait for the current repository or management operation to finish."
  match check with
  | .error response => (runtime, response)
  | .ok () =>
    let deadline := (io.now.checked_add_signed (holdDuration hold_seconds)).getD io.now
    ({ runtime with state := begin_hold runtime.state io.now deadline },
      .Accepted "Backups are held briefly while the update starts.")

def ServiceRuntime.begin_update_install (ext : External) (runtime : ServiceRuntime) (package : UpdatePackage)
    (io : RequestIo) : ServiceRuntime × ResponsePayload :=
  let check : Except ResponsePayload Unit := do
    rejectIf (!runtime.config.updates.automatic_install) (rejected "automatic_updates_disabled"
      "Automatic update installation is disabled by this device's effective policy.")
    (validate_package ext package).mapError (fun _ => rejected "update_metadata_invalid"
      "The signed update metadata is invalid or does not describe a newer resticpal MSI.")
    check_hold runtime.state io.now
      "An update is already being installed."
      "A prompted update is already holding backup work."
      "The update will be retried after the active backup finishes."
      "The update will be retried after the current service operation finishes."
  match check with
  | .error response => (runtime, response)
  | .ok () =>
    let deadline := (io.now.checked_add_signed (holdDuration MAX_UPDATE_HOLD_SECONDS)).getD io.now
    let state := { begin_hold runtime.state io.now deadline with update_install_active := true }
    if io.receiver_open then ({ runtime with state }, .Accepted ("resticpal " ++ package.version ++
      " will download and install silently after signature verification."))
    else ({ runtime with state := restore_status state io.now },
      rejected "service_stopping" "The backup service is stopping. Try again shortly.")

/-! ## Backups on request -/

def send_event (io : RequestIo) (message : String) : ResponsePayload :=
  if io.receiver_open then .Accepted message
  else rejected "service_stopping" "The backup service is stopping. Try again shortly."

/-- `RunBackupNow` under the state lock, once the configuration and the repository allow it. -/
def run_now_section (state : RuntimeState) (io : RequestIo) : RuntimeState × ResponsePayload :=
  if state.running then (state, rejected "already_running" "A backup is already running.")
  else if state.update_pending io.now then (state, rejected "update_pending"
    "A resticpal update is about to start. Try again after it finishes.")
  else
    ({ state with manual_requested := io.receiver_open, not_before := none },
      send_event io "Backup requested. Waiting for the service to start.")

def ServiceRuntime.run_backup_now (runtime : ServiceRuntime) (io : RequestIo) : ServiceRuntime × ResponsePayload :=
  if !runtime.config.is_configured then (runtime, rejected "not_configured"
    "Configure backup sources and a repository first.")
  else if !repository_operation_allows_backup runtime.state.repository_operation then
    (runtime, rejected "repository_not_ready" "Validate or initialize the repository before starting a backup.")
  else
    let requested := run_now_section runtime.state io
    ({ runtime with state := requested.1 }, requested.2)

/-- `DeferBackup` under the state lock. -/
def defer_section (state : RuntimeState) (minutes : UInt32) (io : RequestIo) : RuntimeState × ResponsePayload :=
  if !repository_operation_allows_backup state.repository_operation then (state, rejected "repository_not_ready"
    "Validate or initialize the repository before deferring backups.")
  else if state.running then (state, rejected "already_running" "A running backup cannot be deferred.")
  else
    let deadline := (io.now.checked_add_signed (Duration.minutes minutes)).getD io.now
    ({ state with
      manual_requested := false
      not_before := some deadline
      status := { state.status with next_deadline := some deadline } }, send_event io "Backup deferred.")

def ServiceRuntime.defer_backup (runtime : ServiceRuntime) (minutes : UInt32) (io : RequestIo) :
    ServiceRuntime × ResponsePayload :=
  if !(1 ≤ minutes && minutes ≤ 24 * 60) then (runtime, rejected "invalid_deferral"
    "A deferral must be between one minute and 24 hours.")
  else if !runtime.config.is_configured then (runtime, rejected "not_configured"
    "Configure backup sources and a repository first.")
  else
    let deferred := defer_section runtime.state minutes io
    ({ runtime with state := deferred.1 }, deferred.2)

/-! ## Editing the configuration -/

/-- What every edit needs before it is read: an administrator, and no update under way. -/
def check_edit (runtime : ServiceRuntime) (elevated : Bool) (now : DateTime) : Except ResponsePayload Unit := do
  rejectIf (!elevated) administrator_required
  rejectIf (runtime.state.update_pending now) (rejected "update_pending"
    "Wait for the resticpal update to finish before changing configuration.")

/-- The two layers an edit changes together. -/
structure Candidate where
  loc : LocalConfig
  effective : EffectiveConfig

/-- A requested value is about a field that policy locks. -/
def ServiceRuntime.edits_locked {α : Type} (runtime : ServiceRuntime) (value : Option α) (field : PolicyField) : Bool :=
  value.isSome && runtime.field_locked field

/-- Save the candidate and put it in force. -/
def commit_candidate (runtime : ServiceRuntime) (candidate : Candidate) (state : RuntimeState) (io : RequestIo)
    (message : String) : ServiceRuntime × ResponsePayload :=
  match runtime.save_config candidate.loc io.config_written with
  | none => (runtime, rejected "configuration_save_failed" "The local configuration could not be saved.")
  | some saved => ({ saved with local_config := candidate.loc, config := candidate.effective, state },
      .Accepted message)

def ServiceRuntime.update_update_settings (runtime : ServiceRuntime) (automatic_install elevated : Bool)
    (io : RequestIo) : ServiceRuntime × ResponsePayload :=
  if !elevated then (runtime, administrator_required)
  else if runtime.field_locked .UpdateAutomaticInstall then (runtime, rejected "managed_field_locked"
    "Automatic update installation is locked by managed policy.")
  else if runtime.state.update_pending io.now then (runtime, rejected "update_pending"
    "Automatic-update mode cannot change while an update is in progress.")
  else
    let candidate := { runtime.local_config with updates := { automatic_install := some automatic_install } }
    match runtime.save_config candidate io.config_written with
    | none => (runtime, rejected "configuration_save_failed" "The automatic-update setting could not be saved.")
    | some saved => ({ saved with
        local_config := candidate
        config := { saved.config with updates := { automatic_install } } },
        .Accepted (if automatic_install then
          "Signed resticpal updates will install automatically in the background."
          else "resticpal will ask before installing updates."))

section Edits

variable (runtime : ServiceRuntime)

/-- `update_retention` up to its commit. -/
def check_retention_edit (daily weekly monthly yearly prune_interval_days : Option UInt32) (elevated : Bool)
    (now : DateTime) : Except ResponsePayload Candidate := do
  check_edit runtime elevated now
  rejectIf (runtime.config.repository.mode == .AppendOnly) (rejected "retention_managed_by_server"
    "Retention for an append-only repository is managed by the server.")
  rejectIf (daily.isNone && weekly.isNone && monthly.isNone && yearly.isNone && prune_interval_days.isNone)
    (rejected "no_configuration_changes" "No retention changes were supplied.")
  rejectIf (runtime.edits_locked daily .RetentionDaily || runtime.edits_locked weekly .RetentionWeekly ||
    runtime.edits_locked monthly .RetentionMonthly || runtime.edits_locked yearly .RetentionYearly ||
    runtime.edits_locked prune_interval_days .RetentionPruneIntervalDays)
    (rejected "managed_field_locked" "One or more retention fields are locked by managed policy.")
  let loc := runtime.local_config.retention
  let effective := runtime.config.retention
  let candidate : Candidate := {
    loc := { runtime.local_config with retention := {
      daily := daily.or loc.daily
      weekly := weekly.or loc.weekly
      monthly := monthly.or loc.monthly
      yearly := yearly.or loc.yearly
      prune_interval_days := prune_interval_days.or loc.prune_interval_days } }
    effective := { runtime.config with retention := {
      daily := daily.getD effective.daily
      weekly := weekly.getD effective.weekly
      monthly := monthly.getD effective.monthly
      yearly := yearly.getD effective.yearly
      prune_interval_days := prune_interval_days.getD effective.prune_interval_days } } }
  candidate.effective.validate.mapError (fun error => rejected "invalid_retention" error.text)
  rejectIf runtime.state.running (rejected "backup_running"
    "Wait for the active backup to finish before changing retention.")
  rejectIf runtime.state.repository_operation.isRunning (rejected "repository_operation_running"
    "Wait for the repository operation to finish before changing retention.")
  return candidate

def ServiceRuntime.update_retention (daily weekly monthly yearly prune_interval_days : Option UInt32)
    (elevated : Bool) (io : RequestIo) : ServiceRuntime × ResponsePayload :=
  match check_retention_edit runtime daily weekly monthly yearly prune_interval_days elevated io.now with
  | .error response => (runtime, response)
  | .ok candidate => commit_candidate runtime candidate runtime.state io "Retention policy updated."

/-- `update_schedule` up to its commit. -/
def check_schedule_edit (interval_hours : Option UInt32) (wake_grace_seconds wake_lock_timeout_seconds : Option UInt64)
    (allow_on_battery allow_metered_network : Option Bool) (elevated : Bool) (now : DateTime) :
    Except ResponsePayload Candidate := do
  check_edit runtime elevated now
  rejectIf (interval_hours.isNone && wake_grace_seconds.isNone && wake_lock_timeout_seconds.isNone &&
    allow_on_battery.isNone && allow_metered_network.isNone)
    (rejected "no_configuration_changes" "No schedule changes were supplied.")
  rejectIf (runtime.edits_locked interval_hours .ScheduleIntervalHours ||
    runtime.edits_locked wake_grace_seconds .ScheduleWakeGraceSeconds ||
    runtime.edits_locked wake_lock_timeout_seconds .ScheduleWakeLockTimeoutSeconds ||
    runtime.edits_locked allow_on_battery .ScheduleAllowOnBattery ||
    runtime.edits_locked allow_metered_network .ScheduleAllowMeteredNetwork)
    (rejected "managed_field_locked" "One or more schedule fields are locked by managed policy.")
  let loc := runtime.local_config.schedule
  let effective := runtime.config.schedule
  let candidate : Candidate := {
    loc := { runtime.local_config with schedule := {
      interval_hours := interval_hours.or loc.interval_hours
      wake_grace_seconds := wake_grace_seconds.or loc.wake_grace_seconds
      wake_lock_timeout_seconds := wake_lock_timeout_seconds.or loc.wake_lock_timeout_seconds
      allow_on_battery := allow_on_battery.or loc.allow_on_battery
      allow_metered_network := allow_metered_network.or loc.allow_metered_network } }
    effective := { runtime.config with schedule := {
      interval_hours := interval_hours.getD effective.interval_hours
      wake_grace_seconds := wake_grace_seconds.getD effective.wake_grace_seconds
      wake_lock_timeout_seconds := wake_lock_timeout_seconds.getD effective.wake_lock_timeout_seconds
      allow_on_battery := allow_on_battery.getD effective.allow_on_battery
      allow_metered_network := allow_metered_network.getD effective.allow_metered_network } } }
  candidate.effective.validate.mapError (fun error => rejected "invalid_schedule" error.text)
  rejectIf runtime.state.running (rejected "backup_running"
    "Wait for the active backup to finish before changing its schedule.")
  rejectIf runtime.state.repository_operation.isRunning (rejected "repository_operation_running"
    "Wait for the repository operation to finish before changing the schedule.")
  return candidate

def ServiceRuntime.update_schedule (interval_hours : Option UInt32)
    (wake_grace_seconds wake_lock_timeout_seconds : Option UInt64)
    (allow_on_battery allow_metered_network : Option Bool) (elevated : Bool) (io : RequestIo) :
    ServiceRuntime × ResponsePayload :=
  match check_schedule_edit runtime interval_hours wake_grace_seconds wake_lock_timeout_seconds allow_on_battery
      allow_metered_network elevated io.now with
  | .error response => (runtime, response)
  | .ok candidate => commit_candidate runtime candidate
      (apply_configuration_status runtime.state candidate.effective io.now) io "Backup schedule updated."

/-- Keep the first of the elements with one key. -/
def deduplicateBy {α : Type} (key : α → String) : List String → List α → List α
  | _, [] => []
  | seen, x :: xs =>
    if key x ∈ seen then deduplicateBy key seen xs else x :: deduplicateBy key (key x :: seen) xs

def deduplicate_paths (to_lowercase : String → String) (paths : List PathBuf) : List PathBuf :=
  deduplicateBy (fun path => to_lowercase path.text) [] paths

def deduplicate_exclusions (exclusions : List String) : List String := deduplicateBy id [] exclusions

def rejected_source : InvocationError → ResponsePayload
  | .UnsupportedNetworkBackupSource => rejected "unsupported_network_backup_source"
      "Network folders cannot be used as backup sources yet. Choose a folder on a local Windows drive."
  | .UnsupportedBackupSourceNamespace => rejected "unsupported_backup_source_namespace"
      "Backup sources must use an ordinary local Windows drive path, without junction or device aliases."
  | .ProtectedBackupSource => rejected "protected_backup_source"
      "The resticpal service-data folder cannot be selected as a backup source."
  | _ => rejected "invalid_backup_sources" ""

/-- `update_backup_sources` up to its commit. It does not ask whether a repository operation is running. -/
def check_sources_edit (ext : External) (paths : Option (List PathBuf)) (exclusions : Option (List String))
    (elevated : Bool) (io : RequestIo) : Except ResponsePayload Candidate := do
  check_edit runtime elevated io.now
  rejectIf (paths.isNone && exclusions.isNone)
    (rejected "no_configuration_changes" "No backup-source changes were supplied.")
  rejectIf (runtime.edits_locked paths .BackupPaths || runtime.edits_locked exclusions .BackupExclusions)
    (rejected "managed_field_locked" "Backup sources are locked by managed policy.")
  let paths := paths.map (deduplicate_paths ext.to_lowercase)
  let exclusions := exclusions.map deduplicate_exclusions
  let candidate : Candidate := {
    loc := { runtime.local_config with backup := {
      paths := paths.or runtime.local_config.backup.paths
      exclusions := exclusions.or runtime.local_config.backup.exclusions } }
    effective := { runtime.config with backup := {
      paths := paths.getD runtime.config.backup.paths
      exclusions := exclusions.getD runtime.config.backup.exclusions } } }
  (validate_backup_source_paths ext.to_lowercase io.fs candidate.effective.backup.paths
    (runtime.config_store.bind (·.data_directory))).mapError rejected_source
  candidate.effective.validate.mapError (fun error => rejected "invalid_backup_sources" error.text)
  rejectIf runtime.state.running (rejected "backup_running"
    "Wait for the active backup to finish before changing its sources.")
  return candidate

def ServiceRuntime.update_backup_sources (ext : External) (paths : Option (List PathBuf))
    (exclusions : Option (List String)) (elevated : Bool) (io : RequestIo) : ServiceRuntime × ResponsePayload :=
  match check_sources_edit runtime ext paths exclusions elevated io with
  | .error response => (runtime, response)
  | .ok candidate => commit_candidate runtime candidate
      (apply_configuration_status runtime.state candidate.effective io.now) io "Backup sources updated."

def nonempty_trimmed (value : String) : Option String :=
  let value := Text.trim value
  if Text.is_empty value then none else some value

/-- `update_repository` up to its credential changes. -/
def check_repository_edit (display_name url : Option String) (mode : Option RepositoryMode)
    (options : Option Options) (secret_updates : List RepositorySecretUpdate) (elevated : Bool) (now : DateTime) :
    Except ResponsePayload Candidate := do
  check_edit runtime elevated now
  rejectIf (display_name.isNone && url.isNone && mode.isNone && options.isNone && secret_updates.isEmpty)
    (rejected "no_configuration_changes" "No repository changes were supplied.")
  rejectIf (runtime.edits_locked display_name .RepositoryDisplayName || runtime.edits_locked url .RepositoryUrl ||
    runtime.edits_locked mode .RepositoryMode || runtime.edits_locked options .RepositoryOptions ||
    (!secret_updates.isEmpty && runtime.repository_secrets_locked))
    (rejected "managed_field_locked" "One or more repository fields are locked by managed policy.")
  rejectIf (secret_updates.length > MAX_SECRET_UPDATES)
    (rejected "too_many_secret_updates" "Too many credential changes were supplied in one request.")
  rejectIf (!(secret_updates.map (·.target)).Nodup)
    (rejected "duplicate_secret_update" "Each credential may be changed at most once per request.")
  rejectIf (!secret_updates.isEmpty && runtime.credential_store.isNone)
    (rejected "credential_store_unavailable" "The protected credential store is unavailable.")
  let loc := runtime.local_config.repository
  let effective := runtime.config.repository
  let display_name := display_name.map nonempty_trimmed
  let url := url.map nonempty_trimmed
  let candidate : Candidate := {
    loc := { runtime.local_config with repository := { loc with
      display_name := display_name.getD loc.display_name
      url := url.getD loc.url
      mode := mode.or loc.mode
      options := options.or loc.options } }
    effective := { runtime.config with repository := { effective with
      display_name := display_name.getD effective.display_name
      url := url.getD effective.url
      mode := mode.getD effective.mode
      options := options.getD effective.options } } }
  candidate.effective.validate.mapError (fun error => rejected "invalid_repository" error.text)
  rejectIf runtime.state.running (rejected "backup_running"
    "Wait for the active backup to finish before changing its repository.")
  rejectIf runtime.state.repository_operation.isRunning (rejected "repository_operation_running"
    "Wait for the repository operation to finish before changing its settings.")
  return candidate

/-- The secrets a request sets, each with the stem of its reference. -/
def stored_secrets (secret_updates : List RepositorySecretUpdate) : List (String × Text.Bytes) :=
  secret_updates.filterMap fun
    | .Set v value => some (Prod.map SecretEnvironmentVariable.reference_prefix Text.as_bytes (v, value))
    | .Remove _ => none

/-- Enter new references and drop removed ones, in the order of the request. -/
def edit_refs : SecretRefs → List RepositorySecretUpdate → List String → SecretRefs
  | refs, .Set v _ :: updates, reference :: references => edit_refs (refs.insert v reference) updates references
  | refs, .Remove v :: updates, references => edit_refs (refs.erase v) updates references
  | refs, _, _ => refs

/-- The references a request takes out of use. -/
def retired_refs (refs : SecretRefs) (secret_updates : List RepositorySecretUpdate) (edited : SecretRefs) :
    List String :=
  (secret_updates.filterMap (fun update => refs.get? update.target)).filter
    (fun reference => !edited.values.contains reference)

/-- The credential changes of a candidate, given the references of the stored secrets. -/
def edit_secrets (candidate : Candidate) (secret_updates : List RepositorySecretUpdate) (references : List String) :
    Candidate :=
  if secret_updates.isEmpty then candidate
  else {
    loc := { candidate.loc with repository := { candidate.loc.repository with
      secret_refs := some (edit_refs (candidate.loc.repository.secret_refs.getD ∅) secret_updates references) } }
    effective := { candidate.effective with repository := { candidate.effective.repository with
      secret_refs := edit_refs candidate.effective.repository.secret_refs secret_updates references } } }

/-- `update_repository` from its credential changes on. Each failure removes the new secrets again. -/
def commit_repository (candidate : Candidate) (connection_changed : Bool) (secret_updates : List RepositorySecretUpdate)
    (io : RequestIo) : ServiceRuntime × ResponsePayload :=
  let put := CredentialStore.put_all io.secrets 0 (runtime.credential_store.getD ∅) (stored_secrets secret_updates)
  let created := put.2.1
  let without (references : List String) := runtime.credential_store.map
    (fun _ => CredentialStore.remove_all io.removed put.1 references)
  let abandoned := { runtime with credential_store := without created }
  if !put.2.2 then
    (abandoned, rejected "credential_save_failed" "A repository credential could not be stored securely.")
  else
    let edited := edit_secrets candidate secret_updates created
    match edited.effective.validate with
    | .error error => (abandoned, rejected "invalid_repository" error.text)
    | .ok () =>
      let state := if connection_changed then { runtime.state with
        repository_operation := .ValidationRequired
        service_state := runtime.state.service_state.require_repository_validation } else runtime.state
      match if connection_changed then runtime.save_state state.service_state io.state_written else some runtime with
      | none => (abandoned, rejected "state_save_failed" "Repository validation state could not be saved.")
      | some recorded =>
        match recorded.save_config edited.loc io.config_written with
        -- `state.json` already asks for validation here; the state in memory does not.
        | none => ({ recorded with credential_store := without created },
            rejected "configuration_save_failed" "The local configuration could not be saved.")
        | some saved => ({ saved with
            local_config := edited.loc
            config := edited.effective
            state := apply_configuration_status state edited.effective io.now
            credential_store := without (retired_refs runtime.config.repository.secret_refs secret_updates
              edited.effective.repository.secret_refs) }, .Accepted "Repository settings updated.")

def ServiceRuntime.update_repository (display_name url : Option String) (mode : Option RepositoryMode)
    (options : Option Options) (secret_updates : List RepositorySecretUpdate) (elevated : Bool) (io : RequestIo) :
    ServiceRuntime × ResponsePayload :=
  match check_repository_edit runtime display_name url mode options secret_updates elevated io.now with
  | .error response => (runtime, response)
  | .ok candidate => commit_repository runtime candidate
      (url.isSome || options.isSome || !secret_updates.isEmpty) secret_updates io

end Edits

/-! ## The dispatcher -/

section Reads

variable (runtime : ServiceRuntime)

/-- A read that only an administrator may make. -/
def for_administrator (elevated : Bool) (response : ResponsePayload) : ResponsePayload :=
  if elevated then response else administrator_required

def ServiceRuntime.get_run_history (limit : UInt16) (io : RequestIo) : ResponsePayload :=
  if !(1 ≤ limit.toNat && limit.toNat ≤ MAX_HISTORY_RESULTS) then rejected "invalid_history_limit"
    "History requests must contain a limit from 1 through 100."
  else if !runtime.history_store then rejected "history_unavailable" "Backup history storage is not available."
  else match io.history limit.toNat with
    | some runs => .RunHistory runs
    | none => rejected "history_unavailable" "Backup history could not be read from local storage."

def ServiceRuntime.get_run_failure_details (run_id : UInt64) (io : RequestIo) : ResponsePayload :=
  if !runtime.history_store then rejected "history_unavailable" "Backup history storage is not available."
  else match io.failure_details with
    | some (some (items, omitted)) => .RunFailureDetails { run_id, items, omitted }
    | some none => rejected "history_run_not_found" "The requested backup history entry does not exist."
    | none => rejected "history_unavailable" "Backup failure details could not be read from local storage."

def ServiceRuntime.get_diagnostics (limit : UInt16) (io : RequestIo) : ResponsePayload :=
  if !(1 ≤ limit.toNat && limit.toNat ≤ MAX_DIAGNOSTIC_RESULTS) then rejected "invalid_diagnostics_limit"
    "Diagnostics requests must contain a limit from 1 through 200."
  else if !runtime.diagnostics then
    rejected "diagnostics_unavailable" "Operational diagnostics storage is not available."
  else match io.diagnostics with
    | some entries => .Diagnostics (entries.take limit.toNat)
    | none => rejected "diagnostics_unavailable" "Operational diagnostics could not be read from local storage."

def discover_backup_sources (io : RequestIo) : ResponsePayload :=
  match io.discovered with
  | some sources => .DiscoveredBackupSources sources
  | none => rejected "source_discovery_failed" "Windows user folders could not be discovered."

def ServiceRuntime.cancel_backup (io : RequestIo) : ResponsePayload :=
  if runtime.state.running then send_event io "Cancellation requested."
  else rejected "not_running" "There is no running backup to cancel."

end Reads

/-- `handle_request`: the runtime after a request, and the answer. -/
def ServiceRuntime.handle_request (ext : External) (runtime : ServiceRuntime) (command : RequestCommand)
    (elevated : Bool) (io : RequestIo) : ServiceRuntime × ResponsePayload :=
  match command with
  | .GetStatus => (runtime, .Status runtime.state.status)
  | .GetManagement => (runtime, for_administrator elevated (.Management runtime.management_view))
  | .Enroll bootstrap_url => runtime.enroll ext.parse_url (Text.as_bytes bootstrap_url) elevated io
  | .Unenroll => runtime.unenroll elevated io
  | .GetRunHistory limit => (runtime, runtime.get_run_history limit io)
  | .GetRunFailureDetails run_id => (runtime, for_administrator elevated (runtime.get_run_failure_details run_id io))
  | .GetDiagnostics limit => (runtime, for_administrator elevated (runtime.get_diagnostics limit io))
  | .GetBackupSources => (runtime, for_administrator elevated (.BackupSources runtime.backup_sources_view))
  | .DiscoverBackupSources => (runtime, for_administrator elevated (discover_backup_sources io))
  | .UpdateBackupSources paths exclusions => runtime.update_backup_sources ext paths exclusions elevated io
  | .GetRepository => (runtime, for_administrator elevated (.Repository runtime.repository_view))
  | .UpdateRepository display_name url mode options secret_updates =>
    runtime.update_repository display_name url mode options secret_updates elevated io
  | .ValidateRepository => runtime.begin_repository_operation .Validate elevated io
  | .InitializeRepository => runtime.begin_repository_operation .Initialize elevated io
  | .GetSchedule => (runtime, for_administrator elevated (.Schedule runtime.schedule_view))
  | .UpdateSchedule interval_hours wake_grace_seconds wake_lock_timeout_seconds allow_on_battery
      allow_metered_network => runtime.update_schedule interval_hours wake_grace_seconds wake_lock_timeout_seconds
        allow_on_battery allow_metered_network elevated io
  | .GetRetention => (runtime, for_administrator elevated (.Retention runtime.retention_view))
  | .UpdateRetention daily weekly monthly yearly prune_interval_days =>
    runtime.update_retention daily weekly monthly yearly prune_interval_days elevated io
  | .RunBackupNow => runtime.run_backup_now io
  | .CancelBackup => (runtime, runtime.cancel_backup io)
  | .DeferBackup minutes => runtime.defer_backup minutes io
  | .PrepareForUpdate hold_seconds => runtime.prepare_for_update hold_seconds elevated io
  | .GetUpdateSettings => (runtime, .UpdateSettings runtime.update_settings_view)
  | .UpdateUpdateSettings automatic_install => runtime.update_update_settings automatic_install elevated io
  | .InstallUpdate package => ServiceRuntime.begin_update_install ext runtime package io

end ResticPal
