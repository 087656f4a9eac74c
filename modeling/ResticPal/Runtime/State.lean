import ResticPal.Core.Schedule
import ResticPal.Protocol
import ResticPal.Service.Management
import ResticPal.Service.State
/-!
# The runtime's state

`resticpal-service/src/runtime/state.rs` and `helpers.rs`: what the service
holds in memory and on disk, how it starts, and how a configuration change
shows in the reported status. Each `Mutex` of the source guards one field of
`ServiceRuntime`, and a critical section is a function on it.
-/

open Lib

namespace ResticPal

structure RuntimeState where
  status : ServiceStatus
  resumed_at : Option DateTime
  not_before : Option DateTime
  update_hold_until : Option DateTime
  update_hold_previous_status : Option (BackupState × Option DateTime)
  update_install_active : Bool
  manual_requested : Bool
  consecutive_failures : UInt32
  repository_operation : RepositoryOperationStatus
  service_state : ServiceStateSnapshot
  management_operation_active : Bool
  deriving DecidableEq

/-- `config.toml` and the directory it lies in. -/
structure LocalConfigStore where
  data_directory : Option PathBuf
  file : StoredFile LocalConfig
  deriving DecidableEq

structure ServiceRuntime where
  config : EffectiveConfig
  local_config : LocalConfig
  field_resolutions : FieldResolutions
  config_store : Option LocalConfigStore
  credential_store : Option CredentialStore
  state : RuntimeState
  /-- `state.json`. -/
  state_store : Option (StoredFile PersistedScheduleState)
  /-- `managed-policy-cache.json`, next to `config.toml`. -/
  policy_cache : ManagedPolicyCache
  history_store : Bool
  diagnostics : Bool
  deriving DecidableEq

/-! ## Helpers -/

def repository_operation_allows_backup : RepositoryOperationStatus → Bool
  | .Succeeded _ _ => true
  | _ => false

theorem allows_backup_not_running {status : RepositoryOperationStatus}
    (h : repository_operation_allows_backup status = true) : status.isRunning = false := by
  cases status with
  | Running operation => cases h
  | _ => rfl

def transition_state (status : ServiceStatus) (next : BackupState) (now : DateTime) : ServiceStatus :=
  if status.state ≠ next then { status with state := next, state_since := now } else status

@[simp] theorem transition_state_state (status : ServiceStatus) (next : BackupState) (now : DateTime) :
    (transition_state status next now).state = next := by
  unfold transition_state
  split
  · rfl
  · rename_i h
    simpa using h

namespace RuntimeState

def running (state : RuntimeState) : Bool := state.status.state.isRunning

/-- An update install is active, or an update hold has not expired. -/
def update_pending (state : RuntimeState) (now : DateTime) : Bool :=
  state.update_install_active || state.update_hold_until.any (fun deadline => now < deadline)

/-- Another service operation is active. -/
def busy (state : RuntimeState) (now : DateTime) : Bool :=
  state.running || state.repository_operation.isRunning || state.management_operation_active ||
    state.update_pending now

end RuntimeState

/-- Show a new configuration in the status, with its next deadline where the service is configured and ready. -/
def configuration_status (state : RuntimeState) (config : EffectiveConfig) (now scheduled_deadline : DateTime) : RuntimeState :=
  let status := { state.status with
    repository_display_name := config.repository.display_name
    repository_mode := config.repository.mode }
  if config.is_configured then
    if !repository_operation_allows_backup state.repository_operation then
      { state with
        status := { transition_state status (.Waiting .RepositoryValidation) now with next_deadline := none } }
    else
      let status := { status with
        next_deadline := some (state.not_before.elim scheduled_deadline (max scheduled_deadline)) }
      let status := if status.state = .Unconfigured ∨ status.state = .Waiting .RepositoryValidation then
        transition_state status .Idle now else status
      { state with status }
  else
    { state with
      status := { transition_state status .Unconfigured now with next_deadline := none }
      manual_requested := false
      not_before := none }

def apply_configuration_status (state : RuntimeState) (config : EffectiveConfig) (now : DateTime) : RuntimeState :=
  configuration_status state config now
    (Schedule.completion_deadline state.status.last_success now config.schedule.interval_hours)

def ServiceRuntime.field_locked (runtime : ServiceRuntime) (field : PolicyField) : Bool :=
  (runtime.field_resolutions.get? field).any (·.locked)

/-! ## Stores

A store that is absent takes no part; one that is present can refuse a write. -/

/-- `config_store.save`; `none` when the file cannot be written. -/
def ServiceRuntime.save_config (runtime : ServiceRuntime) (candidate : LocalConfig) (written : Bool) :
    Option ServiceRuntime :=
  match runtime.config_store with
  | none => some runtime
  | some store =>
    if written then some { runtime with config_store := some { store with file := .contents candidate } } else none

/-- `state_store.save`; `none` when the file cannot be written. -/
def ServiceRuntime.save_state (runtime : ServiceRuntime) (snapshot : ServiceStateSnapshot) (written : Bool) :
    Option ServiceRuntime :=
  match runtime.state_store with
  | none => some runtime
  | some _ =>
    if written then
      some { runtime with state_store := some (.contents ⟨STATE_SCHEMA_VERSION, snapshot⟩) }
    else none

/-! ## Starting -/

/-- `from_resolved_with_state`, with the stores a started service has. -/
def from_resolved_with_state (resolved : ResolvedConfig) (local_config : LocalConfig)
    (service_state : ServiceStateSnapshot) (config_store : LocalConfigStore)
    (credential_store : Option CredentialStore) (state_store : StoredFile PersistedScheduleState)
    (policy_cache : ManagedPolicyCache) (now : DateTime) : ServiceRuntime :=
  let configured := resolved.effective.is_configured
  let last_success := service_state.last_success
  let repository_operation :=
    if service_state.repository_requires_validation resolved.effective then .ValidationRequired
    else match service_state.repository_verified_at resolved.effective with
      | some completed_at => .Succeeded .Validate completed_at
      | none => .NotRun
  let repository_ready := repository_operation_allows_backup repository_operation
  { config := resolved.effective
    local_config
    field_resolutions := resolved.fields
    config_store := some config_store
    credential_store
    state := {
      status := {
        state := if configured && !repository_ready then .Waiting .RepositoryValidation
          else if configured then .Idle else .Unconfigured
        state_since := now
        last_attempt := none
        last_success
        next_deadline := if configured && repository_ready then
          some (Schedule.completion_deadline last_success now resolved.effective.schedule.interval_hours) else none
        repository_display_name := resolved.effective.repository.display_name
        repository_mode := resolved.effective.repository.mode
        managed_revision := resolved.managed_revision
        progress := none }
      resumed_at := none
      not_before := none
      update_hold_until := none
      update_hold_previous_status := none
      update_install_active := false
      manual_requested := false
      consecutive_failures := 0
      repository_operation
      service_state
      management_operation_active := false }
    state_store := some state_store
    policy_cache
    history_store := true
    diagnostics := true }

inductive RuntimeInitError where
  | ConfigStore (error : ConfigStoreError)
  | Policy (error : PolicyError)
  deriving DecidableEq

/-- `load_with_credentials_and_policy`. A state file that cannot be read makes a
configured repository require validation. -/
def load_with_credentials_and_policy (parse_url : String → Option Url) (config_store : LocalConfigStore)
    (credential_store : Option CredentialStore) (state_store : StoredFile PersistedScheduleState)
    (policy_cache : ManagedPolicyCache) (managed_policy : Option ManagedPolicy) (now : DateTime) :
    Except RuntimeInitError ServiceRuntime := do
  let loc ← (LocalConfigStore.load parse_url config_store.file).mapError .ConfigStore
  let resolved ← (resolve_config {} loc managed_policy).mapError .Policy
  let service_state := match ScheduleStateStore.load state_store with
    | some state => state
    | none =>
      if resolved.effective.repository.url.isSome then ({} : ServiceStateSnapshot).require_repository_validation
      else {}
  return from_resolved_with_state resolved loc service_state config_store credential_store state_store policy_cache now

/-- The runtime of a service whose configuration could not be loaded. -/
def configuration_error (config_store : LocalConfigStore) (credential_store : Option CredentialStore)
    (state_store : StoredFile PersistedScheduleState) (policy_cache : ManagedPolicyCache) (now : DateTime) :
    ServiceRuntime where
  config := {}
  local_config := {}
  field_resolutions := ∅
  config_store := some config_store
  credential_store
  state := {
    status := {
      state := .Failed "configuration_invalid"
      state_since := now
      last_attempt := none
      last_success := none
      next_deadline := none
      repository_display_name := none
      repository_mode := .Standard
      managed_revision := none
      progress := none }
    resumed_at := none
    not_before := none
    update_hold_until := none
    update_hold_previous_status := none
    update_install_active := false
    manual_requested := false
    consecutive_failures := 0
    repository_operation := .NotRun
    service_state := {}
    management_operation_active := false }
  state_store := some state_store
  policy_cache
  history_store := true
  diagnostics := true

end ResticPal
