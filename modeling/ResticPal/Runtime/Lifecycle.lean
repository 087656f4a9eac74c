import ResticPal.Runtime.State
import ResticPal.Service.Executor
/-!
# Completions

`resticpal-service/src/runtime/lifecycle.rs`: what the service records when an
update, a backup, its retention pass or a repository operation makes progress
or ends. Functions that first copy from the configuration take the copy as an
argument in their `section`.
-/

open Lib

namespace ResticPal

def INITIAL_FAILURE_RETRY_MINUTES : Nat := 5
def MAX_FAILURE_BACKOFF_EXPONENT : Nat := 6

inductive UpdateInstallOutcome where
  | Completed (version : String)
  | Failed (code : String)
  | Indeterminate (code : String)
  deriving DecidableEq

structure RetentionPlan where
  prune_due : Bool
  deriving DecidableEq

/-! ## Updates -/

/-- End an update hold, and show again the status it replaced. -/
def restore_status (state : RuntimeState) (now : DateTime) : RuntimeState :=
  let state := { state with update_install_active := false, update_hold_until := none }
  match state.update_hold_previous_status with
  | some (previous, previous_deadline) => { state with
      update_hold_previous_status := none
      status := { state.status with state := previous, state_since := now, next_deadline := previous_deadline } }
  | none => state

def finish_update_install (state : RuntimeState) (now : DateTime) : UpdateInstallOutcome → RuntimeState
  -- A successful installer stops the service; the hold stays until it does.
  | .Completed _ => { state with update_install_active := false }
  | .Failed _ => restore_status state now
  -- The installer may still own files, so the hold stays until a restart.
  | .Indeterminate _ => { state with update_install_active := true }

/-! ## Backups -/

def update_progress (state : RuntimeState) (progress : BackupProgress) : RuntimeState :=
  if state.running then
    { state with status := { state.status with state := .Running .Uploading, progress := some progress } }
  else state

/-- `begin_retention` after it has read the mode and the prune interval. -/
def begin_retention_section (mode : RepositoryMode) (prune_interval_days : UInt32) (state : RuntimeState)
    (now : DateTime) : RuntimeState × Option RetentionPlan :=
  if mode ≠ .Standard then (state, none)
  else
    let prune_due := state.service_state.last_prune.all
      (fun last_prune => Duration.days prune_interval_days ≤ now.signed_duration_since last_prune)
    ({ state with
      status := { state.status with state := .Running .Retention, state_since := now, progress := none } },
      some { prune_due })

def ServiceRuntime.begin_retention (runtime : ServiceRuntime) (now : DateTime) :
    ServiceRuntime × Option RetentionPlan :=
  let begun := begin_retention_section runtime.config.repository.mode
    runtime.config.retention.prune_interval_days runtime.state now
  ({ runtime with state := begun.1 }, begun.2)

/-- The state after a retention pass, and the warning it leaves. -/
def record_retention (snapshot : ServiceStateSnapshot) (now : DateTime) :
    RetentionOutcomeKind → ServiceStateSnapshot × Option String
  | .Succeeded pruned => ({ snapshot with
      last_retention := some now
      last_prune := if pruned then some now else snapshot.last_prune
      last_retention_error := none }, none)
  | .Failed code => ({ snapshot with last_retention_error := some code }, some code)
  | .Cancelled => ({ snapshot with last_retention_error := some "retention_cancelled" }, some "retention_cancelled")

def ServiceRuntime.finish_retention (runtime : ServiceRuntime) (backup : BackupOutcome)
    (retention : RetentionOutcomeKind) (now : DateTime) (written : Bool) : ServiceRuntime × BackupOutcome :=
  let recorded := record_retention runtime.state.service_state now retention
  let runtime := { runtime with state := { runtime.state with service_state := recorded.1 } }
  let saved := runtime.save_state recorded.1 written
  (saved.getD runtime, match recorded.2 with
    | some code => backup.with_warning code
    | none => if saved.isNone then backup.with_warning "retention_state_save_failed" else backup)

def backup_state : BackupOutcomeKind → BackupState
  | .Succeeded => .Succeeded
  | .SucceededWithWarnings => .SucceededWithWarnings
  | .Failed code => .Failed code
  | .Cancelled => .Cancelled

/-- Minutes until a failed or cancelled backup is tried again. -/
def retry_minutes (consecutive_failures : UInt32) : Nat :=
  INITIAL_FAILURE_RETRY_MINUTES * 2 ^ min (consecutive_failures.toNat - 1) MAX_FAILURE_BACKOFF_EXPONENT

/-- The failures in a row, after a run that did not succeed. A cancelled run is not counted. -/
def counted_failures (failures : UInt32) : BackupOutcomeKind → UInt32
  | .Failed _ => if failures = UInt32.ofNat (2 ^ 32 - 1) then failures else failures + 1
  | _ => failures

/-- The end of a backup, given the deadline after a success and the retry after so many failures. -/
def finish_backup_by (deadline : Option DateTime) (retry : UInt32 → Option DateTime) (state : RuntimeState)
    (now : DateTime) (outcome : BackupOutcome) : Option RuntimeState :=
  let status := { state.status with state := backup_state outcome.kind, state_since := now, progress := none }
  let state := { state with resumed_at := none }
  if outcome.kind.succeeded then
    deadline.map fun deadline => { state with
      status := { status with last_success := some now, next_deadline := some deadline }
      service_state := { state.service_state with last_success := some now }
      not_before := none
      consecutive_failures := 0 }
  else
    let consecutive_failures := counted_failures state.consecutive_failures outcome.kind
    (retry consecutive_failures).map fun retry_at =>
      { state with
        status := { status with next_deadline := some retry_at }
        not_before := some retry_at
        consecutive_failures }

/-- `finish_backup_at` under the state lock, after it has read the interval. -/
def finish_backup_section (interval_hours : UInt32) (state : RuntimeState) (now : DateTime) (outcome : BackupOutcome) :
    Option RuntimeState :=
  finish_backup_by (some (Schedule.completion_deadline (some now) now interval_hours))
    (fun failures => now.checked_add_signed (retry_minutes failures * 60 * 1000000000)) state now outcome

/-- `finish_backup_at` after it has read the interval. -/
def finish_backup_with (interval_hours : UInt32) (runtime : ServiceRuntime) (now : DateTime) (outcome : BackupOutcome)
    (written : Bool) : Option ServiceRuntime :=
  (finish_backup_section interval_hours runtime.state now outcome).map fun state =>
    let runtime := { runtime with state }
    if outcome.kind.succeeded then (runtime.save_state state.service_state written).getD runtime else runtime

def ServiceRuntime.finish_backup_at (runtime : ServiceRuntime) (now : DateTime) (outcome : BackupOutcome)
    (written : Bool) : Option ServiceRuntime :=
  finish_backup_with runtime.config.schedule.interval_hours runtime now outcome written

/-! ## Repository operations -/

/-- What a finished operation leaves in memory and in `state.json`. -/
def record_repository_outcome (runtime : ServiceRuntime) (config : EffectiveConfig)
    (operation : RepositoryOperationKind) (completed_at : DateTime) (written : Bool) :
    RepositoryOutcomeKind → ServiceRuntime
  | .Succeeded =>
    let service_state := runtime.state.service_state.mark_repository_verified config completed_at
    let runtime := { runtime with state := { runtime.state with service_state } }
    match runtime.save_state service_state written with
    | none => { runtime with state := { runtime.state with
        repository_operation := .Failed operation completed_at "state_save_failed" } }
    | some runtime => { runtime with state := { runtime.state with
        repository_operation := .Succeeded operation completed_at } }
  | .Failed code => { runtime with state := { runtime.state with
      repository_operation := .Failed operation completed_at code } }
  | .Cancelled => { runtime with state := { runtime.state with
      repository_operation := .Failed operation completed_at "repository_operation_cancelled" } }

/-- `finish_repository_operation` under the state lock, on a copy of the configuration. -/
def finish_repository_section (config : EffectiveConfig) (runtime : ServiceRuntime)
    (operation : RepositoryOperationKind) (outcome : RepositoryOutcomeKind) (completed_at : DateTime)
    (written : Bool) : ServiceRuntime :=
  if runtime.state.repository_operation ≠ .Running operation then runtime
  else
    let runtime := record_repository_outcome runtime config operation completed_at written outcome
    { runtime with state := apply_configuration_status runtime.state config completed_at }

def ServiceRuntime.finish_repository_operation (runtime : ServiceRuntime) (operation : RepositoryOperationKind)
    (outcome : RepositoryOutcomeKind) (completed_at : DateTime) (written : Bool) : ServiceRuntime :=
  finish_repository_section runtime.config runtime operation outcome completed_at written

end ResticPal
