import ResticPal.Core.Config
import ResticPal.Rust.Time
/-!
# Status

`resticpal-core/src/status.rs`: what the service reports about itself and its
backup runs.
-/

namespace ResticPal

inductive WaitingReason where
  | WakeGrace
  | Network
  | PolicyBackoff
  | Battery
  | MeteredNetwork
  | RepositoryValidation
  | Update
  deriving DecidableEq, Repr

inductive BackupPhase where
  | PreparingSnapshot
  | Scanning
  | Uploading
  | Finalizing
  | Retention
  | Checking
  deriving DecidableEq, Repr

inductive BackupState where
  | Unconfigured
  | Idle
  | Waiting (reason : WaitingReason)
  | Running (phase : BackupPhase)
  | Succeeded
  | SucceededWithWarnings
  | Failed (code : String)
  | Cancelled
  | Paused
  deriving DecidableEq, Repr

/-- `matches!(state, BackupState::Running { .. })`. -/
def BackupState.isRunning : BackupState → Bool
  | .Running _ => true
  | _ => false

@[simp] theorem BackupState.isRunning_Running (phase : BackupPhase) : (BackupState.Running phase).isRunning = true := rfl

@[simp] theorem BackupState.isRunning_Waiting (reason : WaitingReason) :
    (BackupState.Waiting reason).isRunning = false := rfl

@[simp] theorem BackupState.isRunning_Idle : BackupState.Idle.isRunning = false := rfl

@[simp] theorem BackupState.isRunning_Unconfigured : BackupState.Unconfigured.isRunning = false := rfl

structure BackupProgress where
  percent_done : Option UInt8
  files_done : UInt64
  total_files : Option UInt64
  bytes_done : UInt64
  total_bytes : Option UInt64
  error_count : UInt64
  deriving DecidableEq

structure ServiceStatus where
  state : BackupState
  state_since : DateTime
  last_attempt : Option DateTime
  last_success : Option DateTime
  next_deadline : Option DateTime
  repository_display_name : Option String
  repository_mode : RepositoryMode
  managed_revision : Option String
  progress : Option BackupProgress
  deriving DecidableEq

inductive BackupRunOutcome where
  | Succeeded
  | SucceededWithWarnings
  | Failed
  | Cancelled
  deriving DecidableEq, Repr

structure BackupRunRecord where
  id : UInt64
  started_at : DateTime
  completed_at : DateTime
  outcome : BackupRunOutcome
  error_code : Option String
  files_processed : Option UInt64
  bytes_processed : Option UInt64
  data_added : Option UInt64
  snapshot_id : Option String
  failed_item_count : UInt64
  deriving DecidableEq

end ResticPal
