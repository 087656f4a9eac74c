import ResticPal.Core.Restic
import ResticPal.Core.Status
import ResticPal.Rust.Text
/-!
# Running restic

`resticpal-service/src/executor.rs`: the checks on backup sources, the outcomes
of restic processes and the retention pass after a backup. What a process did
is the operating system's, and is given as a `ProcessResult`.
-/

open Lib

namespace ResticPal

/-! ## Backup sources -/

/-- What Windows says about paths at one moment. -/
structure FileSystem where
  /-- `std::fs::canonicalize`, where it succeeds. -/
  canonicalize : PathBuf → Option PathBuf
  /-- `GetDriveTypeW` says that the drive is remote. -/
  remote_drive : Char → Bool

/-- `PathBuf::push` of a plain name. -/
def PathBuf.push (path : PathBuf) (name : String) : PathBuf :=
  ⟨if path.text.toList.getLast?.any Path.is_sep_byte then path.text ++ name else path.text ++ "\\" ++ name⟩

def ordinary_windows_path (path : PathBuf) : PathBuf :=
  let ordinary : Option PathBuf := match path.components.head? with
    | some (.Prefix (.VerbatimDisk drive)) => some ⟨String.ofList [drive] ++ ":\\"⟩
    | some (.Prefix (.VerbatimUNC server share)) => some (((⟨"\\\\"⟩ : PathBuf).push server).push share)
    | _ => none
  match ordinary with
  | none => path
  | some ordinary => (path.components.drop 1).foldl (fun ordinary component =>
    match component with
    | .Prefix _ | .RootDir | .CurDir => ordinary
    | .ParentDir => ordinary.push ".."
    | .Normal value => ordinary.push value) ordinary

def source_uses_unsupported_local_namespace (path : PathBuf) : Bool :=
  match path.components.head? with
  | some (.Prefix (.DeviceNS _)) | some (.Prefix (.Verbatim _)) => true
  | _ => false

def source_is_network_path (fs : FileSystem) (path : PathBuf) : Bool :=
  match path.components.head? with
  | some (.Prefix (.UNC _ _)) | some (.Prefix (.VerbatimUNC _ _)) => true
  | some (.Prefix (.Disk drive)) | some (.Prefix (.VerbatimDisk drive)) => fs.remote_drive drive
  | _ => false

def validate_backup_source_paths (to_lowercase : String → String) (fs : FileSystem) (sources : List PathBuf)
    (data_directory : Option PathBuf) : Except InvocationError Unit :=
  let protected_paths := data_directory.toList ++
    ((data_directory.bind fs.canonicalize).map ordinary_windows_path).toList
  let inside := windows_path_is_same_or_descendant to_lowercase
  forM sources fun source => do
    rejectIf (source_is_network_path fs source) .UnsupportedNetworkBackupSource
    rejectIf (source_uses_unsupported_local_namespace source) .UnsupportedBackupSourceNamespace
    let canonical_source := (fs.canonicalize source).map ordinary_windows_path
    rejectIf (protected_paths.any (fun directory =>
      inside source directory || canonical_source.any (fun canonical => inside canonical directory)))
      .ProtectedBackupSource
    -- An alias of a directory would escape exclusions written for its real path.
    rejectIf (canonical_source.any (fun canonical => !(inside source canonical && inside canonical source)))
      .UnsupportedBackupSourceNamespace

/-! ## Outcomes -/

structure BackupSummary where
  files_processed : UInt64
  bytes_processed : UInt64
  data_added : UInt64
  snapshot_id : Option String
  deriving DecidableEq

inductive BackupOutcomeKind where
  | Succeeded
  | SucceededWithWarnings
  | Failed (code : String)
  | Cancelled
  deriving DecidableEq

/-- `matches!(kind, Succeeded | SucceededWithWarnings)`. -/
def BackupOutcomeKind.succeeded : BackupOutcomeKind → Bool
  | .Succeeded | .SucceededWithWarnings => true
  | _ => false

structure BackupOutcome where
  kind : BackupOutcomeKind
  summary : Option BackupSummary
  warning_code : Option String
  failed_items : List String
  failed_items_omitted : UInt64
  deriving DecidableEq

namespace BackupOutcome

def failed (code : String) : BackupOutcome where
  kind := .Failed code
  summary := none
  warning_code := none
  failed_items := []
  failed_items_omitted := 0

/-- A retention warning does not hide one about the backup itself. -/
def with_warning (outcome : BackupOutcome) (code : String) : BackupOutcome :=
  if outcome.kind.succeeded then
    { outcome with kind := .SucceededWithWarnings, warning_code := outcome.warning_code.or (some code) }
  else outcome

end BackupOutcome

inductive RepositoryOutcomeKind where
  | Succeeded
  | Failed (code : String)
  | Cancelled
  deriving DecidableEq

inductive RetentionOutcomeKind where
  | Succeeded (pruned : Bool)
  | Failed (code : String)
  | Cancelled
  deriving DecidableEq

/-! ## Repository commands -/

/-- How one repository command ended. `Exited` carries the exit code and the text on standard error. -/
inductive ProcessResult where
  | CredentialUnavailable
  | WakeLockUnavailable
  | CancelledBeforeStart
  | IsolationFailed
  | StartFailed
  | OutputUnavailable
  | TerminationFailed
  | Cancelled
  | TimedOut
  | WaitFailed
  | Exited (code : Option Int) (stderr : String)
  deriving DecidableEq

def containsText (message fragment : String) : Bool :=
  message.toList.tails.any (fun rest => fragment.toList.isPrefixOf rest)

def classify_stderr (stderr : String) : Option String :=
  let message := Text.to_ascii_lowercase stderr
  let mentions (fragments : List String) : Bool := fragments.any (containsText message)
  if mentions ["vss error:", "failed to create snapshot for [", "failed to delete vss snapshot",
      "volume shadow copy service", "shadow copy provider"] then some "restic_vss_unavailable"
  else if mentions ["access denied", "permission denied", "insufficient privilege"] then
    some "restic_permission_denied"
  else if mentions ["already locked", "repository is locked", "unable to create lock"] then
    some "restic_repository_locked"
  else if mentions ["unauthorized", "authentication failed", "invalid access key", "wrong password"] then
    some "restic_authentication_failed"
  else if mentions ["connection refused", "connection reset", "timed out", "timeout", "no such host",
      "name resolution"] then some "restic_repository_unreachable"
  else if mentions ["no such file or directory", "cannot find the path", "path does not exist"] then
    some "restic_source_unavailable"
  else none

/-- The code of a command that exited unsuccessfully. -/
def exit_code (operation : ResticOperation) (code : Option Int) (stderr : String) : String :=
  if operation = .Probe ∧ code = some 10 then "repository_not_found"
  else match classify_stderr stderr with
    | some classified => classified
    | none =>
      if operation = .Probe then "repository_validation_failed"
      else if operation = .Initialize then "repository_initialization_failed"
      else "repository_operation_failed"

/-- `execute_repository_invocation`, given how the process ended. -/
def execute_repository_invocation (invocation : ResticInvocation) : ProcessResult → RepositoryOutcomeKind
  | .CredentialUnavailable => .Failed "credential_unavailable"
  | .WakeLockUnavailable => .Failed "wake_lock_unavailable"
  | .CancelledBeforeStart | .Cancelled => .Cancelled
  | .IsolationFailed => .Failed "process_isolation_failed"
  | .StartFailed => .Failed "restic_start_failed"
  | .OutputUnavailable => .Failed "restic_output_unavailable"
  | .TerminationFailed => .Failed "restic_termination_failed"
  | .TimedOut => .Failed "repository_operation_timed_out"
  | .WaitFailed => .Failed "restic_wait_failed"
  | .Exited (some 0) _ => .Succeeded
  | .Exited code stderr => .Failed (exit_code invocation.operation code stderr)

/-! ## Retention -/

/-- How the two commands of a retention pass end. -/
structure RetentionIo where
  forget : ProcessResult
  prune : ProcessResult
  deriving DecidableEq

/-- A failed command is reported under its own code, or under the pass's when restic gave no reason. -/
def retention_failure (outcome : String) (code : String) : RetentionOutcomeKind :=
  .Failed (if outcome = "repository_operation_failed" then code else outcome)

/-- `ResticExecutor::retention`: its outcome, and the commands it runs. -/
def retention (executable : PathBuf) (config : EffectiveConfig) (prune_due : Bool) (io : RetentionIo) :
    RetentionOutcomeKind × List ResticInvocation :=
  match ResticCommandBuilder.retention executable config .Forget with
  | .error _ => (.Failed "retention_forbidden", [])
  | .ok forget =>
    match execute_repository_invocation forget io.forget with
    | .Cancelled => (.Cancelled, [forget])
    | .Failed code => (retention_failure code "retention_forget_failed", [forget])
    | .Succeeded =>
      if !prune_due then (.Succeeded false, [forget])
      else match ResticCommandBuilder.retention executable config .Prune with
        | .error _ => (.Failed "retention_forbidden", [forget])
        | .ok prune =>
          match execute_repository_invocation prune io.prune with
          | .Succeeded => (.Succeeded true, [forget, prune])
          | .Cancelled => (.Cancelled, [forget, prune])
          | .Failed code => (retention_failure code "retention_prune_failed", [forget, prune])

/-- No restic command reports the code that stands for a refused one. -/
theorem classify_stderr_ne (stderr : String) : classify_stderr stderr ≠ some "retention_forbidden" := by
  unfold classify_stderr
  simp only
  repeat' split
  all_goals decide

theorem exit_code_ne (operation : ResticOperation) (code : Option Int) (stderr : String) :
    exit_code operation code stderr ≠ "retention_forbidden" := by
  unfold exit_code
  split
  · decide
  · split
    · rename_i classified hc
      intro h
      exact classify_stderr_ne stderr (h ▸ hc)
    · split
      · decide
      · split <;> decide

theorem execute_repository_invocation_ne (invocation : ResticInvocation) (result : ProcessResult) :
    execute_repository_invocation invocation result ≠ .Failed "retention_forbidden" := by
  unfold execute_repository_invocation
  split
  case h_12 => intro h; exact exit_code_ne _ _ _ (RepositoryOutcomeKind.Failed.inj h)
  all_goals decide

theorem retention_failure_ne {outcome code : String} (ho : outcome ≠ "retention_forbidden")
    (hc : code ≠ "retention_forbidden") : retention_failure outcome code ≠ .Failed "retention_forbidden" := by
  unfold retention_failure
  split
  · simpa using hc
  · simpa using ho

/-- A pass over a valid configuration of a standard repository is never refused. -/
theorem retention_not_forbidden {executable : PathBuf} {config : EffectiveConfig} {prune_due : Bool}
    {io : RetentionIo} (hm : config.repository.mode = .Standard) (hv : config.validate = .ok ())
    (hu : config.repository.url.isSome) :
    (retention executable config prune_due io).1 ≠ .Failed "retention_forbidden" := by
  obtain ⟨forget, hf⟩ : ∃ i, ResticCommandBuilder.retention executable config .Forget = .ok i :=
    (ResticCommandBuilder.retention_ok_iff (.inl rfl)).2 ⟨hm, hv, hu⟩
  obtain ⟨prune, hp⟩ : ∃ i, ResticCommandBuilder.retention executable config .Prune = .ok i :=
    (ResticCommandBuilder.retention_ok_iff (.inr rfl)).2 ⟨hm, hv, hu⟩
  simp only [retention, hf, hp]
  split
  · simp
  · rename_i code hcode
    exact retention_failure_ne (fun h => execute_repository_invocation_ne _ _ (h ▸ hcode)) (by decide)
  · split
    · simp
    · split
      · simp
      · simp
      · rename_i code hcode
        exact retention_failure_ne (fun h => execute_repository_invocation_ne _ _ (h ▸ hcode)) (by decide)

end ResticPal
