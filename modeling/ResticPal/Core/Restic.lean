import ResticPal.Core.Config
/-!
# Restic invocations

`resticpal-core/src/restic.rs`: which restic commands a repository mode allows,
how each is built, and when one Windows path lies inside another.
-/

open Lib

namespace ResticPal

inductive ResticOperation where
  | Backup
  | Unlock
  | Probe
  | Snapshots
  | Check
  | Initialize
  | Forget
  | Prune
  | Rewrite
  | Migrate
  | Repair
  | RemoveKey
  deriving DecidableEq, Repr

def ResticOperation.allowed_in (operation : ResticOperation) (mode : RepositoryMode) : Bool :=
  match mode with
  | .Standard => true
  | .AppendOnly =>
    match operation with
    | .Backup | .Unlock | .Probe | .Snapshots | .Check => true
    | _ => false

inductive InvocationError where
  | InvalidConfiguration (error : ConfigValidationError)
  | MissingRepository
  | NoBackupPaths
  | SnapshotDisablingRepositoryOption (option : String)
  | ProtectedBackupSource
  | UnsupportedBackupSourceNamespace
  | UnsupportedNetworkBackupSource
  | ForbiddenByRepositoryMode (mode : RepositoryMode) (operation : ResticOperation)
  | NotInspectionOperation (operation : ResticOperation)
  | NotRepositorySetupOperation (operation : ResticOperation)
  | NotRetentionOperation (operation : ResticOperation)
  deriving DecidableEq

structure ResticInvocation where
  operation : ResticOperation
  executable : PathBuf
  arguments : List String
  environment : BTreeMap String String
  secret_environment : SecretRefs
  deriving DecidableEq

def authorize_operation (mode : RepositoryMode) (operation : ResticOperation) : Except InvocationError Unit :=
  rejectIf (!operation.allowed_in mode) (.ForbiddenByRepositoryMode mode operation)

def repository_options (config : EffectiveConfig) : List String :=
  config.repository.options.entries.flatMap (fun option => ["--option", option.1 ++ "=" ++ option.2])

def reject_snapshot_disabling_options (config : EffectiveConfig) : Except InvocationError Unit :=
  match config.repository.options.keys.find? repository_option_disables_source_snapshots with
  | some option => .error (.SnapshotDisablingRepositoryOption option)
  | none => .ok ()

/-! ## Paths -/

section Paths

-- `str::to_lowercase`, by the Unicode tables.
variable (to_lowercase : String → String)

def normalizedPrefix : Prefix → String
  | .Disk drive | .VerbatimDisk drive => "disk:" ++ String.ofList [drive.toLower]
  | .UNC server share | .VerbatimUNC server share => "unc:" ++ to_lowercase server ++ "/" ++ to_lowercase share
  | .DeviceNS device => "device:" ++ to_lowercase device
  | .Verbatim value => "verbatim:" ++ to_lowercase value

/-- Normalize the components left, given the result so far and the length `..` cannot go below. -/
def normalize (normalized : List String) (floor : Nat) : List Component → Option (List String)
  | [] => some normalized
  | .Prefix kind :: rest =>
    normalize (normalized ++ [normalizedPrefix to_lowercase kind]) (normalized.length + 1) rest
  | .RootDir :: rest => normalize (normalized ++ ["root"]) (normalized.length + 1) rest
  | .CurDir :: rest => normalize normalized floor rest
  | .ParentDir :: rest =>
    if normalized.length ≤ floor then none else normalize normalized.dropLast floor rest
  | .Normal value :: rest => normalize (normalized ++ ["name:" ++ to_lowercase value]) floor rest

def normalized_windows_path (path : PathBuf) : Option (List String) :=
  if !path.is_absolute then none else normalize to_lowercase [] 0 path.components

def windows_path_is_same_or_descendant (path directory : PathBuf) : Bool :=
  match normalized_windows_path to_lowercase path, normalized_windows_path to_lowercase directory with
  | some path, some directory => directory.length ≤ path.length && (path.zip directory).all (fun p => p.1 == p.2)
  | _, _ => false

end Paths

/-! ## Commands -/

namespace ResticCommandBuilder

/-- The invocation every command builds, once it is authorized and the configuration is valid. -/
def build (executable : PathBuf) (config : EffectiveConfig) (operation : ResticOperation) (arguments : List String) :
    Except InvocationError ResticInvocation := do
  let some repository := config.repository.url | .error .MissingRepository
  return {
    operation
    executable
    arguments := repository_options config ++ arguments
    environment := (∅ : BTreeMap String String).insert "RESTIC_REPOSITORY" repository
    secret_environment := config.repository.secret_refs }

def backup_with_required_exclusions (to_lowercase : String → String) (executable : PathBuf)
    (config : EffectiveConfig) (exclusions : List PathBuf) : Except InvocationError ResticInvocation := do
  authorize_operation config.repository.mode .Backup
  reject_snapshot_disabling_options config
  config.validate.mapError .InvalidConfiguration
  rejectIf config.repository.url.isNone .MissingRepository
  rejectIf config.backup.paths.isEmpty .NoBackupPaths
  -- Restic does not apply exclusions to a source that is named explicitly.
  rejectIf (config.backup.paths.any (fun source =>
    exclusions.any (windows_path_is_same_or_descendant to_lowercase source))) .ProtectedBackupSource
  build executable config .Backup (["--cleanup-cache", "backup", "--json", "--use-fs-snapshot"] ++
    config.backup.exclusions.flatMap (fun exclusion => ["--exclude", exclusion]) ++
    exclusions.flatMap (fun exclusion => ["--iexclude", exclusion.text]) ++
    config.backup.paths.map (·.text))

def backup (to_lowercase : String → String) (executable : PathBuf) (config : EffectiveConfig) :
    Except InvocationError ResticInvocation :=
  backup_with_required_exclusions to_lowercase executable config []

def unlock (executable : PathBuf) (config : EffectiveConfig) : Except InvocationError ResticInvocation := do
  authorize_operation config.repository.mode .Unlock
  config.validate.mapError .InvalidConfiguration
  build executable config .Unlock ["unlock"]

def inspection (executable : PathBuf) (config : EffectiveConfig) (operation : ResticOperation) :
    Except InvocationError ResticInvocation := do
  rejectIf (!(operation == .Snapshots || operation == .Check)) (.NotInspectionOperation operation)
  authorize_operation config.repository.mode operation
  config.validate.mapError .InvalidConfiguration
  build executable config operation (if operation = .Snapshots then ["snapshots", "--json"] else ["check", "--json"])

def repository_setup (executable : PathBuf) (config : EffectiveConfig) (operation : ResticOperation) :
    Except InvocationError ResticInvocation := do
  rejectIf (!(operation == .Probe || operation == .Initialize)) (.NotRepositorySetupOperation operation)
  authorize_operation config.repository.mode operation
  config.validate.mapError .InvalidConfiguration
  build executable config operation (if operation = .Probe then ["cat", "config"] else ["init"])

def retention (executable : PathBuf) (config : EffectiveConfig) (operation : ResticOperation) :
    Except InvocationError ResticInvocation := do
  rejectIf (!(operation == .Forget || operation == .Prune)) (.NotRetentionOperation operation)
  authorize_operation config.repository.mode operation
  config.validate.mapError .InvalidConfiguration
  build executable config operation (if operation = .Forget then
    ["forget", "--keep-daily", toString config.retention.daily.toNat,
      "--keep-weekly", toString config.retention.weekly.toNat,
      "--keep-monthly", toString config.retention.monthly.toNat,
      "--keep-yearly", toString config.retention.yearly.toNat]
    else ["prune"])

theorem build_ok {executable : PathBuf} {config : EffectiveConfig} {operation : ResticOperation}
    {arguments : List String} :
    (∃ i, build executable config operation arguments = .ok i) ↔ config.repository.url.isSome := by
  unfold build
  cases config.repository.url <;> simp [pure, Except.pure]

/-- Retention commands exist for a valid configuration of a repository that may
be changed, and only for one. -/
theorem retention_ok_iff {executable : PathBuf} {config : EffectiveConfig} {operation : ResticOperation}
    (ho : operation = .Forget ∨ operation = .Prune) :
    (∃ i, retention executable config operation = .ok i) ↔
      config.repository.mode = .Standard ∧ config.validate = .ok () ∧ config.repository.url.isSome := by
  have hr : (!(operation == .Forget || operation == .Prune)) = false := by
    rcases ho with rfl | rfl <;> rfl
  have ha : authorize_operation config.repository.mode operation = .ok () ↔ config.repository.mode = .Standard := by
    rcases ho with rfl | rfl <;> cases config.repository.mode <;> simp [authorize_operation, ResticOperation.allowed_in]
  simp only [retention, check_bind_eq_ok, rejectIf_eq_ok, hr, true_and, ha, mapError_eq_ok, exists_and_left, build_ok]

end ResticCommandBuilder

end ResticPal
