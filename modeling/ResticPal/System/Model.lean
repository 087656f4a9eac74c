import ResticPal.Lib.Runs
import ResticPal.Runtime.Flags
/-!
# The running service

The event loop, the IPC thread, the management thread and the workers they
start, as one labelled system: each handler, evaluation and completion is one
step. Requests are served one at a time. An enrollment is a request like the
others, and is also split into its beginning and its end, between which no
other request is served but everything else may happen.

`System` adds to the runtime what the threads hold themselves: the backup
worker, a pending update worker, the enrollment under way, and, for the
theorems, the last clock reading and the managed policy in force.
-/

open Lib

namespace ResticPal

/-- How far the thread of `start_backup_worker` is. -/
inductive WorkerPhase where
  | spawned
  | copied (config : EffectiveConfig)
  | retaining (config : EffectiveConfig) (plan : RetentionPlan) (outcome : BackupOutcome)
  | finished (outcome : BackupOutcome)

/-- The worker's copy of the configuration, while it uses one. -/
def WorkerPhase.config : WorkerPhase → Option EffectiveConfig
  | .copied config | .retaining config _ _ => some config
  | _ => none

/-- A backup worker, with the configuration in force when it was started. -/
structure BackupWorker where
  started : EffectiveConfig
  phase : WorkerPhase

structure System where
  runtime : ServiceRuntime
  clock : DateTime
  backup : Option BackupWorker
  update : Bool
  enrolling : Bool
  policy : Option ManagedPolicy

inductive Label where
  | request (command : RequestCommand) (elevated : Bool) (io : RequestIo)
  | beginEnroll (now : DateTime)
  | finishEnroll (io : RequestIo)
  | applyPolicy (policy : ManagedPolicy) (expected : LocalManagementConfig) (now : DateTime) (written : Bool)
  | evaluate (now : DateTime) (conditions : SystemConditions)
  | resume (now : DateTime)
  | finishUpdate (outcome : UpdateInstallOutcome) (now : DateTime)
  | spawnFailed
  | copyConfig
  | progress (progress : BackupProgress)
  | endBackup (outcome : BackupOutcome) (now : DateTime)
  | retain (executable : PathBuf) (io : RetentionIo) (now : DateTime) (written : Bool)
  | finishBackup (now : DateTime) (written : Bool)
  | finishRepository (operation : RepositoryOperationKind) (outcome : RepositoryOutcomeKind) (now : DateTime)
      (written : Bool)

/-- The clock reading of a step. -/
def Label.now : Label → Option DateTime
  | .request _ _ io | .finishEnroll io => some io.now
  | .beginEnroll now | .applyPolicy _ _ now _ | .evaluate now _ | .resume now | .finishUpdate _ now
  | .endBackup _ now | .retain _ _ now _ | .finishBackup now _ | .finishRepository _ _ now _ => some now
  | .spawnFailed | .copyConfig | .progress _ => none

/-- The event loop makes the step. -/
def Label.on_event_loop : Label → Bool
  | .evaluate _ _ | .resume _ | .finishUpdate _ _ | .spawnFailed | .finishBackup _ _ | .finishRepository _ _ _ _ => true
  | _ => false

namespace System

def with_state (s : System) (state : RuntimeState) : System := { s with runtime := { s.runtime with state } }

/-- The worker's next phase once restic has ended: retention follows a success, where it is planned. -/
def after_backup (s : System) (config : EffectiveConfig) (outcome : BackupOutcome) (now : DateTime) :
    ServiceRuntime × WorkerPhase :=
  if outcome.kind.succeeded then
    let begun := s.runtime.begin_retention now
    (begun.1, begun.2.elim (.finished outcome) (fun plan => .retaining config plan outcome))
  else (s.runtime, .finished outcome)

/-- A step of a worker, by its phase. -/
def worker_step (s : System) (worker : BackupWorker) : Label → Option System
  | .spawnFailed => match worker.phase with
    | .spawned => some { s with backup := some { worker with phase := .finished (.failed "executor_start_failed") } }
    | _ => none
  | .copyConfig => match worker.phase with
    | .spawned => some { s with backup := some { worker with phase := .copied s.runtime.config } }
    | _ => none
  | .progress progress => match worker.phase with
    | .copied _ => some (s.with_state (update_progress s.runtime.state progress))
    | _ => none
  | .endBackup outcome now => match worker.phase with
    | .copied config =>
      let ended := s.after_backup config outcome now
      some { s with runtime := ended.1, backup := some { worker with phase := ended.2 } }
    | _ => none
  | .retain executable io now written => match worker.phase with
    | .retaining config plan outcome =>
      let retained := retention executable config plan.prune_due io
      let finished := s.runtime.finish_retention outcome retained.1 now written
      some { s with runtime := finished.1, backup := some { worker with phase := .finished finished.2 } }
    | _ => none
  | .finishBackup now written => match worker.phase with
    | .finished outcome => (s.runtime.finish_backup_at now outcome written).map
        (fun runtime => { s with runtime, backup := none })
    | _ => none
  | _ => none

/-- The policy in force after an attempt to apply one. -/
def policy_applied (policy : ManagedPolicy) (outcome : Except PolicyError ManagedPolicyApplyOutcome)
    (before : Option ManagedPolicy) : Option ManagedPolicy :=
  match outcome with
  | .ok .Applied => some policy
  | _ => before

/-- The worker after an evaluation, which starts one for a due backup. -/
def worker_after (s : System) : ScheduleAction → Option BackupWorker
  | .Start _ => some ⟨s.runtime.config, .spawned⟩
  | .None => s.backup

/-- A step, apart from the clock. -/
def advance (ext : External) (s : System) (l : Label) : Option System :=
  match l with
  | .request command elevated io =>
    if s.enrolling then none
    else
      let handled := s.runtime.handle_request ext command elevated io
      some { s with
        runtime := handled.1
        update := s.update || command.starts_update handled.2
        policy := command.policy_after s.runtime io handled.2 s.policy }
  | .beginEnroll now =>
    if s.enrolling then none
    else (begin_enrollment s.runtime now).map (fun runtime => { s with runtime, enrolling := true })
  | .finishEnroll io =>
    if !s.enrolling then none
    else
      let finished := finish_enrollment ext.parse_url s.runtime io
      some { s with
        runtime := finished.1
        enrolling := false
        policy := if finished.2.isAccepted then io.enrollment.map (·.initial_manifest.payload.policy) else s.policy }
  | .applyPolicy policy expected now written =>
    let applied := s.runtime.apply_managed_policy_if_current policy expected now written
    some { s with runtime := applied.1, policy := policy_applied policy applied.2 s.policy }
  | .evaluate now conditions =>
    (s.runtime.evaluate_schedule now conditions).map fun evaluated => { s with
      runtime := evaluated.1
      backup := s.worker_after evaluated.2 }
  | .resume now => some { s with runtime := s.runtime.record_resume now }
  | .finishUpdate outcome now =>
    if s.update then some { s.with_state (finish_update_install s.runtime.state now outcome) with update := false }
    else none
  | .finishRepository operation outcome now written =>
    some { s with runtime := s.runtime.finish_repository_operation operation outcome now written }
  | l => s.backup.bind (fun worker => s.worker_step worker l)

def step (ext : External) (s : System) (l : Label) : Option System :=
  (s.advance ext l).map (fun t => { t with clock := l.now.getD s.clock })

/-- A service that has just started, on whatever files it found. -/
inductive Starts (ext : External) : System → Prop
  | loaded {runtime : ServiceRuntime} {now : DateTime} {policy : Option ManagedPolicy} (config_store : LocalConfigStore)
      (credential_store : Option CredentialStore) (state_store : StoredFile PersistedScheduleState)
      (policy_cache : ManagedPolicyCache) (load : load_with_credentials_and_policy ext.parse_url config_store
        credential_store state_store policy_cache policy now = .ok runtime) :
      Starts ext ⟨runtime, now, none, false, false, policy⟩
  | configurationError (config_store : LocalConfigStore) (credential_store : Option CredentialStore)
      (state_store : StoredFile PersistedScheduleState) (policy_cache : ManagedPolicyCache) (now : DateTime) :
      Starts ext ⟨configuration_error config_store credential_store state_store policy_cache now, now, none, false,
        false, none⟩

namespace HomeDevice

/-- A device that backs up to a repository it has verified, and last did when the clock started. -/
def loc : LocalConfig where
  backup := { paths := some [⟨"C:\\Users"⟩] }
  repository := { url := some "D:\\home" }

def effective : EffectiveConfig where
  backup := { paths := [⟨"C:\\Users"⟩] }
  repository := { url := some "D:\\home" }

def verified : ServiceStateSnapshot :=
  .mark_repository_verified { last_success := some .UNIX_EPOCH } effective .UNIX_EPOCH

/-- The service that has found this `state.json`. -/
def loaded (recorded : ServiceStateSnapshot) : ServiceRuntime :=
  from_resolved_with_state ⟨effective, none, ((choose_all {} loc none).run ∅).2⟩ loc recorded ⟨none, .contents loc⟩ none
    (.contents ⟨STATE_SCHEMA_VERSION, recorded⟩) .missing .UNIX_EPOCH

theorem loaded_loads (recorded : ServiceStateSnapshot) : load_with_credentials_and_policy External.inert.parse_url
    ⟨none, .contents loc⟩ none (.contents ⟨STATE_SCHEMA_VERSION, recorded⟩) .missing none .UNIX_EPOCH =
      .ok (loaded recorded) := rfl

def started : System := ⟨loaded verified, .UNIX_EPOCH, none, false, false, none⟩

/-- On mains power, with a network. -/
def conditions : SystemConditions := ⟨true, false, false⟩

/-- The next backup is due. -/
def due : DateTime := ⟨24 * 3600 * 1000000000, by decide, by decide⟩

def password : SecretRefs := (∅ : SecretRefs).insert .ResticPassword "restic-password-1"

end HomeDevice

namespace OfficeServer

def external : External := { External.inert with
  parse_url := fun _ => some ⟨"https", some "files.example.test", "", none, none⟩ }

def management : LocalManagementConfig :=
  { mode := .PlainManifest, manifest_url := some "https://files.example.test/resticpal.json" }

end OfficeServer

end System

end ResticPal
