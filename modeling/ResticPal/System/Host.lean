import ResticPal.Runtime.Journal
import ResticPal.System.Steps
/-!
# The service and its computer

`System` with what a crash and a restart need: the disk under the running
service, the repository worker, and the time between two starts.

- `System.step_replays`: a step leaves on disk what its journal writes, so a
  crash inside a step leaves the writes made so far.

A `Service` adds to the system the repository operations that were requested
and the thread that works on one. A `Host` runs a service, or has it stopped,
and can lose power in the middle of a step.
-/

open Lib

namespace ResticPal

namespace System

/-- The durable writes of a step. -/
def journal (ext : External) (s : System) : Label → List DiskWrite
  | .request command elevated io => s.runtime.request_journal ext command elevated io
  | .finishEnroll io => finish_enrollment_journal s.runtime ext.parse_url io
  | .applyPolicy policy expected now written => policy_journal s.runtime policy expected now written
  | .retain executable io now written => match s.backup with
    | some ⟨_, .retaining config plan _⟩ =>
      finish_retention_journal s.runtime.state (retention executable config plan.prune_due io).1 now written
    | _ => []
  | .finishBackup now written => match s.backup with
    | some ⟨_, .finished outcome⟩ => finish_backup_journal s.runtime.state now outcome written
    | _ => []
  | .finishRepository operation outcome now written => finish_repository_journal s.runtime operation outcome now written
  | _ => []

variable {ext : External} {s u : System} {l : Label}

/-- The files after a step are those before it with the writes of its journal. -/
theorem step_replays (hs : step ext s l = some u) :
    u.runtime.disk = replay Disk.write s.runtime.disk (s.journal ext l) := by
  cases step_ran hs with
  | request _ => exact request_replays
  | beganEnroll begins =>
    obtain ⟨-, rfl⟩ := begin_enrollment_eq_some begins
    rfl
  | finishedEnroll _ => exact finish_enrollment_replays
  | appliedPolicy => exact policy_replays
  | finishedRepository => exact finish_repository_replays
  | retained worker finishes =>
    subst finishes
    simp only [journal, worker]
    exact finish_retention_replays
  | finishedBackup worker finishes =>
    simp only [journal, worker]
    exact finish_backup_replays finishes
  | _ => rfl

end System

/-! ## The repository worker -/

/-- How far the thread of `start_repository_worker` is. -/
inductive ProbePhase where
  | spawned
  | probing (config : EffectiveConfig)
  | ended (config : EffectiveConfig) (outcome : RepositoryOutcomeKind)

/-- The worker's copy of the configuration. -/
def ProbePhase.config : ProbePhase → Option EffectiveConfig
  | .spawned => none
  | .probing config | .ended config _ => some config

structure RepositoryWorker where
  operation : RepositoryOperationKind
  phase : ProbePhase

/-- The `RepositoryOperationRequested` events a step sends. -/
def Label.requests (ext : External) (runtime : ServiceRuntime) : Label → List RepositoryOperationKind
  | .request command elevated io =>
    if (runtime.handle_request ext command elevated io).2.isAccepted then command.operation.toList else []
  | _ => []

def Label.isFinishRepository : Label → Bool
  | .finishRepository _ _ _ _ => true
  | _ => false

/-- A running service: the system, the operations requested of the event loop,
and the worker of the one it has started. -/
structure Service where
  system : System
  requested : List RepositoryOperationKind
  worker : Option RepositoryWorker

inductive ServiceLabel where
  /-- Any step but the end of a repository operation. -/
  | serve (l : Label)
  /-- The event loop takes up a request, and starts a worker if it can. -/
  | receive (spawns : Bool) (now : DateTime) (written : Bool)
  | copyConfig
  | probed (outcome : RepositoryOutcomeKind)
  | finish (now : DateTime) (written : Bool)

/-- The worker that has just ended with success has probed this repository. -/
structure Probe where
  operation : RepositoryOperationKind
  identity : RepositoryIdentity
  deriving DecidableEq

namespace Service

/-- The step of the system that a step of the service makes. -/
def system_label (v : Service) : ServiceLabel → Option Label
  | .serve l => if l.isFinishRepository then none else some l
  | .receive spawns now written => match v.requested with
    | operation :: _ =>
      if v.system.backup.isSome || v.worker.isSome then
        some (.finishRepository operation (.Failed "repository_operation_conflict") now written)
      else if spawns then none
      else some (.finishRepository operation (.Failed "executor_start_failed") now written)
    | [] => none
  | .finish now written => match v.worker with
    | some ⟨operation, .ended _ outcome⟩ => some (.finishRepository operation outcome now written)
    | _ => none
  | .copyConfig | .probed _ => none

/-- What the event loop keeps book of once the system has made its step. -/
def after (ext : External) (v : Service) (system : System) : ServiceLabel → Service
  | .serve l => { v with system, requested := v.requested ++ l.requests ext v.system.runtime }
  | .receive _ _ _ => { v with system, requested := v.requested.tail }
  | _ => { v with system, worker := none }

/-- The steps the system takes no part in. -/
def worker_step (v : Service) : ServiceLabel → Option Service
  | .receive _ _ _ => match v.requested with
    | operation :: requested => some { v with requested, worker := some ⟨operation, .spawned⟩ }
    | [] => none
  | .copyConfig => match v.worker with
    | some ⟨operation, .spawned⟩ => some { v with worker := some ⟨operation, .probing v.system.runtime.config⟩ }
    | _ => none
  | .probed outcome => match v.worker with
    | some ⟨operation, .probing config⟩ => some { v with worker := some ⟨operation, .ended config outcome⟩ }
    | _ => none
  | .serve _ | .finish _ _ => none

def step (ext : External) (v : Service) (l : ServiceLabel) : Option Service :=
  match v.system_label l with
  | some label => (v.system.step ext label).map (fun system => v.after ext system l)
  | none => v.worker_step l

def journal (ext : External) (v : Service) (l : ServiceLabel) : List DiskWrite :=
  (v.system_label l).elim [] (v.system.journal ext)

def disk (v : Service) : Disk := v.system.runtime.disk

/-- The probe that a step ends with success. -/
def probe (v : Service) : ServiceLabel → List Probe
  | .probed .Succeeded => match v.worker with
    | some ⟨operation, .probing config⟩ => [⟨operation, RepositoryIdentity.from_config config⟩]
    | _ => []
  | _ => []

variable {ext : External} {v w : Service} {l : ServiceLabel}

/-- The step of the system in a step of the service. -/
inductive Makes (v : Service) : ServiceLabel → Label → Prop
  | served {label : Label} (other : label.isFinishRepository = false) : Makes v (.serve label) label
  | refused {operation : RepositoryOperationKind} {rest : List RepositoryOperationKind} {spawns : Bool} {now : DateTime}
      {written : Bool} (code : String) (requested : v.requested = operation :: rest) :
      Makes v (.receive spawns now written) (.finishRepository operation (.Failed code) now written)
  | finished {operation : RepositoryOperationKind} {config : EffectiveConfig} {outcome : RepositoryOutcomeKind}
      {now : DateTime} {written : Bool} (worker : v.worker = some ⟨operation, .ended config outcome⟩) :
      Makes v (.finish now written) (.finishRepository operation outcome now written)

theorem system_label_makes {label : Label} (h : v.system_label l = some label) : Makes v l label := by
  cases l with
  | serve label =>
    simp only [system_label] at h
    split at h
    · cases h
    · rename_i hl
      obtain rfl := Option.some.inj h
      exact .served (by simpa using hl)
  | receive spawns now written =>
    simp only [system_label] at h
    split at h
    · rename_i operation rest hr
      split at h
      · obtain rfl := Option.some.inj h
        exact .refused _ hr
      · split at h
        · cases h
        · obtain rfl := Option.some.inj h
          exact .refused _ hr
    · cases h
  | copyConfig | probed outcome => cases h
  | finish now written =>
    simp only [system_label] at h
    split at h
    · rename_i operation config outcome hw
      obtain rfl := Option.some.inj h
      exact .finished hw
    · cases h

theorem mem_journal {w : DiskWrite} (h : w ∈ v.journal ext l) : ∃ label, Makes v l label ∧ w ∈ v.system.journal ext label := by
  unfold journal at h
  rcases Option.eq_none_or_eq_some (v.system_label l) with hl | ⟨label, hl⟩
  · rw [hl] at h
    cases h
  · rw [hl] at h
    exact ⟨label, system_label_makes hl, h⟩

theorem worker_step_system (h : v.worker_step l = some w) : w.system = v.system := by
  unfold worker_step at h
  repeat' split at h
  all_goals cases h
  all_goals rfl

theorem after_system (ext : External) (v : Service) (system : System) (l : ServiceLabel) :
    (v.after ext system l).system = system := by
  cases l <;> rfl

theorem step_replays (h : step ext v l = some w) : w.disk = replay Disk.write v.disk (v.journal ext l) := by
  unfold step at h
  unfold journal
  split at h
  · rename_i label hl
    obtain ⟨system, hs, rfl⟩ := Option.map_eq_some_iff.1 h
    rw [hl, disk, after_system]
    exact System.step_replays hs
  · rename_i hl
    rw [hl, disk, worker_step_system h]
    rfl

end Service

/-! ## Crashes and restarts -/

/-- Start a service on the files of a disk. -/
def Disk.start (ext : External) (disk : Disk) (policy : Option ManagedPolicy) (now : DateTime) : Option System :=
  match disk.config_store, disk.state_store with
  | some config_store, some state_store =>
    match load_with_credentials_and_policy ext.parse_url config_store disk.credential_store state_store
        disk.policy_cache policy now with
    | .ok runtime => some ⟨runtime, now, none, false, false, policy⟩
    | .error _ => some ⟨configuration_error config_store disk.credential_store state_store disk.policy_cache now, now,
        none, false, false, none⟩
  | _, _ => none

/-- A start reads the files and leaves them as they are. -/
theorem Disk.start_starts {ext : External} {disk : Disk} {policy : Option ManagedPolicy} {now : DateTime} {s : System}
    (h : disk.start ext policy now = some s) : System.Starts ext s ∧ s.runtime.disk = disk := by
  unfold Disk.start at h
  split at h
  · rename_i config_store state_store hconfig hstate
    have hdisk : disk = ⟨some config_store, some state_store, disk.policy_cache, disk.credential_store⟩ := by
      rw [← hconfig, ← hstate]
    split at h
    · rename_i runtime hload
      obtain rfl := Option.some.inj h
      refine ⟨.loaded config_store _ state_store _ hload, ?_⟩
      simp only [load_with_credentials_and_policy, bind_eq_ok, pure_eq_ok] at hload
      obtain ⟨loc, -, resolved, -, rfl⟩ := hload
      exact hdisk.symm
    · obtain rfl := Option.some.inj h
      exact ⟨.configurationError config_store _ state_store _ now, hdisk.symm⟩
  · cases h

inductive Machine where
  | up (service : Service)
  | down (disk : Disk)

/-- The files, whether or not the service runs. -/
def Machine.disk : Machine → Disk
  | .up service => service.disk
  | .down disk => disk

/-- The computer, and all probes so far that ended with success. -/
structure Host where
  machine : Machine
  probes : List Probe

inductive HostLabel where
  | run (l : ServiceLabel)
  /-- Power is lost inside a step, after some of its writes. -/
  | crash (l : ServiceLabel) (writes : Nat)
  | stop
  /-- Someone edits `config.toml` while the service is down. -/
  | edit (file : StoredFile LocalConfig)
  | start (policy : Option ManagedPolicy) (now : DateTime)

namespace Host

def step (ext : External) (h : Host) (l : HostLabel) : Option Host :=
  match h.machine, l with
  | .up service, .run l => (service.step ext l).map fun after => ⟨.up after, h.probes ++ service.probe l⟩
  | .up service, .crash l writes =>
    if (service.step ext l).isSome then
      some { h with machine := .down (replay Disk.write service.disk ((service.journal ext l).take writes)) }
    else none
  | .up service, .stop => some { h with machine := .down service.disk }
  | .down disk, .edit file => some { h with
      machine := .down { disk with config_store := disk.config_store.map (fun store => { store with file }) } }
  | .down disk, .start policy now =>
    (disk.start ext policy now).map fun system => { h with machine := .up ⟨system, [], none⟩ }
  | _, _ => none

end Host


end ResticPal
