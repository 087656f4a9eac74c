import ResticPal.System.Pacing
import ResticPal.System.Probed
import ResticPal.System.Updates
/-!
# The event loop

`run_event_loop` of `resticpal-service/src/main.rs`, without its end: the queue of
events, the two variables that say what is active, and the workers that report
back through the queue. The loop takes one event at a time. A runtime method is
one step, and between two of them the other threads go on; what the loop does to
its own variables is part of the step before it.

- `operations_are_claimed_once`: a repository operation is running exactly while
  one event or one worker answers for it, backups and repository operations are
  never active together, and the branches for a conflict are never taken.
-/

open Lib

namespace ResticPal

/-- `RuntimeEvent`, except `Stop`. -/
inductive RuntimeEvent where
  | Resume
  | PowerStatusChanged
  | TimeChanged
  | RunNow
  | Cancel
  | Deferred
  | ConfigurationChanged
  | RepositoryOperationRequested (operation : RepositoryOperationKind)
  | RepositoryOperationFinished (operation : RepositoryOperationKind) (outcome : RepositoryOutcomeKind)
  | UpdateInstallRequested (package : UpdatePackage)
  | UpdateInstallFinished (outcome : UpdateInstallOutcome)
  | BackupFinished (outcome : BackupOutcome)

namespace RuntimeEvent

/-- The events of the service control handler. -/
def isNotice : RuntimeEvent → Bool
  | .Resume | .PowerStatusChanged | .TimeChanged => true
  | _ => false

def requested : RuntimeEvent → Option RepositoryOperationKind
  | .RepositoryOperationRequested operation => some operation
  | _ => none

def finished : RuntimeEvent → Option RepositoryOperationKind
  | .RepositoryOperationFinished operation _ => some operation
  | _ => none

def isUpdate : RuntimeEvent → Bool
  | .UpdateInstallRequested _ | .UpdateInstallFinished _ => true
  | _ => false

def outcome : RuntimeEvent → Option BackupOutcome
  | .BackupFinished outcome => some outcome
  | _ => none

def isCancel : RuntimeEvent → Bool
  | .Cancel => true
  | _ => false

end RuntimeEvent

/-- The event that an accepted request sends. -/
def RequestCommand.event (runtime : ServiceRuntime) : RequestCommand → Option RuntimeEvent
  | .RunBackupNow => some .RunNow
  | .CancelBackup => some .Cancel
  | .DeferBackup _ => some .Deferred
  | .ValidateRepository => some (.RepositoryOperationRequested .Validate)
  | .InitializeRepository => some (.RepositoryOperationRequested .Initialize)
  | .InstallUpdate package => some (.UpdateInstallRequested package)
  | .UpdateBackupSources _ _ | .UpdateRepository _ _ _ _ _ | .UpdateSchedule _ _ _ _ _ | .UpdateRetention _ _ _ _ _
  | .Enroll _ => some .ConfigurationChanged
  | .Unenroll => if runtime.local_config.management.mode = .Disabled then none else some .ConfigurationChanged
  | _ => none

/-- The events that a step of another thread sends. -/
def Label.sends (ext : External) (s u : System) : Label → List RuntimeEvent
  | .request command elevated io =>
    if (s.runtime.handle_request ext command elevated io).2.isAccepted then (command.event s.runtime).toList else []
  | .finishEnroll io =>
    if (finish_enrollment ext.parse_url s.runtime io).2.isAccepted then [.ConfigurationChanged] else []
  | .applyPolicy policy expected now written =>
    match (s.runtime.apply_managed_policy_if_current policy expected now written).2 with
    | .ok .Applied => [.ConfigurationChanged]
    | _ => []
  | .endBackup _ _ | .retain _ _ _ _ => u.outcome.toList.map .BackupFinished
  | _ => []

/-- What the event loop still has to do for the event it has taken. -/
inductive Doing where
  | nothing
  | evaluating
  /-- The backup worker could not be started. -/
  | givingUp
  deriving DecidableEq

/-- The event loop and all it works with. A cancellation token is a number, the
first one that is free; `cancelled` are the tokens that were signalled. -/
structure EventLoop where
  system : System
  queue : List RuntimeEvent
  active_backup : Option Nat
  active_repository_operation : Option Nat
  repository_worker : Option RepositoryOperationKind
  update_worker : Bool
  doing : Doing
  tokens : Nat
  cancelled : List Nat

inductive LoopLabel where
  /-- The IPC thread, the management thread and the backup worker. -/
  | thread (l : Label)
  /-- The service control handler. -/
  | notify (event : RuntimeEvent)
  | endRepository (outcome : RepositoryOutcomeKind)
  | endUpdate (outcome : UpdateInstallOutcome)
  /-- The event loop itself. `spawns` is whether a thread can be started. -/
  | take (now : DateTime) (spawns written : Bool)
  | timeout
  | evaluate (now : DateTime) (conditions : SystemConditions) (spawns : Bool)
  | giveUp (now : DateTime) (written : Bool)

namespace EventLoop

/-- The loop before its first evaluation. -/
def start (s : System) : EventLoop := ⟨s, [], none, none, none, false, .evaluating, 0, []⟩

/-- The condition of the branches for a conflict. -/
def conflict (c : EventLoop) : Bool := c.active_backup.isSome || c.active_repository_operation.isSome

/-- Let the runtime record something, and go on. -/
def record (ext : External) (c : EventLoop) (l : Label) (f : EventLoop → EventLoop) : Option EventLoop :=
  (c.system.step ext l).map (fun system => f { c with system })

/-- The arms of the loop, with the event already off the queue. -/
def handle (ext : External) (c : EventLoop) (now : DateTime) (spawns written : Bool) : RuntimeEvent → Option EventLoop
  | .RunNow | .PowerStatusChanged | .TimeChanged | .Deferred | .ConfigurationChanged =>
    some { c with doing := .evaluating }
  | .Cancel => some { c with cancelled := c.active_backup.toList ++ c.cancelled }
  | .BackupFinished _ => c.record ext (.finishBackup now written) ({ · with active_backup := none })
  | .RepositoryOperationRequested operation =>
    if c.conflict then
      c.record ext (.finishRepository operation (.Failed "repository_operation_conflict") now written) id
    else if spawns then
      some { c with
        active_repository_operation := some c.tokens
        repository_worker := some operation
        tokens := c.tokens + 1 }
    else c.record ext (.finishRepository operation (.Failed "executor_start_failed") now written)
      ({ · with tokens := c.tokens + 1 })
  | .RepositoryOperationFinished operation outcome =>
    c.record ext (.finishRepository operation outcome now written)
      ({ · with active_repository_operation := none, doing := .evaluating })
  | .UpdateInstallRequested _ =>
    if c.conflict then c.record ext (.finishUpdate (.Failed "update_operation_conflict") now) id
    else if spawns then some { c with update_worker := true }
    else c.record ext (.finishUpdate (.Failed "update_worker_start_failed") now) id
  | .UpdateInstallFinished outcome => c.record ext (.finishUpdate outcome now) ({ · with doing := .evaluating })
  | .Resume => c.record ext (.resume now) ({ · with doing := .evaluating })

/-- `evaluate_and_maybe_start`. -/
def evaluate_and_maybe_start (ext : External) (c : EventLoop) (now : DateTime) (conditions : SystemConditions)
    (spawns : Bool) : Option EventLoop :=
  if c.active_backup.isSome then some { c with doing := .nothing }
  else do
    let evaluated ← c.system.runtime.evaluate_schedule now conditions
    let system ← c.system.step ext (.evaluate now conditions)
    match evaluated.2 with
    | .None => return { c with system, doing := .nothing }
    | .Start _ =>
      let c := { c with active_backup := some c.tokens, tokens := c.tokens + 1 }
      if spawns then return { c with system, doing := .nothing }
      else
        let system ← system.step ext .spawnFailed
        return { c with system, doing := .givingUp }

def step (ext : External) (c : EventLoop) : LoopLabel → Option EventLoop
  | .thread l =>
    if l.on_event_loop then none
    else (c.system.step ext l).map (fun system => { c with system, queue := c.queue ++ l.sends ext c.system system })
  | .notify event => if event.isNotice then some { c with queue := c.queue ++ [event] } else none
  | .endRepository outcome => c.repository_worker.map fun operation => { c with
      repository_worker := none
      queue := c.queue ++ [.RepositoryOperationFinished operation outcome] }
  | .endUpdate outcome =>
    if c.update_worker then some { c with update_worker := false, queue := c.queue ++ [.UpdateInstallFinished outcome] }
    else none
  | .take now spawns written =>
    if c.doing = .nothing then
      match c.queue with
      | event :: queue => handle ext { c with queue } now spawns written event
      | [] => none
    else none
  | .timeout => if c.doing = .nothing ∧ c.queue.isEmpty then some { c with doing := .evaluating } else none
  | .evaluate now conditions spawns =>
    if c.doing = .evaluating then c.evaluate_and_maybe_start ext now conditions spawns else none
  | .giveUp now written =>
    if c.doing = .givingUp then
      c.record ext (.finishBackup now written) ({ · with active_backup := none, doing := .nothing })
    else none

/-! ## What a turn can do -/

/-- A step of the loop, with the step of the system that it makes. -/
inductive Turned (ext : External) (c : EventLoop) : LoopLabel → EventLoop → Prop
  | thread {l : Label} {system : System} (other : l.on_event_loop = false) (steps : c.system.step ext l = some system) :
      Turned ext c (.thread l) { c with system, queue := c.queue ++ l.sends ext c.system system }
  | notified {event : RuntimeEvent} (notice : event.isNotice = true) :
      Turned ext c (.notify event) { c with queue := c.queue ++ [event] }
  | endedRepository {outcome : RepositoryOutcomeKind} {operation : RepositoryOperationKind}
      (worker : c.repository_worker = some operation) :
      Turned ext c (.endRepository outcome) { c with
        repository_worker := none
        queue := c.queue ++ [.RepositoryOperationFinished operation outcome] }
  | endedUpdate {outcome : UpdateInstallOutcome} (worker : c.update_worker = true) :
      Turned ext c (.endUpdate outcome) { c with
        update_worker := false
        queue := c.queue ++ [.UpdateInstallFinished outcome] }
  | took {event : RuntimeEvent} {queue : List RuntimeEvent} {now : DateTime} {spawns written : Bool} {d : EventLoop}
      (idle : c.doing = .nothing) (head : c.queue = event :: queue)
      (handles : handle ext { c with queue } now spawns written event = some d) :
      Turned ext c (.take now spawns written) d
  | timedOut (idle : c.doing = .nothing) (empty : c.queue = []) : Turned ext c .timeout { c with doing := .evaluating }
  /-- The evaluation: not while a backup is active, without a start, and with one. -/
  | skipped {now : DateTime} {conditions : SystemConditions} {spawns : Bool}
      (evaluating : c.doing = .evaluating) (active : c.active_backup.isSome = true) :
      Turned ext c (.evaluate now conditions spawns) { c with doing := .nothing }
  | evaluated {now : DateTime} {conditions : SystemConditions} {spawns : Bool} {runtime : ServiceRuntime}
      {system : System} (evaluating : c.doing = .evaluating) (inactive : c.active_backup = none)
      (evaluates : c.system.runtime.evaluate_schedule now conditions = some (runtime, .None))
      (steps : c.system.step ext (.evaluate now conditions) = some system) :
      Turned ext c (.evaluate now conditions spawns) { c with system, doing := .nothing }
  | started {now : DateTime} {conditions : SystemConditions} {runtime : ServiceRuntime} {trigger : BackupTrigger}
      {system : System} (evaluating : c.doing = .evaluating) (inactive : c.active_backup = none)
      (evaluates : c.system.runtime.evaluate_schedule now conditions = some (runtime, .Start trigger))
      (steps : c.system.step ext (.evaluate now conditions) = some system) :
      Turned ext c (.evaluate now conditions true) { c with
        system, active_backup := some c.tokens, tokens := c.tokens + 1, doing := .nothing }
  | failedToStart {now : DateTime} {conditions : SystemConditions} {runtime : ServiceRuntime} {trigger : BackupTrigger}
      {system failed : System} (evaluating : c.doing = .evaluating) (inactive : c.active_backup = none)
      (evaluates : c.system.runtime.evaluate_schedule now conditions = some (runtime, .Start trigger))
      (steps : c.system.step ext (.evaluate now conditions) = some system)
      (fails : system.step ext .spawnFailed = some failed) :
      Turned ext c (.evaluate now conditions false) { c with
        system := failed, active_backup := some c.tokens, tokens := c.tokens + 1, doing := .givingUp }
  | gaveUp {now : DateTime} {written : Bool} {system : System} (failing : c.doing = .givingUp)
      (steps : c.system.step ext (.finishBackup now written) = some system) :
      Turned ext c (.giveUp now written) { c with system, active_backup := none, doing := .nothing }

variable {ext : External} {c d : EventLoop} {l : LoopLabel}

theorem record_eq_some {label : Label} {f : EventLoop → EventLoop} (h : c.record ext label f = some d) :
    ∃ system, c.system.step ext label = some system ∧ d = f { c with system } := by
  obtain ⟨system, hs, rfl⟩ := Option.map_eq_some_iff.1 h
  exact ⟨system, hs, rfl⟩

theorem step_turned (h : step ext c l = some d) : Turned ext c l d := by
  cases l with
  | thread label =>
    simp only [step] at h
    split at h
    · cases h
    · rename_i hl
      obtain ⟨system, hs, rfl⟩ := Option.map_eq_some_iff.1 h
      exact .thread (by simpa using hl) hs
  | notify event =>
    simp only [step] at h
    split at h
    · rename_i hnotice
      obtain rfl := Option.some.inj h
      exact .notified hnotice
    · cases h
  | endRepository outcome =>
    obtain ⟨operation, hw, rfl⟩ := Option.map_eq_some_iff.1 h
    exact .endedRepository hw
  | endUpdate outcome =>
    simp only [step] at h
    split at h
    · rename_i hw
      obtain rfl := Option.some.inj h
      exact .endedUpdate hw
    · cases h
  | take now spawns written =>
    simp only [step] at h
    split at h
    · rename_i hidle
      split at h
      · rename_i event queue hqueue
        exact .took hidle hqueue h
      · cases h
    · cases h
  | timeout =>
    simp only [step] at h
    split at h
    · rename_i hempty
      obtain rfl := Option.some.inj h
      exact .timedOut hempty.1 (by simpa using hempty.2)
    · cases h
  | evaluate now conditions spawns =>
    simp only [step] at h
    split at h
    · rename_i hdoing
      unfold evaluate_and_maybe_start at h
      split at h
      · rename_i hactive
        obtain rfl := Option.some.inj h
        exact .skipped hdoing hactive
      · rename_i hactive
        have hinactive : c.active_backup = none := by simpa using hactive
        obtain ⟨⟨runtime, action⟩, hevaluates, h⟩ := Option.bind_eq_some_iff.1 h
        obtain ⟨system, hsteps, h⟩ := Option.bind_eq_some_iff.1 h
        cases action with
        | None =>
          obtain rfl := Option.some.inj h
          exact .evaluated hdoing hinactive hevaluates hsteps
        | Start trigger =>
          cases spawns with
          | true =>
            obtain rfl := Option.some.inj h
            exact .started hdoing hinactive hevaluates hsteps
          | false =>
            obtain ⟨failed, hfails, h⟩ := Option.bind_eq_some_iff.1 h
            obtain rfl := Option.some.inj h
            exact .failedToStart hdoing hinactive hevaluates hsteps hfails
    · cases h
  | giveUp now written =>
    simp only [step] at h
    split at h
    · rename_i hfailing
      obtain ⟨system, hs, rfl⟩ := record_eq_some h
      exact .gaveUp hfailing hs
    · cases h

end EventLoop

/-! ## What the runtime does -/

/-- The repository operation under way. -/
def RepositoryOperationStatus.running : RepositoryOperationStatus → Option RepositoryOperationKind
  | .Running operation => some operation
  | _ => none

theorem RepositoryOperationStatus.running_eq_none {status : RepositoryOperationStatus} :
    status.running = none ↔ status.isRunning = false := by
  cases status <;> simp [running, isRunning]

/-- A repository operation that is refused is not under way. -/
theorem begin_repository_refused {runtime : ServiceRuntime} {operation : RepositoryOperationKind} {elevated : Bool}
    {io : RequestIo} (h : (runtime.begin_repository_operation operation elevated io).2.isAccepted = false)
    (ho : runtime.state.repository_operation.isRunning = false) :
    (runtime.begin_repository_operation operation elevated io).1.state.repository_operation.isRunning = false := by
  revert h
  unfold ServiceRuntime.begin_repository_operation
  split
  · exact fun _ => ho
  · split
    · exact fun _ => ho
    · unfold begin_repository_section
      simp only
      split
      · exact fun _ => ho
      · split
        · exact fun _ => ho
        · split
          · exact fun _ => ho
          · split
            · exact fun _ => rfl
            · split
              · exact fun _ => rfl
              · intro h
                cases h

namespace System

variable {ext : External} {s u : System} {l : Label}

/-- A step begins an operation when its request is accepted, and ends none but by its end. -/
theorem step_operation (hsound : Sound s) (hs : step ext s l = some u) (hl : l.isFinishRepository = false) :
    u.runtime.state.repository_operation.running.toList =
      s.runtime.state.repository_operation.running.toList ++ l.requests ext s.runtime := by
  rcases requests_cases ext s.runtime l with hnone | ⟨command, elevated, io, operation, rfl, hone, ho, hbegun⟩
  · rw [hnone, List.append_nil]
    cases ho : s.runtime.state.repository_operation.isRunning with
    | true => rw [(step_running_operation hsound hs hl ho).1]
    | false =>
      have hended : u.runtime.state.repository_operation.isRunning = false := by
        by_cases hb : l.begins = true
        · cases l with
          | request command elevated io =>
            cases step_ran hs with
            | request _ =>
              have hrefused : (s.runtime.handle_request ext command elevated io).2.isAccepted = true →
                  command.operation.toList = [] := by
                intro haccepted
                simpa [Label.requests, haccepted] using hnone
              cases command with
              | ValidateRepository =>
                exact begin_repository_refused (Bool.eq_false_iff.2 fun ha => by cases hrefused ha) ho
              | InitializeRepository =>
                exact begin_repository_refused (Bool.eq_false_iff.2 fun ha => by cases hrefused ha) ho
              | _ => cases hb
          | _ => cases hb
        · have hretimed := step_retimed hsound hs
          suffices u.runtime.state.timing.repository_operation.isRunning = false from this
          generalize u.runtime.config = config, u.runtime.state.timing = timing at hretimed ⊢
          have kept {operation : RepositoryOperationStatus} (h : Unbegun s l operation) : operation.isRunning = false := by
            rcases h with rfl | hended | hbegins
            · exact ho
            · exact hended
            · exact absurd hbegins hb
          cases hretimed with
          | unconfigured _ begun | unready _ begun | rescheduled _ begun | occupied _ begun => exact kept begun
          | evaluated evaluation => cases evaluation <;> exact ho
          | _ => exact ho
      rw [RepositoryOperationStatus.running_eq_none.2 hended, RepositoryOperationStatus.running_eq_none.2 ho]
  · rw [hone, RepositoryOperationStatus.running_eq_none.2 ho]
    cases step_ran hs with
    | request _ =>
      rw [hbegun]
      rfl

/-- The end of an operation that was under way. -/
theorem step_finish_repository {operation : RepositoryOperationKind} {outcome : RepositoryOutcomeKind} {now : DateTime}
    {written : Bool} (hsound : Sound s) (hs : step ext s (.finishRepository operation outcome now written) = some u)
    (ho : s.runtime.state.repository_operation.running = some operation) :
    u.runtime.state.repository_operation.running = none ∧ u.backup = s.backup ∧ u.update = s.update := by
  have hop : s.runtime.state.repository_operation = .Running operation := by
    cases hstatus : s.runtime.state.repository_operation with
    | Running running =>
      rw [hstatus] at ho
      rw [Option.some.inj ho]
    | _ =>
      rw [hstatus] at ho
      cases ho
  cases step_ran hs with
  | finishedRepository =>
    refine ⟨?_, rfl, rfl⟩
    rw [RepositoryOperationStatus.running_eq_none]
    have hr := hsound.exclusive.not_running_of_operation (congrArg RepositoryOperationStatus.isRunning hop)
    dsimp only [ServiceRuntime.finish_repository_operation]
    unfold finish_repository_section
    rw [if_neg (by simpa using hop)]
    obtain ⟨-, ⟨status, hended, ha⟩, -⟩ :=
      record_repository_outcome_ended s.runtime s.runtime.config operation now written outcome
    have hr' := (congrArg Activity.running ha).trans hr
    have happlied := apply_configuration_status_activity s.runtime.config now hr'
    have hstatus := congrArg Activity.repository_operation (happlied.trans ha)
    exact (congrArg RepositoryOperationStatus.isRunning hstatus).trans hended

/-- The update worker that a step asks for. -/
def starts_update (ext : External) (s : System) : Label → Bool
  | .request command elevated io => command.starts_update (s.runtime.handle_request ext command elevated io).2
  | _ => false

/-- What an accepted request sends. -/
theorem event_inventory (runtime : ServiceRuntime) (command : RequestCommand) :
    (command.event runtime).toList.filterMap RuntimeEvent.requested = command.operation.toList ∧
    (command.event runtime).toList.filterMap RuntimeEvent.finished = [] ∧
    (command.event runtime).toList.filterMap RuntimeEvent.outcome = [] ∧
    ((command.event runtime).toList.filter RuntimeEvent.isUpdate).length = (command.starts_update (.Accepted "")).toNat := by
  cases command with
  | Unenroll =>
    unfold RequestCommand.event
    dsimp only
    split
    · exact ⟨rfl, rfl, rfl, rfl⟩
    · exact ⟨rfl, rfl, rfl, rfl⟩
  | _ => exact ⟨rfl, rfl, rfl, rfl⟩

theorem starts_update_eq (command : RequestCommand) (response : ResponsePayload) :
    command.starts_update response = (response.isAccepted && command.starts_update (.Accepted "")) := by
  cases command with
  | InstallUpdate package => exact (Bool.and_true _).symm
  | _ => exact (Bool.and_false _).symm

/-- What another thread sends, apart from the outcome of a backup. -/
theorem sends_inventory (ext : External) (s u : System) (l : Label) :
    (l.sends ext s u).filterMap RuntimeEvent.requested = l.requests ext s.runtime ∧
    (l.sends ext s u).filterMap RuntimeEvent.finished = [] ∧
    ((l.sends ext s u).filter RuntimeEvent.isUpdate).length = (s.starts_update ext l).toNat := by
  have outcomes : ∀ sent : Option BackupOutcome,
      (sent.toList.map RuntimeEvent.BackupFinished).filterMap RuntimeEvent.requested = [] ∧
      (sent.toList.map RuntimeEvent.BackupFinished).filterMap RuntimeEvent.finished = [] ∧
      ((sent.toList.map RuntimeEvent.BackupFinished).filter RuntimeEvent.isUpdate).length = 0 := by
    intro sent
    cases sent with
    | none => exact ⟨rfl, rfl, rfl⟩
    | some outcome => exact ⟨rfl, rfl, rfl⟩
  cases l with
  | request command elevated io =>
    obtain ⟨hrequested, hfinished, -, hupdate⟩ := event_inventory s.runtime command
    simp only [Label.sends, Label.requests, starts_update]
    rw [starts_update_eq]
    split
    · rename_i haccepted
      rw [haccepted]
      exact ⟨hrequested, hfinished, hupdate⟩
    · rename_i haccepted
      rw [Bool.eq_false_iff.2 haccepted]
      exact ⟨rfl, rfl, rfl⟩
  | finishEnroll io =>
    simp only [Label.sends]
    split <;> exact ⟨rfl, rfl, rfl⟩
  | applyPolicy policy expected now written =>
    simp only [Label.sends]
    split <;> exact ⟨rfl, rfl, rfl⟩
  | endBackup outcome now => exact outcomes u.outcome
  | retain executable io now written => exact outcomes u.outcome
  | _ => exact ⟨rfl, rfl, rfl⟩

/-- What the steps of other threads do to the workers, and report. -/
theorem step_thread (hl : l.on_event_loop = false) (hs : step ext s l = some u) :
    u.backup.isSome = s.backup.isSome ∧ u.update = (s.update || s.starts_update ext l) ∧
      u.outcome.toList = s.outcome.toList ++ (l.sends ext s u).filterMap RuntimeEvent.outcome := by
  have reported {before after : Option BackupOutcome} (hb : before = none) : after.toList =
      before.toList ++ (after.toList.map RuntimeEvent.BackupFinished).filterMap RuntimeEvent.outcome := by
    subst hb
    cases after <;> rfl
  cases step_ran hs with
  | @request command elevated io _ =>
    refine ⟨rfl, rfl, ?_⟩
    simp only [Label.sends]
    split
    · rw [(event_inventory s.runtime command).2.2.1, List.append_nil]
      rfl
    · exact (List.append_nil _).symm
  | beganEnroll => exact ⟨rfl, (Bool.or_false _).symm, (List.append_nil _).symm⟩
  | @finishedEnroll io _ =>
    refine ⟨rfl, (Bool.or_false _).symm, ?_⟩
    simp only [Label.sends]
    split <;> exact (List.append_nil _).symm
  | appliedPolicy =>
    refine ⟨rfl, (Bool.or_false _).symm, ?_⟩
    simp only [Label.sends]
    split <;> exact (List.append_nil _).symm
  | copiedConfig worker =>
    refine ⟨(congrArg Option.isSome worker).symm, (Bool.or_false _).symm, ?_⟩
    rw [show s.outcome = none by rw [outcome, worker]]
    rfl
  | progressed => exact ⟨rfl, (Bool.or_false _).symm, (List.append_nil _).symm⟩
  | endedBackup worker =>
    exact ⟨(congrArg Option.isSome worker).symm, (Bool.or_false _).symm, reported (by rw [outcome, worker])⟩
  | beganRetention worker =>
    exact ⟨(congrArg Option.isSome worker).symm, (Bool.or_false _).symm, reported (by rw [outcome, worker])⟩
  | retained worker =>
    exact ⟨(congrArg Option.isSome worker).symm, (Bool.or_false _).symm, reported (by rw [outcome, worker])⟩
  | _ => cases hl

theorem outcome_congr (h : u.backup = s.backup) : u.outcome = s.outcome := by
  unfold outcome
  rw [h]

/-- An evaluation starts the worker that it decides on. -/
theorem step_evaluate {now : DateTime} {conditions : SystemConditions} {runtime : ServiceRuntime} {action : ScheduleAction}
    (he : s.runtime.evaluate_schedule now conditions = some (runtime, action))
    (hs : step ext s (.evaluate now conditions) = some u) : u.backup = s.worker_after action ∧ u.update = s.update := by
  obtain ⟨⟨state, action'⟩, hsec, heq⟩ := Option.map_eq_some_iff.1 he
  obtain ⟨-, rfl⟩ := Prod.mk.inj heq
  cases step_ran hs with
  | evaluated evaluates =>
    obtain ⟨-, rfl⟩ := Prod.mk.inj (Option.some.inj (hsec.symm.trans evaluates))
    exact ⟨rfl, rfl⟩

end System

/-! ## Who answers for an operation -/

namespace EventLoop

variable {ext : External} {c d : EventLoop} {l : LoopLabel}

/-- The operations that a queued event or the worker answers for. -/
def claims (c : EventLoop) : List RepositoryOperationKind :=
  c.queue.filterMap RuntimeEvent.requested ++ c.repository_worker.toList ++ c.queue.filterMap RuntimeEvent.finished

/-- The updates that a queued event or the worker answers for. -/
def updates (c : EventLoop) : Nat := (c.queue.filter RuntimeEvent.isUpdate).length + c.update_worker.toNat

structure Protocol (c : EventLoop) : Prop where
  sound : c.system.Sound
  operations : c.claims = c.system.runtime.state.repository_operation.running.toList
  updates : c.updates = c.system.update.toNat
  backup : c.active_backup.isSome = c.system.backup.isSome
  /-- The loop counts an operation as active from the start of the worker until it has taken the outcome. -/
  repository : c.active_repository_operation.isSome =
    !(c.repository_worker.toList ++ c.queue.filterMap RuntimeEvent.finished).isEmpty
  outcomes : c.queue.filterMap RuntimeEvent.outcome = if c.doing = .givingUp then [] else c.system.outcome.toList
  failing : c.doing = .givingUp → c.system.outcome.isSome = true

namespace Protocol

/-- There is at most one claim: a request, the worker or an outcome. -/
theorem claims_cases (h : Protocol c) :
    (c.system.runtime.state.repository_operation.running = none ∧ c.queue.filterMap RuntimeEvent.requested = [] ∧
      c.repository_worker = none ∧ c.queue.filterMap RuntimeEvent.finished = []) ∨
    ∃ operation, c.system.runtime.state.repository_operation.running = some operation ∧
      ((c.queue.filterMap RuntimeEvent.requested = [operation] ∧ c.repository_worker = none ∧
        c.queue.filterMap RuntimeEvent.finished = []) ∨
      (c.queue.filterMap RuntimeEvent.requested = [] ∧ c.repository_worker = some operation ∧
        c.queue.filterMap RuntimeEvent.finished = []) ∨
      (c.queue.filterMap RuntimeEvent.requested = [] ∧ c.repository_worker = none ∧
        c.queue.filterMap RuntimeEvent.finished = [operation])) := by
  have hclaims := h.operations
  unfold claims at hclaims
  cases hr : c.system.runtime.state.repository_operation.running with
  | none =>
    rw [hr] at hclaims
    obtain ⟨hrest, hfinished⟩ := List.append_eq_nil_iff.1 hclaims
    obtain ⟨hrequested, hworker⟩ := List.append_eq_nil_iff.1 hrest
    exact .inl ⟨rfl, hrequested, Option.toList_eq_nil_iff.1 hworker, hfinished⟩
  | some operation =>
    rw [hr] at hclaims
    refine .inr ⟨operation, rfl, ?_⟩
    rcases List.append_eq_singleton_iff.1 hclaims with ⟨hrest, hfinished⟩ | ⟨hrest, hfinished⟩
    · obtain ⟨hrequested, hworker⟩ := List.append_eq_nil_iff.1 hrest
      exact .inr (.inr ⟨hrequested, Option.toList_eq_nil_iff.1 hworker, hfinished⟩)
    · rcases List.append_eq_singleton_iff.1 hrest with ⟨hrequested, hworker⟩ | ⟨hrequested, hworker⟩
      · exact .inr (.inl ⟨hrequested, Option.toList_eq_singleton_iff.1 hworker, hfinished⟩)
      · exact .inl ⟨hrequested, Option.toList_eq_nil_iff.1 hworker, hfinished⟩

/-- The claim that the next event is. -/
theorem claim_first {event : RuntimeEvent} {queue : List RuntimeEvent} {operation : RepositoryOperationKind}
    (h : Protocol c) (hq : c.queue = event :: queue)
    (he : event.requested = some operation ∨ event.finished = some operation) :
    c.system.runtime.state.repository_operation.running = some operation ∧
      queue.filterMap RuntimeEvent.requested = [] ∧ c.repository_worker = none ∧
      queue.filterMap RuntimeEvent.finished = [] := by
  have hcases := h.claims_cases
  rw [hq] at hcases
  rcases he with he | he
  · have hother : event.finished = none := by
      cases event with
      | RepositoryOperationRequested _ => rfl
      | _ => cases he
    rw [List.filterMap_cons_some he, List.filterMap_cons_none hother] at hcases
    rcases hcases with ⟨-, hnot, -⟩ | ⟨running, hr, ⟨hone, hworker, hfinished⟩ | ⟨hnot, -⟩ | ⟨hnot, -⟩⟩
    · cases hnot
    · obtain ⟨rfl, hrest⟩ := List.cons.inj hone
      exact ⟨hr, hrest, hworker, hfinished⟩
    · cases hnot
    · cases hnot
  · have hother : event.requested = none := by
      cases event with
      | RepositoryOperationFinished _ _ => rfl
      | _ => cases he
    rw [List.filterMap_cons_some he, List.filterMap_cons_none hother] at hcases
    rcases hcases with ⟨-, -, -, hnot⟩ | ⟨running, hr, ⟨-, -, hnot⟩ | ⟨-, -, hnot⟩ | ⟨hrequested, hworker, hone⟩⟩
    · cases hnot
    · cases hnot
    · cases hnot
    · obtain ⟨rfl, hrest⟩ := List.cons.inj hone
      exact ⟨hr, hrequested, hworker, hrest⟩

/-- An operation that is active is under way. -/
theorem running_of_active (h : Protocol c) (ha : c.active_repository_operation.isSome = true) :
    c.system.runtime.state.repository_operation.isRunning = true := by
  by_contra hnot
  have hnone := RepositoryOperationStatus.running_eq_none.2 (Bool.eq_false_iff.2 hnot)
  have hclaims := h.operations
  rw [hnone, claims, List.append_assoc] at hclaims
  have hrest := (List.append_eq_nil_iff.1 hclaims).2
  rw [h.repository, hrest] at ha
  cases ha

theorem not_both (h : Protocol c) : ¬(c.active_backup.isSome = true ∧ c.active_repository_operation.isSome = true) := by
  rintro ⟨hb, ha⟩
  have hr : c.system.runtime.state.running = true := h.sound.backup.trans (h.backup.symm.trans hb)
  have hidle := h.sound.exclusive.not_running_of_operation (h.running_of_active ha)
  have hidle : c.system.runtime.state.running = false := hidle
  rw [hr] at hidle
  cases hidle

/-- Nothing is active while an operation is under way that is not. -/
theorem no_conflict (h : Protocol c) (hr : c.system.runtime.state.running = false)
    (ha : c.active_repository_operation.isSome = false) : c.conflict = false := by
  have hb : c.active_backup.isSome = false := h.backup.trans (h.sound.backup.symm.trans hr)
  rw [conflict, hb, ha]
  rfl

/-- A queued request for an operation finds nothing active. -/
theorem no_conflict_of_request (h : Protocol c) {operation : RepositoryOperationKind}
    (hq : .RepositoryOperationRequested operation ∈ c.queue) : c.conflict = false := by
  have hmem : operation ∈ c.queue.filterMap RuntimeEvent.requested := List.mem_filterMap.2 ⟨_, hq, rfl⟩
  rcases h.claims_cases with ⟨-, hnone, -⟩ | ⟨running, hr, ⟨-, hworker, hfinished⟩ | ⟨hnone, -⟩ | ⟨hnone, -⟩⟩
  · rw [hnone] at hmem
    cases hmem
  · have ho : c.system.runtime.state.repository_operation.isRunning = true := by
      by_contra hnot
      rw [RepositoryOperationStatus.running_eq_none.2 (Bool.eq_false_iff.2 hnot)] at hr
      cases hr
    refine h.no_conflict (h.sound.exclusive.not_running_of_operation ho) ?_
    rw [h.repository, hworker, hfinished]
    rfl
  · rw [hnone] at hmem
    cases hmem
  · rw [hnone] at hmem
    cases hmem

theorem no_conflict_of_update (h : Protocol c) {package : UpdatePackage}
    (hq : .UpdateInstallRequested package ∈ c.queue) : c.conflict = false := by
  have hpos := List.length_pos_of_mem (List.mem_filter.2 ⟨hq, (rfl : RuntimeEvent.isUpdate _ = true)⟩)
  have hupdate : c.system.update = true := by
    by_contra hnot
    have hcount := h.updates
    rw [EventLoop.updates, Bool.eq_false_iff.2 hnot] at hcount
    have hcount : (c.queue.filter RuntimeEvent.isUpdate).length + c.update_worker.toNat = 0 := hcount
    omega
  obtain ⟨hr, ho, -⟩ := h.sound.exclusive.alone_of_install (h.sound.update hupdate)
  refine h.no_conflict hr ?_
  cases ha : c.active_repository_operation.isSome with
  | false => rfl
  | true =>
    have ho : c.system.runtime.state.repository_operation.isRunning = false := ho
    rw [h.running_of_active ha] at ho
    cases ho

/-! ### Other threads -/

/-- An update is only accepted while none is pending. -/
theorem update_idle (h : Protocol c) {label : Label} (hu : c.system.starts_update ext label = true) :
    c.system.update = false := by
  by_contra hnot
  have hactive : c.system.runtime.state.update_install_active = true := h.sound.update (by simpa using hnot)
  cases label with
  | request command elevated io =>
    have heffect := @handle_request_effect ext c.system.runtime command elevated io h.sound.exclusive.restores
    have hu : command.starts_update (c.system.runtime.handle_request ext command elevated io).2 = true := hu
    cases heffect with
    | held _ inactive =>
      rw [hactive] at inactive
      cases inactive
    | kept _ _ _ update | began _ _ _ _ _ update | edited _ _ _ _ _ _ _ _ _ update | enrolled _ _ _ update
    | unenrolled _ _ _ _ _ _ _ _ _ _ _ update =>
      rw [hu] at update
      cases update
  | _ => cases hu

theorem thread {label : Label} {system : System} (h : Protocol c) (hl : label.on_event_loop = false)
    (hs : c.system.step ext label = some system) :
    Protocol { c with system, queue := c.queue ++ label.sends ext c.system system } := by
  obtain ⟨hrequested, hfinished, hcount⟩ := System.sends_inventory ext c.system system label
  obtain ⟨hbackup, hupdate, houtcome⟩ := System.step_thread hl hs
  have hoperation := System.step_operation h.sound hs (by cases label <;> first | rfl | cases hl)
  constructor
  · exact h.sound.step hs
  · have hclaims := h.operations
    unfold claims at hclaims ⊢
    rw [List.filterMap_append, List.filterMap_append, hrequested, hfinished, List.append_nil, hoperation, ← hclaims]
    rcases requests_cases ext c.system.runtime label with hnone | ⟨_, _, _, operation, _, hone, ho, _⟩
    · rw [hnone, List.append_nil, List.append_nil]
    · rw [RepositoryOperationStatus.running_eq_none.2 ho] at hclaims
      obtain ⟨hrest, hended⟩ := List.append_eq_nil_iff.1 hclaims
      obtain ⟨hqueue, hworker⟩ := List.append_eq_nil_iff.1 hrest
      rw [hqueue, hworker, hended, hone]
      rfl
  · have hupdates := h.updates
    unfold EventLoop.updates at hupdates ⊢
    rw [List.filter_append, List.length_append, hcount, hupdate]
    cases hstarts : c.system.starts_update ext label with
    | false => simpa [hstarts] using hupdates
    | true =>
      have hidle := h.update_idle hstarts
      rw [hidle] at hupdates ⊢
      simp only [Bool.toNat_false, Bool.false_or, Bool.toNat_true] at hupdates ⊢
      omega
  · exact h.backup.trans hbackup.symm
  · have hrepository := h.repository
    rw [List.filterMap_append, hfinished, List.append_nil]
    exact hrepository
  · rw [List.filterMap_append, h.outcomes]
    dsimp only
    split
    · rename_i hfailing
      obtain ⟨outcome, ho⟩ := Option.isSome_iff_exists.1 (h.failing hfailing)
      rw [ho] at houtcome
      cases hu : system.outcome with
      | none =>
        rw [hu] at houtcome
        cases houtcome
      | some outcome =>
        rw [hu] at houtcome
        exact (List.cons.inj houtcome).2.symm
    · exact houtcome.symm
  · intro hfailing
    obtain ⟨outcome, ho⟩ := Option.isSome_iff_exists.1 (h.failing hfailing)
    rw [ho] at houtcome
    cases hu : system.outcome with
    | none =>
      rw [hu] at houtcome
      cases houtcome
    | some outcome => rfl

/-- An event that nobody answers with comes to the queue, or leaves it. -/
theorem of_queue {queue : List RuntimeEvent} (h : Protocol c)
    (hr : queue.filterMap RuntimeEvent.requested = c.queue.filterMap RuntimeEvent.requested)
    (hf : queue.filterMap RuntimeEvent.finished = c.queue.filterMap RuntimeEvent.finished)
    (hu : queue.filter RuntimeEvent.isUpdate = c.queue.filter RuntimeEvent.isUpdate)
    (ho : queue.filterMap RuntimeEvent.outcome = c.queue.filterMap RuntimeEvent.outcome) :
    Protocol { c with queue } := by
  constructor
  · exact h.sound
  · unfold claims
    rw [hr, hf]
    exact h.operations
  · unfold EventLoop.updates
    rw [hu]
    exact h.updates
  · exact h.backup
  · rw [hf]
    exact h.repository
  · rw [ho]
    exact h.outcomes
  · exact h.failing

theorem ended_repository {operation : RepositoryOperationKind} (h : Protocol c)
    (hw : c.repository_worker = some operation) (outcome : RepositoryOutcomeKind) : Protocol { c with
      repository_worker := none
      queue := c.queue ++ [.RepositoryOperationFinished operation outcome] } := by
  rcases h.claims_cases with ⟨-, -, hnone, -⟩ | ⟨running, hr, hcases⟩
  · rw [hw] at hnone
    cases hnone
  · rcases hcases with ⟨-, hnone, -⟩ | ⟨hrequested, hsome, hfinished⟩ | ⟨-, hnone, -⟩
    · rw [hw] at hnone
      cases hnone
    · obtain rfl := Option.some.inj (hw.symm.trans hsome)
      constructor
      · exact h.sound
      · unfold claims
        dsimp only
        rw [List.filterMap_append, List.filterMap_append, hrequested, hfinished, hr]
        rfl
      · have hupdates := h.updates
        unfold EventLoop.updates at hupdates ⊢
        rw [List.filter_append, List.length_append]
        exact hupdates
      · exact h.backup
      · have hrepository := h.repository
        rw [hw, hfinished] at hrepository
        rw [List.filterMap_append, hfinished]
        exact hrepository
      · rw [List.filterMap_append, h.outcomes]
        exact List.append_nil _
      · exact h.failing
    · rw [hw] at hnone
      cases hnone

theorem ended_update (h : Protocol c) (hw : c.update_worker = true) (outcome : UpdateInstallOutcome) :
    Protocol { c with update_worker := false, queue := c.queue ++ [.UpdateInstallFinished outcome] } := by
  constructor
  · exact h.sound
  · have hclaims := h.operations
    unfold claims at hclaims ⊢
    rw [List.filterMap_append, List.filterMap_append,
      show [RuntimeEvent.UpdateInstallFinished outcome].filterMap RuntimeEvent.requested = [] from rfl,
      show [RuntimeEvent.UpdateInstallFinished outcome].filterMap RuntimeEvent.finished = [] from rfl,
      List.append_nil, List.append_nil]
    exact hclaims
  · have hupdates := h.updates
    unfold EventLoop.updates at hupdates ⊢
    rw [hw] at hupdates
    rw [List.filter_append, List.length_append]
    exact hupdates
  · exact h.backup
  · have hrepository := h.repository
    rw [List.filterMap_append, show [RuntimeEvent.UpdateInstallFinished outcome].filterMap RuntimeEvent.finished = [] from rfl,
      List.append_nil]
    exact hrepository
  · rw [List.filterMap_append, h.outcomes]
    exact List.append_nil _
  · exact h.failing

/-! ### The loop -/

/-- The system makes a step that no claim is about. -/
theorem of_system {label : Label} {system : System} (h : Protocol c) (hs : c.system.step ext label = some system)
    (hl : label.isFinishRepository = false) (hr : label.requests ext c.system.runtime = [])
    (hb : system.backup = c.system.backup) (hu : system.update = c.system.update) : Protocol { c with system } := by
  have hoperation := System.step_operation h.sound hs hl
  have ho := System.outcome_congr hb
  rw [hr, List.append_nil] at hoperation
  constructor
  · exact h.sound.step hs
  · exact h.operations.trans hoperation.symm
  · rw [hu]
    exact h.updates
  · rw [hb]
    exact h.backup
  · exact h.repository
  · rw [ho]
    exact h.outcomes
  · rw [ho]
    exact h.failing

theorem of_doing (h : Protocol c) (hd : c.doing ≠ .givingUp) {doing : Doing} (hd' : doing ≠ .givingUp) :
    Protocol { c with doing } := by
  have houtcomes := h.outcomes
  rw [if_neg hd] at houtcomes
  exact ⟨h.sound, h.operations, h.updates, h.backup, h.repository, houtcomes.trans (if_neg hd').symm,
    fun hnot => absurd hnot hd'⟩

/-- A backup is over, and its outcome is no longer in the queue. -/
theorem finished_backup {queue : List RuntimeEvent} {now : DateTime} {written : Bool} {system : System} {doing : Doing}
    (h : Protocol c) (hs : c.system.step ext (.finishBackup now written) = some system)
    (hr : queue.filterMap RuntimeEvent.requested = c.queue.filterMap RuntimeEvent.requested)
    (hf : queue.filterMap RuntimeEvent.finished = c.queue.filterMap RuntimeEvent.finished)
    (hu : queue.filter RuntimeEvent.isUpdate = c.queue.filter RuntimeEvent.isUpdate)
    (ho : queue.filterMap RuntimeEvent.outcome = []) (hd : doing ≠ .givingUp) :
    Protocol { c with system, queue, active_backup := none, doing } := by
  have hoperation := System.step_operation h.sound hs rfl
  have hworkers : system.backup = none ∧ system.update = c.system.update := by
    cases System.step_ran hs with
    | finishedBackup => exact ⟨rfl, rfl⟩
  have houtcome : system.outcome = none := by
    unfold System.outcome
    rw [hworkers.1]
  constructor
  · exact h.sound.step hs
  · unfold claims
    rw [hr, hf]
    exact h.operations.trans (hoperation.trans (List.append_nil _)).symm
  · unfold EventLoop.updates
    dsimp only
    rw [hu, hworkers.2]
    exact h.updates
  · rw [hworkers.1]
    rfl
  · rw [hf]
    exact h.repository
  · dsimp only
    rw [if_neg hd, ho, houtcome]
    rfl
  · exact fun hnot => absurd hnot hd

/-- The queue holds one outcome of the backup. -/
theorem outcome_first {outcome : BackupOutcome} {queue : List RuntimeEvent} (h : Protocol c)
    (hq : c.queue = .BackupFinished outcome :: queue) (hd : c.doing = .nothing) :
    queue.filterMap RuntimeEvent.outcome = [] := by
  have houtcomes := h.outcomes
  rw [hd, if_neg (by decide), hq] at houtcomes
  cases ho : c.system.outcome with
  | none =>
    rw [ho] at houtcomes
    cases houtcomes
  | some finished =>
    rw [ho] at houtcomes
    exact (List.cons.inj houtcomes).2

/-- A backup begins. -/
theorem started_backup {now : DateTime} {conditions : SystemConditions} {runtime : ServiceRuntime}
    {trigger : BackupTrigger} {system : System} {token tokens : Nat} (h : Protocol c) (hd : c.doing = .evaluating)
    (ha : c.active_backup = none) (he : c.system.runtime.evaluate_schedule now conditions = some (runtime, .Start trigger))
    (hs : c.system.step ext (.evaluate now conditions) = some system) : Protocol { c with
      system, active_backup := some token, tokens, doing := .nothing } := by
  obtain ⟨hb, hu⟩ := System.step_evaluate he hs
  have hoperation := System.step_operation h.sound hs rfl
  have hnone : c.system.outcome = none := by
    have hbackup := h.backup
    rw [ha] at hbackup
    rw [System.outcome, Option.isNone_iff_eq_none.1 (Option.isSome_eq_false_iff.1 hbackup.symm)]
  have houtcomes := h.outcomes
  rw [hd, if_neg (by decide), hnone] at houtcomes
  constructor
  · exact h.sound.step hs
  · exact h.operations.trans (hoperation.trans (List.append_nil _)).symm
  · rw [hu]
    exact h.updates
  · rw [hb]
    rfl
  · exact h.repository
  · dsimp only
    rw [houtcomes, System.outcome, hb]
    rfl
  · intro hnot
    cases hnot

/-- The worker of the backup could not be started. -/
theorem spawn_failed {system : System} (h : Protocol c) (hd : c.doing = .nothing)
    (hs : c.system.step ext .spawnFailed = some system) : Protocol { c with system, doing := .givingUp } := by
  have hoperation := System.step_operation h.sound hs rfl
  have houtcomes := h.outcomes
  rw [hd, if_neg (by decide)] at houtcomes
  have hb : system.backup.isSome = c.system.backup.isSome ∧ system.update = c.system.update ∧
      c.system.outcome = none ∧ system.outcome.isSome = true := by
    cases System.step_ran hs with
    | spawnFailed worker =>
      refine ⟨?_, rfl, ?_, rfl⟩
      · rw [worker]
        rfl
      · rw [System.outcome, worker]
  rw [hb.2.2.1] at houtcomes
  constructor
  · exact h.sound.step hs
  · exact h.operations.trans (hoperation.trans (List.append_nil _)).symm
  · rw [hb.2.1]
    exact h.updates
  · exact h.backup.trans hb.1.symm
  · exact h.repository
  · exact houtcomes
  · exact fun _ => hb.2.2.2

theorem finished_update {outcome : UpdateInstallOutcome} {now : DateTime} {system : System} (h : Protocol c)
    (hs : c.system.step ext (.finishUpdate outcome now) = some system) {event : RuntimeEvent} {queue : List RuntimeEvent}
    (hq : c.queue = event :: queue) (he : event.isUpdate = true) : Protocol { c with system, queue } := by
  have hoperation := System.step_operation h.sound hs rfl
  have hb : system.backup = c.system.backup ∧ system.update = false ∧ c.system.update = true := by
    cases System.step_ran hs with
    | finishedUpdate pending => exact ⟨rfl, rfl, pending⟩
  have ho := System.outcome_congr hb.1
  have hother : event.requested = none ∧ event.finished = none ∧ event.outcome = none := by
    cases event with
    | UpdateInstallRequested _ | UpdateInstallFinished _ => exact ⟨rfl, rfl, rfl⟩
    | _ => cases he
  have hclaims := h.operations
  have hupdates := h.updates
  have hrepository := h.repository
  have houtcomes := h.outcomes
  unfold claims at hclaims
  unfold EventLoop.updates at hupdates
  simp only [hq, List.filterMap_cons, List.filter_cons, hother, he, if_true, List.length_cons, hb.2.2,
    Bool.toNat_true] at hclaims hupdates hrepository houtcomes
  constructor
  · exact h.sound.step hs
  · exact hclaims.trans (hoperation.trans (List.append_nil _)).symm
  · unfold EventLoop.updates
    dsimp only
    rw [hb.2.1]
    simp only [Bool.toNat_false]
    omega
  · rw [hb.1]
    exact h.backup
  · exact hrepository
  · rw [ho]
    exact houtcomes
  · rw [ho]
    exact h.failing

/-- The worker of an operation starts. -/
theorem started_repository {operation : RepositoryOperationKind} {queue : List RuntimeEvent} {tokens : Nat}
    (h : Protocol c) (hq : c.queue = .RepositoryOperationRequested operation :: queue) : Protocol { c with
      queue, active_repository_operation := some c.tokens, repository_worker := some operation, tokens } := by
  obtain ⟨hr, hrequested, -, hfinished⟩ := h.claim_first hq (.inl rfl)
  have hupdates := h.updates
  have houtcomes := h.outcomes
  unfold EventLoop.updates at hupdates
  rw [hq] at hupdates houtcomes
  constructor
  · exact h.sound
  · unfold claims
    rw [hrequested, hfinished, hr]
    rfl
  · exact hupdates
  · exact h.backup
  · rfl
  · exact houtcomes
  · exact h.failing

/-- An operation is over, by its outcome or because its worker did not start. -/
theorem finished_repository {operation : RepositoryOperationKind} {outcome : RepositoryOutcomeKind} {now : DateTime}
    {written : Bool} {system : System} {event : RuntimeEvent} {queue : List RuntimeEvent}
    (h : Protocol c) (hs : c.system.step ext (.finishRepository operation outcome now written) = some system)
    (hq : c.queue = event :: queue)
    (he : event.requested = some operation ∨ event.finished = some operation) (tokens : Nat) : Protocol { c with
      system, queue, active_repository_operation := none, tokens } := by
  obtain ⟨hr, hrequested, hworker, hfinished⟩ := h.claim_first hq he
  obtain ⟨hnone, hb, hu⟩ := System.step_finish_repository h.sound hs hr
  have ho := System.outcome_congr hb
  have hother : event.isUpdate = false ∧ event.outcome = none := by
    cases event with
    | RepositoryOperationRequested _ | RepositoryOperationFinished _ _ => exact ⟨rfl, rfl⟩
    | _ => rcases he with he | he <;> cases he
  have hupdates := h.updates
  have houtcomes := h.outcomes
  unfold EventLoop.updates at hupdates
  rw [hq, List.filter_cons_of_neg (by rw [hother.1]; exact Bool.false_ne_true)] at hupdates
  rw [hq, List.filterMap_cons_none hother.2] at houtcomes
  constructor
  · exact h.sound.step hs
  · unfold claims
    dsimp only
    rw [hrequested, hworker, hfinished, hnone]
    rfl
  · rw [hu]
    exact hupdates
  · rw [hb]
    exact h.backup
  · dsimp only
    rw [hworker, hfinished]
    rfl
  · rw [ho]
    exact houtcomes
  · rw [ho]
    exact h.failing

theorem started_update {package : UpdatePackage} {queue : List RuntimeEvent} (h : Protocol c)
    (hq : c.queue = .UpdateInstallRequested package :: queue) : Protocol { c with queue, update_worker := true } := by
  have hclaims := h.operations
  have hupdates := h.updates
  have hrepository := h.repository
  have houtcomes := h.outcomes
  unfold claims at hclaims
  unfold EventLoop.updates at hupdates
  rw [hq] at hclaims hupdates hrepository houtcomes
  rw [List.filter_cons_of_pos rfl, List.length_cons] at hupdates
  have hle := Bool.toNat_le c.system.update
  constructor
  · exact h.sound
  · exact hclaims
  · unfold EventLoop.updates
    simp only [Bool.toNat_true]
    omega
  · exact h.backup
  · exact hrepository
  · exact houtcomes
  · exact h.failing

/-- Every arm of the loop. -/
theorem handle {event : RuntimeEvent} {queue : List RuntimeEvent} {now : DateTime} {spawns written : Bool}
    (h : Protocol c) (hd : c.doing = .nothing) (hq : c.queue = event :: queue)
    (hs : EventLoop.handle ext { c with queue } now spawns written event = some d) : Protocol d := by
  have hidle : c.doing ≠ .givingUp := by
    rw [hd]
    intro hnot
    cases hnot
  have hevaluating : Doing.evaluating ≠ .givingUp := by decide
  have taken (hr : event.requested = none) (hf : event.finished = none) (hu : event.isUpdate = false)
      (ho : event.outcome = none) : Protocol { c with queue } := by
    refine h.of_queue ?_ ?_ ?_ ?_
    · rw [hq, List.filterMap_cons_none hr]
    · rw [hq, List.filterMap_cons_none hf]
    · rw [hq, List.filter_cons_of_neg (by rw [hu]; exact Bool.false_ne_true)]
    · rw [hq, List.filterMap_cons_none ho]
  cases event with
  | RunNow | PowerStatusChanged | TimeChanged | Deferred | ConfigurationChanged =>
    obtain rfl := Option.some.inj hs
    exact (taken rfl rfl rfl rfl).of_doing hidle hevaluating
  | Cancel =>
    obtain rfl := Option.some.inj hs
    have htaken := taken rfl rfl rfl rfl
    exact ⟨htaken.sound, htaken.operations, htaken.updates, htaken.backup, htaken.repository, htaken.outcomes,
      htaken.failing⟩
  | Resume =>
    unfold EventLoop.handle at hs
    obtain ⟨system, hsteps, rfl⟩ := record_eq_some hs
    have hworkers : system.backup = c.system.backup ∧ system.update = c.system.update := by
      cases System.step_ran hsteps with
      | resumed => exact ⟨rfl, rfl⟩
    exact ((taken rfl rfl rfl rfl).of_system hsteps rfl rfl hworkers.1 hworkers.2).of_doing hidle hevaluating
  | BackupFinished outcome =>
    unfold EventLoop.handle at hs
    obtain ⟨system, hsteps, rfl⟩ := record_eq_some hs
    have hfinished := @finished_backup ext c queue now written system c.doing h hsteps
    rw [hq] at hfinished
    exact hfinished rfl rfl rfl (h.outcome_first hq hd) hidle
  | RepositoryOperationRequested operation =>
    have hclear := h.no_conflict_of_request (hq ▸ List.mem_cons_self)
    have hfree : ¬EventLoop.conflict { c with queue } = true := Bool.eq_false_iff.1 hclear
    dsimp only [EventLoop.handle] at hs
    rw [if_neg hfree] at hs
    split at hs
    · obtain rfl := Option.some.inj hs
      exact h.started_repository hq
    · obtain ⟨system, hsteps, rfl⟩ := record_eq_some hs
      have hactive : c.active_repository_operation = none := by
        have hnone := (Bool.or_eq_false_iff.1 hclear).2
        simpa using hnone
      have hfinished := h.finished_repository hsteps hq (.inl rfl) (c.tokens + 1)
      rw [← hactive] at hfinished
      exact hfinished
  | RepositoryOperationFinished operation outcome =>
    unfold EventLoop.handle at hs
    obtain ⟨system, hsteps, rfl⟩ := record_eq_some hs
    exact (h.finished_repository hsteps hq (.inr rfl) c.tokens).of_doing hidle hevaluating
  | UpdateInstallRequested package =>
    have hclear := h.no_conflict_of_update (hq ▸ List.mem_cons_self)
    have hfree : ¬EventLoop.conflict { c with queue } = true := Bool.eq_false_iff.1 hclear
    dsimp only [EventLoop.handle] at hs
    rw [if_neg hfree] at hs
    split at hs
    · obtain rfl := Option.some.inj hs
      exact h.started_update hq
    · obtain ⟨system, hsteps, rfl⟩ := record_eq_some hs
      exact h.finished_update hsteps hq rfl
  | UpdateInstallFinished outcome =>
    unfold EventLoop.handle at hs
    obtain ⟨system, hsteps, rfl⟩ := record_eq_some hs
    exact (h.finished_update hsteps hq rfl).of_doing hidle hevaluating

theorem step (h : Protocol c) (hs : EventLoop.step ext c l = some d) : Protocol d := by
  cases step_turned hs with
  | thread other steps => exact h.thread other steps
  | @notified event notice =>
    refine h.of_queue ?_ ?_ ?_ ?_
    all_goals
      cases event with
      | Resume | PowerStatusChanged | TimeChanged => simp [RuntimeEvent.requested, RuntimeEvent.finished,
          RuntimeEvent.isUpdate, RuntimeEvent.outcome]
      | _ => cases notice
  | endedRepository worker => exact h.ended_repository worker _
  | endedUpdate worker => exact h.ended_update worker _
  | took idle head handles => exact h.handle idle head handles
  | timedOut idle empty => exact h.of_doing (by rw [idle]; decide) (by decide)
  | skipped evaluating active => exact h.of_doing (by rw [evaluating]; decide) (by decide)
  | evaluated evaluating inactive evaluates steps =>
    obtain ⟨hb, hu⟩ := System.step_evaluate evaluates steps
    exact (h.of_system steps rfl rfl hb hu).of_doing (by rw [evaluating]; decide) (by decide)
  | started evaluating inactive evaluates steps => exact h.started_backup evaluating inactive evaluates steps
  | failedToStart evaluating inactive evaluates steps fails =>
    exact (h.started_backup evaluating inactive evaluates steps).spawn_failed rfl fails
  | gaveUp failing steps =>
    have houtcomes := h.outcomes
    rw [if_pos failing] at houtcomes
    exact h.finished_backup steps rfl rfl rfl houtcomes (by decide)

theorem of_starts {s₀ : System} (h₀ : System.Starts ext s₀) : Protocol (start s₀) := by
  obtain ⟨hbackup, -, hupdate, hoperation, -⟩ := h₀.quiet
  have houtcome : s₀.outcome = none := by rw [System.outcome, hbackup]
  constructor
  · exact h₀.sound
  · exact (congrArg Option.toList (RepositoryOperationStatus.running_eq_none.2 hoperation)).symm
  · exact (congrArg Bool.toNat hupdate).symm
  · exact (congrArg Option.isSome hbackup).symm
  · rfl
  · exact (congrArg Option.toList houtcome).symm
  · intro hnot
    cases hnot

end Protocol

/-- Who answers for a repository operation, in every state of the service. An
operation is running exactly while there is one queued request, worker or queued
outcome for it. A backup and an operation are not active at once, and the events
that could meet another operation never do. -/
theorem operations_are_claimed_once {s₀ : System} {ls : List LoopLabel} (h₀ : System.Starts ext s₀)
    (h : Run (step ext) (fun _ _ => True) (start s₀) ls c) :
    (∀ operation, c.system.runtime.state.repository_operation = .Running operation ↔ c.claims.count operation = 1) ∧
    ¬(c.active_backup.isSome = true ∧ c.active_repository_operation.isSome = true) ∧
    (∀ operation, .RepositoryOperationRequested operation ∈ c.queue → c.conflict = false) ∧
    (∀ package, .UpdateInstallRequested package ∈ c.queue → c.conflict = false) := by
  have hprotocol : Protocol c := h.inv Protocol (fun _ _ _ hp _ hs => hp.step hs) (.of_starts h₀)
  refine ⟨fun operation => ?_, hprotocol.not_both, fun _ hq => hprotocol.no_conflict_of_request hq,
    fun _ hq => hprotocol.no_conflict_of_update hq⟩
  rw [hprotocol.operations]
  cases c.system.runtime.state.repository_operation with
  | Running running =>
    constructor
    · rintro ⟨⟩
      exact List.count_singleton_self
    · intro hcount
      have hmem : operation ∈ [running] := List.count_pos_iff.1 (hcount.symm ▸ Nat.one_pos)
      rw [List.mem_singleton.1 hmem]
  | _ =>
    constructor
    · intro hnot
      cases hnot
    · intro hcount
      cases hcount

namespace Validation

open Host.FirstValidation (loc)
open System.HomeDevice (conditions password)

def runtime : ServiceRuntime :=
  from_resolved_with_state ⟨{ repository := { url := some "D:\\home", secret_refs := password } }, none,
    ((choose_all {} loc none).run ∅).2⟩ loc {} ⟨none, .contents loc⟩ none .missing .missing .UNIX_EPOCH

def started : System := ⟨runtime, .UNIX_EPOCH, none, false, false, none⟩

theorem runtime_loads : load_with_credentials_and_policy External.inert.parse_url
    ⟨none, .contents loc⟩ none .missing .missing none .UNIX_EPOCH = .ok runtime := by decide

/-- A validation, until its outcome is in the queue. -/
def validates : List LoopLabel :=
  [.evaluate .UNIX_EPOCH conditions true,
    .thread (.request .ValidateRepository true (.quiet .UNIX_EPOCH)), .notify .TimeChanged,
    .take .UNIX_EPOCH true true, .endRepository .Succeeded]

def validated : Option EventLoop := runList (step .inert) (fun _ _ => True) (start started) validates

theorem validated_isSome : validated.isSome := by decide

theorem outcome_is_the_only_claim : ∃ c ∈ validated,
    c.system.runtime.state.repository_operation = .Running .Validate ∧
    c.queue.filterMap RuntimeEvent.finished = [.Validate] ∧ c.claims.count .Validate = 1 :=
  ⟨_, Option.get_mem validated_isSome, rfl, rfl,
    ((operations_are_claimed_once (c := validated.get validated_isSome) (.loaded _ _ _ _ runtime_loads)
      (.of_isSome validated_isSome)).1 .Validate).1 rfl⟩

end Validation

end EventLoop

end ResticPal
