import ResticPal.System.Steps
/-!
# Critical sections

The service again, with each critical section as one step. An evaluation copies
the configuration in one section and decides in another; a request checks,
writes and reports in up to three; a completion reads the configuration before
it takes the state lock. In between the other threads go on.

There are four of them: the event loop, which evaluates and completes; the IPC
thread, which serves one request at a time; the management thread, which applies
policies; and the backup worker. What a thread has read and not yet used is its
phase. Every writer of the configuration holds the configuration mutation lock,
so what it has read under that lock is still so in its last section, and it is
enough that the lock keeps the other writers out.
-/

open Lib

namespace ResticPal

/-- What the event loop has read for the section that comes next. -/
inductive LoopPhase where
  | idle
  | evaluating (config : EffectiveConfig) (now : DateTime) (conditions : SystemConditions)
  | completing (interval_hours : UInt32) (outcome : BackupOutcome)
  | recording (config : EffectiveConfig) (operation : RepositoryOperationKind) (outcome : RepositoryOutcomeKind)

@[simp] def LoopPhase.isIdle : LoopPhase → Bool
  | .idle => true
  | _ => false

/-- Where the request being served is, between two of its sections. -/
inductive IpcPhase where
  | idle
  /-- Testing or creating the repository of this copy of the configuration. -/
  | operating (config : EffectiveConfig) (operation : RepositoryOperationKind)
  /-- `RunBackupNow`, which has seen a configured service. -/
  | requesting
  /-- `RunBackupNow`, which has seen a repository that backups may use. -/
  | requested
  | deferring (minutes : UInt32)
  /-- An edit that has seen no update pending, by this clock reading. -/
  | editing (command : RequestCommand) (elevated : Bool) (checked : DateTime)
  /-- `UpdateRetention`, whose file is saved. -/
  | saved (candidate : Candidate)
  /-- `Unenroll`, which has seen nothing else under way. -/
  | unenrolling
  /-- `Unenroll`, whose new configuration is in force and not yet in the status. -/
  | unenrolled (resolved : ResolvedConfig) (management : LocalManagementConfig)
  | enrolling
  /-- `Enroll` after its commit, with the management flag still set. -/
  | enrolled

namespace IpcPhase

@[simp] def isIdle : IpcPhase → Bool
  | .idle => true
  | _ => false

/-- An enrollment is under way. -/
def isEnrolling : IpcPhase → Bool
  | .enrolling | .enrolled => true
  | _ => false

/-- The request holds the configuration mutation lock. -/
def mutating : IpcPhase → Bool
  | .editing _ _ _ | .saved _ | .unenrolling | .unenrolled _ _ => true
  | _ => false

end IpcPhase

structure Threads where
  runtime : ServiceRuntime
  backup : Option BackupWorker
  update : Bool
  loop : LoopPhase
  ipc : IpcPhase
  /-- The mode and prune interval that `begin_retention` has read, after a backup with this outcome. -/
  planning : Option (RepositoryMode × UInt32 × BackupOutcome)

inductive Section where
  /-- The first section of a request. -/
  | request (command : RequestCommand) (elevated : Bool) (io : RequestIo)
  /-- The next section of the request being served. -/
  | serve (io : RequestIo)
  /-- A handler with a single section. -/
  | single (l : Label)
  | copySchedule (now : DateTime) (conditions : SystemConditions)
  | evaluate
  | readInterval
  | finishBackup (now : DateTime) (written : Bool)
  | copyRepository (operation : RepositoryOperationKind) (outcome : RepositoryOutcomeKind)
  | finishRepository (now : DateTime) (written : Bool)
  | readRetention (outcome : BackupOutcome)
  | beginRetention (now : DateTime)

/-- The edit sets the status once it is in force. -/
def RequestCommand.restates : RequestCommand → Bool
  | .UpdateBackupSources _ _ | .UpdateRepository _ _ _ _ _ | .UpdateSchedule _ _ _ _ _ => true
  | _ => false

namespace Threads

/-- The threads as a system of whole handlers, which does not see the phases. -/
def view (t : Threads) : System := ⟨t.runtime, .UNIX_EPOCH, t.backup, t.update, t.ipc.isEnrolling, none⟩

/-- A step of the view, for a handler that is one section. -/
def whole (ext : External) (t : Threads) (l : Label) : Option Threads :=
  (t.view.advance ext l).map fun s => { t with runtime := s.runtime, backup := s.backup, update := s.update }

/-- The handler is one section, and its thread is free to run it. -/
def free (t : Threads) : Label → Bool
  | .applyPolicy _ _ _ _ => !t.ipc.mutating
  | .resume _ | .finishUpdate _ _ => t.loop.isIdle
  | .spawnFailed | .copyConfig | .progress _ | .retain _ _ _ _ => t.planning.isNone
  | .endBackup outcome _ => t.planning.isNone && !outcome.kind.succeeded
  | _ => false

/-! ## Requests -/

def begin_operation (t : Threads) (operation : RepositoryOperationKind) (elevated : Bool) : Threads :=
  if elevated && (check_repository_operation t.runtime.config operation).isOk then
    { t with ipc := .operating t.runtime.config operation }
  else t

/-- The first section of a request, on an idle IPC thread. -/
def request (ext : External) (t : Threads) (command : RequestCommand) (elevated : Bool) (io : RequestIo) :
    Option Threads :=
  match command with
  | .ValidateRepository => some (t.begin_operation .Validate elevated)
  | .InitializeRepository => some (t.begin_operation .Initialize elevated)
  | .RunBackupNow => some (if t.runtime.config.is_configured then { t with ipc := .requesting } else t)
  | .DeferBackup minutes =>
    some (if 1 ≤ minutes && minutes ≤ 24 * 60 && t.runtime.config.is_configured then { t with ipc := .deferring minutes }
      else t)
  | .Enroll bootstrap_url =>
    if elevated && (Text.from_utf8 (Text.as_bytes bootstrap_url)).isSome then
      some ((begin_enrollment t.runtime io.now).elim t (fun runtime => { t with runtime, ipc := .enrolling }))
    else some t
  | .Unenroll => some (if elevated && !unenroll_check t.runtime io.now then { t with ipc := .unenrolling } else t)
  | command =>
    if command.is_edit then
      some (if elevated && !t.runtime.state.update_pending io.now then { t with ipc := .editing command elevated io.now }
        else t)
    else t.whole ext (.request command elevated io)

/-- What an edit leaves, with its status set by a clock reading of its own. -/
def restamp (before : RuntimeState) (edited : ServiceRuntime) (now : DateTime) : ServiceRuntime :=
  { edited with state := apply_configuration_status { before with
      repository_operation := edited.state.repository_operation
      service_state := edited.state.service_state } edited.config now }

/-- The handler of an edit, which sets the status at `now`. -/
def edited (ext : External) (runtime : ServiceRuntime) (command : RequestCommand) (elevated : Bool) (io : RequestIo)
    (now : DateTime) : ServiceRuntime :=
  let handled := runtime.handle_request ext command elevated io
  if command.restates && handled.2.isAccepted then restamp runtime.state handled.1 now else handled.1

/-- The state section of an edit. Only that of a retention edit ends before its configuration is in force. -/
def edit (ext : External) (t : Threads) (command : RequestCommand) (elevated : Bool) (checked : DateTime) (io : RequestIo) :
    Threads :=
  match command with
  | .UpdateRetention daily weekly monthly yearly prune_interval_days =>
    match check_retention_edit t.runtime daily weekly monthly yearly prune_interval_days elevated checked with
    | .error _ => { t with ipc := .idle }
    | .ok candidate => (t.runtime.save_config candidate.loc io.config_written).elim { t with ipc := .idle }
        (fun runtime => { t with runtime, ipc := .saved candidate })
  | command => { t with runtime := edited ext t.runtime command elevated { io with now := checked } io.now, ipc := .idle }

/-- The next section of the request being served. -/
def serve (ext : External) (t : Threads) (io : RequestIo) : Option Threads :=
  match t.ipc with
  | .idle => none
  | .operating config operation =>
    some { t with runtime := (begin_repository_section config t.runtime operation io).1, ipc := .idle }
  | .requesting => some { t with
      ipc := if repository_operation_allows_backup t.runtime.state.repository_operation then .requested else .idle }
  | .requested => some { t with
      runtime := { t.runtime with state := (run_now_section t.runtime.state io).1 }
      ipc := .idle }
  | .deferring minutes => some { t with
      runtime := { t.runtime with state := (defer_section t.runtime.state minutes io).1 }
      ipc := .idle }
  | .editing command elevated checked => some (t.edit ext command elevated checked io)
  | .saved candidate => some { t with
      runtime := { t.runtime with local_config := candidate.loc, config := candidate.effective }
      ipc := .idle }
  | .unenrolling => some (match unenroll_writes t.runtime io with
    | .error _ => { t with ipc := .idle }
    | .ok (runtime, resolved) => { t with
        runtime, ipc := .unenrolled resolved t.runtime.local_config.management })
  | .unenrolled resolved management => some { t with
      runtime := { t.runtime with
        state := unenroll_status t.runtime.state resolved io.now
        credential_store := t.runtime.credential_store.map (fun store => CredentialStore.remove_all io.removed store
          (management.status_token_ref.toList ++ management.enrollment_key_ref.toList)) }
      ipc := .idle }
  | .enrolling => some { t with
      runtime := (io.enrollment.elim (t.runtime, false)
        (fun pending => commit_enrollment ext.parse_url t.runtime pending io)).1
      ipc := .enrolled }
  | .enrolled => some { t with
      runtime := { t.runtime with state := { t.runtime.state with management_operation_active := false } }
      ipc := .idle }

/-- The rest of a request, with nothing in between. -/
def serve_all (ext : External) (io : RequestIo) : Nat → Threads → Option Threads
  | 0, t => some t
  | n + 1, t => if t.ipc.isIdle then some t else (t.serve ext io).bind (serve_all ext io n)

/-! ## The other threads -/

/-- The worker's section after a success, with what `begin_retention` has read. -/
def begin_retention (t : Threads) (now : DateTime) : Option Threads :=
  match t.backup, t.planning with
  | some ⟨started, .copied config⟩, some (mode, prune_interval_days, outcome) =>
    let begun := begin_retention_section mode prune_interval_days t.runtime.state now
    some { t with
      runtime := { t.runtime with state := begun.1 }
      backup := some ⟨started, begun.2.elim (.finished outcome) (fun plan => .retaining config plan outcome)⟩
      planning := none }
  | _, _ => none

def step (ext : External) (t : Threads) : Section → Option Threads
  | .request command elevated io => if t.ipc.isIdle then t.request ext command elevated io else none
  | .serve io => t.serve ext io
  | .single l => if t.free l then t.whole ext l else none
  | .copySchedule now conditions =>
    if t.loop.isIdle then some { t with loop := .evaluating t.runtime.config now conditions } else none
  | .evaluate => match t.loop with
    | .evaluating config now conditions =>
      (evaluate_section config t.runtime.state now conditions).map fun evaluated => { t with
        runtime := { t.runtime with state := evaluated.1 }
        backup := t.view.worker_after evaluated.2
        loop := .idle }
    | _ => none
  | .readInterval => match t.loop, t.backup with
    | .idle, some ⟨_, .finished outcome⟩ =>
      some { t with loop := .completing t.runtime.config.schedule.interval_hours outcome }
    | _, _ => none
  | .finishBackup now written => match t.loop with
    | .completing interval_hours outcome => (finish_backup_with interval_hours t.runtime now outcome written).map
        fun runtime => { t with runtime, backup := none, loop := .idle }
    | _ => none
  | .copyRepository operation outcome =>
    if t.loop.isIdle then some { t with loop := .recording t.runtime.config operation outcome } else none
  | .finishRepository now written => match t.loop with
    | .recording config operation outcome => some { t with
        runtime := finish_repository_section config t.runtime operation outcome now written
        loop := .idle }
    | _ => none
  | .readRetention outcome => match t.backup, t.planning with
    | some ⟨_, .copied _⟩, none =>
      let config := t.runtime.config
      if outcome.kind.succeeded then
        some { t with planning := some (config.repository.mode, config.retention.prune_interval_days, outcome) }
      else none
    | _, _ => none
  | .beginRetention now => t.begin_retention now

/-- A service that has just started, with all its threads idle. -/
inductive Starts (ext : External) : Threads → Prop
  | mk {s : System} (starts : System.Starts ext s) : Starts ext ⟨s.runtime, none, false, .idle, .idle, none⟩

/-! ## Sections and handlers -/

variable {ext : External} {t : Threads} {runtime : ServiceRuntime} {command : RequestCommand} {elevated : Bool} {io : RequestIo}

theorem restamp_activity {before : RuntimeState} (h : before.running = false) (edited : ServiceRuntime) (now : DateTime) :
    (restamp before edited now).state.activity =
      { before.activity with repository_operation := edited.state.repository_operation } :=
  apply_configuration_status_activity _ _ h

theorem restamp_of_applied {before state : RuntimeState} {edited : ServiceRuntime} {now : DateTime}
    (hbefore : state = { before with
      repository_operation := state.repository_operation
      service_state := state.service_state })
    (hstate : edited.state = apply_configuration_status state edited.config now) : restamp before edited now = edited := by
  rw [restamp, hstate, apply_configuration_status_operation, apply_configuration_status_service_state, ← hbefore, ← hstate]

/-- An edit that sets the status was not made during a backup. -/
theorem restamp_handled {handled : ServiceRuntime × ResponsePayload}
    (h : Handled ext runtime elevated io command handled) (hs : (command.restates && handled.2.isAccepted) = true) :
    runtime.state.running = false ∧ restamp runtime.state handled.1 io.now = handled.1 := by
  obtain ⟨hc, ha⟩ := Bool.and_eq_true_iff.1 hs
  cases h with
  | unchanged refusal => rcases refusal ha with rfl | ⟨rfl, -⟩ <;> cases hc
  | @repository _ url _ options updates candidate check =>
    have hr := (check_repository_edit_guards check).2.1
    generalize (url.isSome || options.isSome || !updates.isEmpty) = changed at ha ⊢
    have hcommit := @commit_repository_committed runtime io candidate changed updates
    generalize commit_repository runtime candidate changed updates io = handled at hcommit ha ⊢
    cases hcommit with
    | committed => exact ⟨hr, restamp_of_applied (by split <;> rfl) rfl⟩
    | _ => cases ha
  | sources _ _ running => exact ⟨running, restamp_of_applied rfl rfl⟩
  | schedule _ _ running => exact ⟨running, restamp_of_applied rfl rfl⟩
  | _ => cases hc

theorem edited_now : edited ext runtime command elevated io io.now = (runtime.handle_request ext command elevated io).1 := by
  unfold edited
  dsimp only
  split
  · exact (restamp_handled (handle_request_handled ext runtime command elevated io) ‹_›).2
  · rfl

theorem edited_same (now : DateTime) :
    SameConfig (runtime.handle_request ext command elevated io).1 (edited ext runtime command elevated io now) ∧
      (edited ext runtime command elevated io now).state.activity =
        (runtime.handle_request ext command elevated io).1.state.activity := by
  unfold edited
  dsimp only
  split
  · obtain ⟨hr, hsame⟩ := restamp_handled (handle_request_handled ext runtime command elevated io) ‹_›
    refine ⟨⟨rfl, rfl, rfl, rfl⟩, Eq.trans ?_ (congrArg (fun runtime => runtime.state.activity) hsame)⟩
    exact (restamp_activity hr _ _).trans (restamp_activity hr _ _).symm
  · exact ⟨⟨rfl, rfl, rfl, rfl⟩, rfl⟩

/-- The sections of a request, one right after the other, are its handler. -/
theorem request_uninterrupted (command : RequestCommand) (h : t.ipc = .idle) :
    (t.request ext command elevated io).bind (serve_all ext io 2) = some { t with
      runtime := (t.runtime.handle_request ext command elevated io).1
      update := t.update || command.starts_update (t.runtime.handle_request ext command elevated io).2 } := by
  obtain ⟨runtime, backup, update, loop, ipc, planning⟩ := t
  obtain rfl : ipc = .idle := h
  unfold request
  cases command with
  | RunBackupNow =>
    simp only [ServiceRuntime.handle_request, ServiceRuntime.run_backup_now, RequestCommand.starts_update]
    cases hc : runtime.config.is_configured <;>
      cases ho : repository_operation_allows_backup runtime.state.repository_operation <;>
      simp [serve_all, serve, ho]
  | DeferBackup minutes =>
    simp only [ServiceRuntime.handle_request, ServiceRuntime.defer_backup, RequestCommand.starts_update]
    rw [Bool.or_false]
    cases 1 ≤ minutes && minutes ≤ 24 * 60 <;> cases runtime.config.is_configured <;> rfl
  | Unenroll =>
    simp only [ServiceRuntime.handle_request, ServiceRuntime.unenroll, RequestCommand.starts_update]
    cases elevated
    · simp [serve_all]
    · cases hb : unenroll_check runtime io.now
      · cases hw : unenroll_writes runtime io <;> simp [serve_all, serve, hw]
      · simp [serve_all]
  | Enroll bootstrap_url =>
    simp only [ServiceRuntime.handle_request, ServiceRuntime.enroll, RequestCommand.starts_update]
    cases elevated
    · simp [serve_all]
    · cases hu : Text.from_utf8 (Text.as_bytes bootstrap_url)
      · simp [serve_all]
      · cases hb : begin_enrollment runtime io.now <;>
          simp [serve_all, serve, finish_enrollment]
  | ValidateRepository | InitializeRepository =>
    simp only [begin_operation, ServiceRuntime.handle_request, ServiceRuntime.begin_repository_operation,
      RequestCommand.starts_update]
    cases elevated
    · simp [serve_all]
    · cases hc : check_repository_operation runtime.config _ <;>
        simp [serve_all, serve, Except.isOk, Except.toBool]
  | UpdateRetention daily weekly monthly yearly prune_interval_days =>
    simp only [RequestCommand.is_edit, if_true, RequestCommand.starts_update, Bool.or_false]
    cases hb : elevated && !runtime.state.update_pending io.now
    · rw [edit_refused rfl hb]
      simp [serve_all]
    · simp only [ServiceRuntime.handle_request, ServiceRuntime.update_retention]
      cases hc : check_retention_edit runtime daily weekly monthly yearly prune_interval_days elevated io.now with
      | error response =>
        simp only [if_true, Option.bind_some, serve_all, serve, edit, hc]
        rfl
      | ok candidate =>
        simp only [if_true, Option.bind_some, serve_all, serve, edit, hc, commit_candidate]
        cases hs : runtime.save_config candidate.loc io.config_written with
        | none => rfl
        | some saved =>
          have hstate : saved.state = runtime.state := save_config_eq_some hs ▸ rfl
          rw [← hstate]
          rfl
  | UpdateBackupSources | UpdateRepository | UpdateSchedule | UpdateUpdateSettings =>
    simp only [RequestCommand.is_edit, if_true, RequestCommand.starts_update, Bool.or_false]
    cases hb : elevated && !runtime.state.update_pending io.now
    · rw [edit_refused rfl hb]
      simp [serve_all]
    · simp only [if_true, Option.bind_some, serve_all, serve, edit, edited_now]
      rfl
  | _ =>
    simp only [RequestCommand.is_edit, Bool.false_eq_true, if_false]
    rfl

/-- An evaluation's sections, one right after the other, are the evaluation. -/
theorem evaluate_uninterrupted (now : DateTime) (conditions : SystemConditions) (h : t.loop = .idle) :
    (t.step ext (.copySchedule now conditions)).bind (fun t => t.step ext .evaluate) =
      (t.runtime.evaluate_schedule now conditions).map (fun evaluated => { t with
        runtime := evaluated.1
        backup := t.view.worker_after evaluated.2 }) := by
  obtain ⟨runtime, backup, update, loop, ipc, planning⟩ := t
  obtain rfl : loop = .idle := h
  simp only [step, LoopPhase.isIdle, if_true, Option.bind_some, ServiceRuntime.evaluate_schedule, Option.map_map]
  rfl

end Threads

end ResticPal
