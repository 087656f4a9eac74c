import ResticPal.Runtime.Timing
import ResticPal.System.Steps
/-!
# The times of a running service

`Retimed` says what a step can do to the configuration and the times of the
runtime, and `step_retimed` that it can do nothing else. The theorems about
deadlines are case analyses over it.
-/

open Lib

namespace ResticPal

/-- The requests that hold backups for an update. -/
def RequestCommand.holds : RequestCommand → Bool
  | .PrepareForUpdate _ | .InstallUpdate _ => true
  | _ => false

/-- Nothing is under way that a new configuration would disturb. An operation or
an enrollment that is under way has itself found no update pending. -/
structure RuntimeState.Changeable (state : RuntimeState) (now : DateTime) : Prop where
  running : state.running = false
  inactive : state.update_install_active = false
  expired : state.update_pending now = false ∨ state.repository_operation.isRunning = true ∨
    state.management_operation_active = true

/-- What the checks of an edit establish. -/
theorem RuntimeState.Changeable.of_idle {state : RuntimeState} {now : DateTime} (hp : state.update_pending now = false)
    (hr : state.running = false) : state.Changeable now :=
  ⟨hr, (update_pending_eq_false.1 hp).1, .inl hp⟩

/-- The step is a request for a repository operation. -/
def Label.begins : Label → Bool
  | .request command _ _ => command.operation.isSome
  | _ => false

namespace System

/-- The state of the repository after a step: as it was, or not that of an
operation under way, unless one was requested. -/
def Unbegun (s : System) (l : Label) (operation : RepositoryOperationStatus) : Prop :=
  operation = s.runtime.state.repository_operation ∨ operation.isRunning = false ∨ l.begins = true

/-- What a step at `now` does to the configuration and the times of the runtime. -/
inductive Retimed (s : System) (now : DateTime) : Label → EffectiveConfig → Timing → Prop
  | same {l : Label} {config : EffectiveConfig} (configured : config.is_configured = s.runtime.config.is_configured) :
      Retimed s now l config s.runtime.state.timing
  /-- A new configuration, or a new state of the repository. -/
  | unconfigured {l : Label} {config : EffectiveConfig} (operation : RepositoryOperationStatus)
      (begun : Unbegun s l operation) (changeable : s.runtime.state.Changeable now)
      (configured : config.is_configured = false) :
      Retimed s now l config { s.runtime.state.timing with
        shown := (.Unconfigured, none)
        not_before := none
        manual_requested := false
        repository_operation := operation }
  | unready {l : Label} {config : EffectiveConfig} (operation : RepositoryOperationStatus)
      (begun : Unbegun s l operation) (changeable : s.runtime.state.Changeable now)
      (configured : config.is_configured = true) (ready : repository_operation_allows_backup operation = false) :
      Retimed s now l config { s.runtime.state.timing with
        shown := (.Waiting .RepositoryValidation, none)
        repository_operation := operation }
  | rescheduled {l : Label} {config : EffectiveConfig} {next : BackupState} {deadline : DateTime}
      (operation : RepositoryOperationStatus) (begun : Unbegun s l operation)
      (changeable : s.runtime.state.Changeable now) (configured : config.is_configured = true)
      (ready : repository_operation_allows_backup operation = true)
      (shows : next = s.runtime.state.timing.shown.1 ∨ next = .Idle) :
      Retimed s now l config { s.runtime.state.timing with
        shown := (next, some deadline)
        repository_operation := operation }
  /-- A repository operation of a device that is not configured does not show. -/
  | occupied {l : Label} (operation : RepositoryOperationStatus) (begun : Unbegun s l operation)
      (changeable : s.runtime.state.Changeable now) (configured : s.runtime.config.is_configured = false) :
      Retimed s now l s.runtime.config { s.runtime.state.timing with repository_operation := operation }
  | requested {elevated : Bool} {io : RequestIo} (running : s.runtime.state.running = false) :
      Retimed s now (.request .RunBackupNow elevated io) s.runtime.config { s.runtime.state.timing with
        not_before := none
        manual_requested := io.receiver_open }
  | deferred {minutes : UInt32} {elevated : Bool} {io : RequestIo} {deadline : DateTime}
      (running : s.runtime.state.running = false) (configured : s.runtime.config.is_configured = true)
      (ready : s.runtime.state.ready = true)
      (bound : deadline.nanos ≤ now.nanos + 24 * 60 * 60 * 1000000000) :
      Retimed s now (.request (.DeferBackup minutes) elevated io) s.runtime.config { s.runtime.state.timing with
        shown := (s.runtime.state.timing.shown.1, some deadline)
        not_before := some deadline
        manual_requested := false }
  /-- Updates. An install that cannot be handed to the event loop is given up at once. -/
  | held {command : RequestCommand} {elevated : Bool} {io : RequestIo} (deadline : DateTime) (active : Bool)
      (holds : command.holds = true) (running : s.runtime.state.running = false) :
      Retimed s now (.request command elevated io) s.runtime.config (s.runtime.state.timing.hold deadline active)
  | abandoned {command : RequestCommand} {elevated : Bool} {io : RequestIo} (deadline : DateTime)
      (holds : command.holds = true) (running : s.runtime.state.running = false) :
      Retimed s now (.request command elevated io) s.runtime.config (s.runtime.state.timing.hold deadline true).restore
  | restored {outcome : UpdateInstallOutcome} {reading : DateTime} (active : s.runtime.state.update_install_active = true) :
      Retimed s now (.finishUpdate outcome reading) s.runtime.config s.runtime.state.timing.restore
  | installed {outcome : UpdateInstallOutcome} {reading : DateTime} (remains : Bool)
      (active : s.runtime.state.update_install_active = true) :
      Retimed s now (.finishUpdate outcome reading) s.runtime.config
        { s.runtime.state.timing with update_install_active := remains }
  | evaluated {conditions : SystemConditions} {after : Timing} {action : ScheduleAction}
      (evaluation : Evaluation s.runtime.config s.runtime.state now conditions after action) :
      Retimed s now (.evaluate now conditions) s.runtime.config after
  | resumed : Retimed s now (.resume now) s.runtime.config { s.runtime.state.timing with resumed_at := some now }
  /-- Backups. -/
  | working {l : Label} (phase : BackupPhase) (running : s.runtime.state.running = true) :
      Retimed s now l s.runtime.config { s.runtime.state.timing with
        shown := (.Running phase, s.runtime.state.timing.shown.2) }
  | succeeded {written : Bool} {started : EffectiveConfig} {outcome : BackupOutcome} {deadline : DateTime}
      (worker : s.backup = some ⟨started, .finished outcome⟩) (kind : outcome.kind.succeeded = true) :
      Retimed s now (.finishBackup now written) s.runtime.config { s.runtime.state.timing with
        shown := (backup_state outcome.kind, some deadline)
        last_success := some now
        resumed_at := none
        not_before := none
        consecutive_failures := 0 }
  | failed {written : Bool} {started : EffectiveConfig} {outcome : BackupOutcome} {retry_at : DateTime}
      (worker : s.backup = some ⟨started, .finished outcome⟩) (kind : outcome.kind.succeeded = false)
      (retries : now.checked_add_signed (retry_minutes
        (counted_failures s.runtime.state.timing.consecutive_failures outcome.kind) * 60 * 1000000000) = some retry_at) :
      Retimed s now (.finishBackup now written) s.runtime.config { s.runtime.state.timing with
        shown := (backup_state outcome.kind, some retry_at)
        resumed_at := none
        not_before := some retry_at
        consecutive_failures := counted_failures s.runtime.state.timing.consecutive_failures outcome.kind }

section Inversion

variable {ext : External} {s u : System} {l : Label} {now : DateTime} {config : EffectiveConfig} {elevated : Bool}
  {io : RequestIo}

/-- A configuration comes into force, perhaps after the state of the repository has changed. -/
theorem Retimed.of_apply {mid : RuntimeState} {operation : RepositoryOperationStatus}
    (h : s.runtime.state.Changeable now) (hb : Unbegun s l operation)
    (hm : mid.timing = { s.runtime.state.timing with repository_operation := operation }) (config : EffectiveConfig)
    (reading : DateTime) : Retimed s now l config (apply_configuration_status mid config reading).timing := by
  have hop : mid.repository_operation = operation := congrArg Timing.repository_operation hm
  cases hc : config.is_configured with
  | false =>
    rw [apply_configuration_status_unconfigured reading hc, hm]
    exact .unconfigured operation hb h hc
  | true =>
    cases ho : repository_operation_allows_backup operation with
    | false =>
      rw [apply_configuration_status_unready reading hc (hop ▸ ho), hm]
      exact .unready operation hb h hc ho
    | true =>
      obtain ⟨next, deadline, ht, hnext⟩ := @apply_configuration_status_usable mid config reading hc (hop ▸ ho)
      rw [hm] at hnext
      rw [ht, hm]
      exact .rescheduled operation hb h hc ho hnext

/-- The same, for a runtime that only differs in what the times do not depend on. -/
theorem Retimed.of_install {runtime : ServiceRuntime} (h : s.runtime.state.Changeable now)
    (ht : runtime.state.timing = s.runtime.state.timing) (resolved : ResolvedConfig) (reading : DateTime)
    (written : Bool) :
    Retimed s now l resolved.effective (install_resolved runtime resolved reading written).state.timing := by
  obtain ⟨mid, status, happly, hmid, hstatus⟩ := install_resolved_applies runtime resolved reading written
  rw [happly]
  refine .of_apply h ?_ (hmid.trans (by rw [ht])) _ _
  rcases hstatus with hsame | hended
  · exact .inl (hsame.trans (congrArg Timing.repository_operation ht))
  · exact .inr (.inl hended)

theorem Retimed.of_enrollment {runtime : ServiceRuntime} {parse_url : String → Option Url}
    (h : s.runtime.state.Changeable now) (ht : runtime.state.timing = s.runtime.state.timing)
    (hc : runtime.config = s.runtime.config) :
    Retimed s now l (finish_enrollment parse_url runtime io).1.config
      (finish_enrollment parse_url runtime io).1.state.timing := by
  have same : Retimed s now l runtime.config runtime.state.timing := by
    rw [ht]
    exact .same (by rw [hc])
  unfold finish_enrollment
  cases io.enrollment with
  | none => exact same
  | some pending =>
    simp only [Option.elim]
    have hcommit := @commit_enrollment_commit runtime io parse_url pending
    generalize commit_enrollment parse_url runtime pending io = after at hcommit ⊢
    cases hcommit with
    | abandoned => exact same
    | @committed candidate resolved _ _ policy_cache =>
      exact @of_install s l now { runtime with config_store := runtime.stored candidate, policy_cache } h ht resolved _ _

theorem Retimed.of_operation (operation : RepositoryOperationKind) (hl : io.now = now ∧ l.begins = true) :
    Retimed s now l (begin_repository_section s.runtime.config s.runtime operation io).1.config
      (begin_repository_section s.runtime.config s.runtime operation io).1.state.timing := by
  have hbegun := @begin_repository_section_begun s.runtime io s.runtime.config operation
  generalize (begin_repository_section s.runtime.config s.runtime operation io).1 = after at hbegun ⊢
  cases hbegun with
  | refused => exact .same rfl
  | @begun status _ pending running _ allows _ =>
    have h : s.runtime.state.Changeable now := .of_idle (hl.1 ▸ pending) running
    dsimp only
    split
    · rename_i hc
      rw [transition_state_other]
      exact .unready status (.inr (.inr hl.2)) h hc allows
    · rename_i hc
      exact .occupied status (.inr (.inr hl.2)) h (by simpa using hc)

theorem Retimed.of_enroll {parse_url : String → Option Url} {begun : ServiceRuntime}
    (hbegun : begin_enrollment s.runtime io.now = some begun) :
    Retimed s io.now l (finish_enrollment parse_url begun io).1.config
      (finish_enrollment parse_url begun io).1.state.timing := by
  obtain ⟨hbusy, rfl⟩ := begin_enrollment_eq_some hbegun
  obtain ⟨hr, -, -, hpending⟩ := busy_eq_false.1 hbusy
  refine .of_enrollment (.of_idle hpending hr) ?_ ?_
  all_goals rfl

theorem Retimed.of_repository_edit {display_name url : Option String} {mode : Option RepositoryMode}
    {options : Option Options} {secret_updates : List RepositorySecretUpdate} {candidate : Candidate}
    (hcheck : check_repository_edit s.runtime display_name url mode options secret_updates elevated io.now = .ok candidate)
    (changed : Bool) : Retimed s io.now l (commit_repository s.runtime candidate changed secret_updates io).1.config
      (commit_repository s.runtime candidate changed secret_updates io).1.state.timing := by
  obtain ⟨⟨-, hpending⟩, hr, -⟩ := check_repository_edit_guards hcheck
  have hcommitted := @commit_repository_committed s.runtime io candidate changed secret_updates
  generalize commit_repository s.runtime candidate changed secret_updates io = after at hcommitted ⊢
  cases hcommitted with
  | abandoned | recorded => exact .same rfl
  | committed =>
    dsimp only
    split
    · refine @Retimed.of_apply s _ io.now _ .ValidationRequired (.of_idle hpending hr) (.inr (.inl rfl)) ?_ _ _
      rfl
    · exact .of_apply (.of_idle hpending hr) (.inl rfl) rfl _ _

/-- A deferral ends within a day. One past the last time the clock has ends at once. -/
theorem deferral_le {minutes : UInt32} (h : minutes ≤ 1440) (now : DateTime) :
    ((now.checked_add_signed (Duration.minutes minutes)).getD now).nanos ≤ now.nanos + 24 * 60 * 60 * 1000000000 := by
  have hminutes : minutes.toNat ≤ 1440 := by simpa [UInt32.le_iff_toNat_le] using h
  cases hadd : now.checked_add_signed (Duration.minutes minutes) with
  | none => simp
  | some deadline =>
    rw [DateTime.checked_add_signed_eq_some] at hadd
    rw [Option.getD_some, hadd]
    simp only [Duration.minutes]
    omega

theorem request_retimed (command : RequestCommand) :
    Retimed s io.now (.request command elevated io) (s.runtime.handle_request ext command elevated io).1.config
      (s.runtime.handle_request ext command elevated io).1.state.timing := by
  have hhandled := handle_request_handled ext s.runtime command elevated io
  generalize s.runtime.handle_request ext command elevated io = after at hhandled ⊢
  cases hhandled with
  | unchanged => exact .same rfl
  | enrolled begins => exact .of_enroll begins
  | unenrolled _ _ _ idle =>
    obtain ⟨hr, -, -, hpending⟩ := busy_eq_false.1 idle
    refine @Retimed.of_apply s _ io.now _ s.runtime.state.repository_operation (.of_idle hpending hr) (.inl rfl) ?_ _ _
    rfl
  | validates => exact .of_operation .Validate ⟨rfl, rfl⟩
  | initializes => exact .of_operation .Initialize ⟨rfl, rfl⟩
  | repository check => exact .of_repository_edit check _
  | sources _ checked running | schedule _ checked running =>
    exact .of_apply (.of_idle checked.2 running) (.inl rfl) rfl _ _
  | retention edited | settings edited => exact .same (edited.is_configured rfl rfl)
  | requested running => exact .requested running
  | deferred range configured ready running =>
    exact .deferred running configured ready (deferral_le range io.now)
  | @held hold_seconds _ hold =>
    have htiming := begin_hold_timing s.runtime.state io.now (hold_deadline io.now hold_seconds)
      s.runtime.state.update_install_active
    refine Eq.subst (motive := Retimed s io.now _ _) htiming.symm ?_
    exact .held _ _ rfl hold.running
  | installing hold =>
    dsimp only
    rw [begin_hold_timing]
    exact .held _ _ rfl hold.running
  | abandoned hold =>
    dsimp only
    rw [restore_status_timing, begin_hold_timing]
    exact .abandoned _ rfl hold.running

theorem step_retimed (hsound : Sound s) (hs : step ext s l = some u) :
    Retimed s u.clock l u.runtime.config u.runtime.state.timing := by
  cases step_ran hs with
  | request _ => exact request_retimed _
  | beganEnroll begins =>
    obtain ⟨-, rfl⟩ := begin_enrollment_eq_some begins
    exact .same rfl
  | finishedEnroll enrolling =>
    have hm := hsound.enrolling.trans enrolling
    exact .of_enrollment ⟨hsound.exclusive.not_running_of_management hm, hsound.exclusive.management hm, .inr (.inr hm)⟩
      rfl rfl
  | appliedPolicy =>
    dsimp only
    unfold ServiceRuntime.apply_managed_policy_if_current
    split
    · exact .same rfl
    · split
      · exact .same rfl
      · split
        · exact .same rfl
        · rename_i hbusy
          simp only [Bool.or_eq_true, not_or, Bool.not_eq_true] at hbusy
          exact .of_install ⟨hbusy.1.1, (update_pending_eq_false.1 hbusy.2).1, .inl hbusy.2⟩ rfl _ _ _
  | evaluated evaluates => exact .evaluated (evaluate_section_evaluation evaluates)
  | resumed => exact .resumed
  | @finishedUpdate outcome now pending =>
    have hactive := hsound.update pending
    cases outcome with
    | Completed version => exact .installed false hactive
    | Failed code =>
      dsimp only [finish_update_install]
      rw [restore_status_timing]
      exact .restored hactive
    | Indeterminate code => exact .installed true hactive
  | @finishedRepository operation outcome now written =>
    dsimp only
    unfold ServiceRuntime.finish_repository_operation finish_repository_section
    split
    · exact .same rfl
    · rename_i hop
      have ho : s.runtime.state.repository_operation.isRunning = true := by
        have hop : s.runtime.state.repository_operation = .Running operation := by simpa using hop
        rw [hop]
        rfl
      obtain ⟨status, hstatus, ht⟩ :=
        record_repository_outcome_timing s.runtime s.runtime.config operation now written outcome
      dsimp only
      rw [(record_repository_outcome_ended s.runtime s.runtime.config operation now written outcome).same_config.config]
      exact .of_apply ⟨hsound.exclusive.not_running_of_operation ho, (hsound.exclusive.operation ho).1, .inr (.inl ho)⟩
        (.inr (.inl hstatus)) ht _ _
  | progressed worker =>
    dsimp only
    unfold update_progress
    split
    · rename_i hr
      exact .working .Uploading hr
    · exact .same rfl
  | beganRetention worker =>
    dsimp only
    unfold ServiceRuntime.begin_retention begin_retention_section
    split
    · exact .same rfl
    · exact .working .Retention (hsound.running_of_worker worker)
  | retained _ finishes =>
    subst finishes
    dsimp only
    rw [finish_retention_runtime]
    exact .same rfl
  | @finishedBackup now written started outcome runtime worker finishes =>
    obtain ⟨hsec, hconfig⟩ := finish_backup_at_section finishes
    dsimp only
    rw [hconfig]
    rcases finish_backup_section_timing hsec with ⟨hk, deadline, ht⟩ | ⟨hk, retry_at, hretry, ht⟩
    · rw [ht]
      exact .succeeded worker hk
    · rw [ht]
      exact .failed worker hk hretry
  | spawnFailed _ | copiedConfig _ | endedBackup _ => exact .same rfl

end Inversion

end System

end ResticPal
