import ResticPal.Runtime.Ipc
import ResticPal.Runtime.Scheduler
/-!
# What is under way

`Activity` is the part of the state that decides which operations may start.
For each function of `State`, `Scheduler`, `Lifecycle` and `Enrollment` there
is one lemma here that says what it does to the activity, and one for what it
does to the recorded state of the service; no later proof unfolds them.
-/

open Lib

namespace ResticPal

/-- The operations under way. `restores_running` is whether the status an update
hold put aside is that of a running backup. -/
@[ext] structure Activity where
  running : Bool
  repository_operation : RepositoryOperationStatus
  update_install_active : Bool
  update_hold_until : Option DateTime
  restores_running : Bool
  management_operation_active : Bool

def RuntimeState.activity (state : RuntimeState) : Activity where
  running := state.running
  repository_operation := state.repository_operation
  update_install_active := state.update_install_active
  update_hold_until := state.update_hold_until
  restores_running := state.update_hold_previous_status.any (·.1.isRunning)
  management_operation_active := state.management_operation_active

theorem update_pending_eq_false {state : RuntimeState} {now : DateTime} :
    state.update_pending now = false ↔ state.activity.update_install_active = false ∧
      ∀ deadline ∈ state.activity.update_hold_until, deadline ≤ now := by
  simp only [RuntimeState.update_pending, RuntimeState.activity, Bool.or_eq_false_iff]
  cases state.update_hold_until <;> simp

/-- Both runtimes have one configuration, in memory and on disk. -/
structure SameConfig (before after : ServiceRuntime) : Prop where
  config : after.config = before.config
  local_config : after.local_config = before.local_config
  field_resolutions : after.field_resolutions = before.field_resolutions
  config_store : after.config_store = before.config_store

/-- The request was refused, or has changed neither the effective configuration nor the state. -/
def ServiceRuntime.Untouched (before after : ServiceRuntime) : Prop :=
  after.config = before.config ∧ after.state = before.state

theorem SameConfig.trans {first second third : ServiceRuntime} (h : SameConfig first second)
    (h' : SameConfig second third) : SameConfig first third :=
  ⟨h'.config.trans h.config, h'.local_config.trans h.local_config, h'.field_resolutions.trans h.field_resolutions,
    h'.config_store.trans h.config_store⟩

/-! ## Configuration changes -/

@[simp] theorem apply_configuration_status_service_state (state : RuntimeState) (config : EffectiveConfig)
    (now : DateTime) : (apply_configuration_status state config now).service_state = state.service_state := by
  unfold apply_configuration_status configuration_status
  simp only
  repeat' split
  all_goals rfl

/-- A configuration change starts nothing, and hides no backup unless one runs. -/
theorem apply_configuration_status_operation (state : RuntimeState) (config : EffectiveConfig) (now : DateTime) :
    (apply_configuration_status state config now).repository_operation = state.repository_operation := by
  unfold apply_configuration_status configuration_status
  dsimp only
  split
  · split <;> rfl
  · rfl

theorem apply_configuration_status_activity {state : RuntimeState} (config : EffectiveConfig) (now : DateTime)
    (h : state.running = false) : (apply_configuration_status state config now).activity = state.activity := by
  have hr : (apply_configuration_status state config now).running = false := by
    unfold apply_configuration_status configuration_status RuntimeState.running
    simp only
    split
    · split
      · simp
      · split
        · simp
        · exact h
    · simp
  have hrest : (apply_configuration_status state config now).activity =
      { state.activity with running := (apply_configuration_status state config now).running } := by
    unfold apply_configuration_status configuration_status
    simp only
    repeat' split
    all_goals rfl
  rw [hrest, hr, ← h]
  rfl

/-- A running backup stays visible under a configuration that backups may use. -/
theorem apply_configuration_status_running {state : RuntimeState} {config : EffectiveConfig} (now : DateTime)
    (hc : config.is_configured = true) (ho : repository_operation_allows_backup state.repository_operation = true)
    (hr : state.running = true) : (apply_configuration_status state config now).activity = state.activity := by
  have hs : ¬(state.status.state = .Unconfigured ∨ state.status.state = .Waiting .RepositoryValidation) := by
    rintro (h | h) <;> simp [RuntimeState.running, h, BackupState.isRunning] at hr
  simp only [apply_configuration_status, configuration_status, hc, ho, if_true, hs, if_false, Bool.not_true, Bool.false_eq_true]
  rfl

/-- The repository of `effective` is the verified one and nothing else has changed, or it asks for validation. -/
def Revalidated (effective : EffectiveConfig) (before after : RuntimeState) : Prop :=
  (before.service_state.repository_requires_validation effective = false ∧ after.activity = before.activity ∧
    after.service_state = before.service_state) ∨
  (after.activity = { before.activity with repository_operation := .ValidationRequired } ∧
    after.service_state = before.service_state.require_repository_validation)

theorem Revalidated.end_management {effective : EffectiveConfig} {before after : RuntimeState}
    (h : Revalidated effective before after) : Revalidated effective
      { before with management_operation_active := false } { after with management_operation_active := false } := by
  have ended {a b : Activity} (h : a = b) :
      { a with management_operation_active := false } = { b with management_operation_active := false } := h ▸ rfl
  rcases h with ⟨hv, ha, hs⟩ | ⟨ha, hs⟩
  · exact .inl ⟨hv, ended ha, hs⟩
  · exact .inr ⟨ended ha, hs⟩

theorem Revalidated.activity_eq {effective : EffectiveConfig} {before after : RuntimeState}
    (h : Revalidated effective before after) : after.activity = before.activity ∨
      after.activity = { before.activity with repository_operation := .ValidationRequired } :=
  h.imp (fun h => h.2.1) (fun h => h.1)

theorem Revalidated.running {effective : EffectiveConfig} {before after : RuntimeState}
    (h : Revalidated effective before after) : after.running = before.running := by
  rcases h.activity_eq with ha | ha <;> exact (congrArg Activity.running ha :)

/-- What `install_resolved` leaves. -/
structure Installed (before after : ServiceRuntime) (resolved : ResolvedConfig) : Prop where
  config : after.config = resolved.effective
  field_resolutions : after.field_resolutions = resolved.fields
  local_config : after.local_config = before.local_config
  config_store : after.config_store = before.config_store
  revalidated : Revalidated resolved.effective before.state after.state

/-- A save only touches `state.json`. -/
theorem save_state_eq_some {runtime saved : ServiceRuntime} {snapshot : ServiceStateSnapshot} {written : Bool}
    (h : runtime.save_state snapshot written = some saved) : saved = { runtime with state_store := saved.state_store } := by
  unfold ServiceRuntime.save_state at h
  split at h
  · exact Option.some.inj h ▸ rfl
  · split at h
    · exact Option.some.inj h ▸ rfl
    · cases h

theorem save_state_getD (runtime : ServiceRuntime) (snapshot : ServiceStateSnapshot) (written : Bool) :
    (runtime.save_state snapshot written).getD runtime =
      { runtime with state_store := ((runtime.save_state snapshot written).getD runtime).state_store } := by
  cases h : runtime.save_state snapshot written with
  | none => rfl
  | some saved => exact save_state_eq_some h

theorem install_resolved_installed {runtime : ServiceRuntime} (resolved : ResolvedConfig) (now : DateTime)
    (written : Bool) (h : runtime.state.running = false) :
    Installed runtime (install_resolved runtime resolved now written) resolved := by
  cases hv : runtime.state.service_state.repository_requires_validation resolved.effective with
  | false =>
    simp only [install_resolved, hv, Bool.false_eq_true, if_false]
    exact ⟨rfl, rfl, rfl, rfl, .inl ⟨hv, apply_configuration_status_activity _ _ h, by simp⟩⟩
  | true =>
    simp only [install_resolved, hv, if_true]
    rw [save_state_getD]
    exact ⟨rfl, rfl, rfl, rfl, .inr ⟨apply_configuration_status_activity _ _ h, by simp⟩⟩

/-! ## Updates -/

theorem begin_hold_activity {state : RuntimeState} (now deadline : DateTime) (h : state.running = false) :
    (begin_hold state now deadline).activity = { state.activity with update_hold_until := some deadline } := by
  have hp : (begin_hold state now deadline).activity.restores_running = state.activity.restores_running := by
    unfold begin_hold RuntimeState.activity
    cases state.update_hold_previous_status with
    | none => exact h
    | some _ => rfl
  have hr : (begin_hold state now deadline).activity.running = state.activity.running := by
    refine Eq.trans ?_ h.symm
    simp [begin_hold, RuntimeState.activity, RuntimeState.running]
  exact Activity.ext hr rfl rfl rfl hp rfl

theorem restore_status_activity {state : RuntimeState} (now : DateTime) (h : state.running = false)
    (hp : state.activity.restores_running = false) :
    (restore_status state now).activity =
      { state.activity with update_install_active := false, update_hold_until := none } := by
  unfold restore_status RuntimeState.activity at *
  cases hs : state.update_hold_previous_status with
  | none => simp [RuntimeState.running]
  | some p => simp_all [RuntimeState.running]

theorem begin_install_activity {state : RuntimeState} (now deadline : DateTime) (h : state.running = false) :
    ({ begin_hold state now deadline with update_install_active := true } : RuntimeState).activity =
      { state.activity with update_install_active := true, update_hold_until := some deadline } :=
  congrArg (fun a : Activity => { a with update_install_active := true }) (begin_hold_activity now deadline h)

theorem abandon_install_activity {state : RuntimeState} (now deadline : DateTime) (h : state.running = false)
    (hp : state.activity.restores_running = false) :
    (restore_status { begin_hold state now deadline with update_install_active := true } now).activity =
      { state.activity with update_install_active := false, update_hold_until := none } := by
  have ha := begin_install_activity now deadline h
  rw [restore_status_activity now ((congrArg Activity.running ha).trans h)
    ((congrArg Activity.restores_running ha).trans hp), ha]

theorem release_hold_activity {state : RuntimeState} (now : DateTime) (hp : state.activity.restores_running = false) :
    (release_hold state now).activity = { state.activity with update_hold_until := none } := by
  unfold release_hold RuntimeState.activity at *
  cases hs : state.update_hold_previous_status with
  | none => simp [RuntimeState.running]
  | some p =>
    simp only [hs, Option.any_some] at hp
    by_cases hu : state.status.state = .Waiting .Update
    · simp [hp, hu, RuntimeState.running]
    · simp [hp, hu, RuntimeState.running]

/-- The service state and the reported revision are passed on. -/
structure RuntimeState.PassedOn (before after : RuntimeState) : Prop where
  service_state : after.service_state = before.service_state
  revision : after.status.managed_revision = before.status.managed_revision

@[simp] theorem transition_state_revision (status : ServiceStatus) (next : BackupState) (now : DateTime) :
    (transition_state status next now).managed_revision = status.managed_revision := by
  unfold transition_state
  split <;> rfl

theorem release_hold_passedOn (state : RuntimeState) (now : DateTime) : state.PassedOn (release_hold state now) := by
  unfold release_hold
  simp only
  repeat' split
  all_goals exact ⟨rfl, rfl⟩

theorem restore_status_passedOn (state : RuntimeState) (now : DateTime) : state.PassedOn (restore_status state now) := by
  unfold restore_status
  simp only
  split <;> exact ⟨rfl, rfl⟩

theorem finish_update_install_passedOn (state : RuntimeState) (now : DateTime) (outcome : UpdateInstallOutcome) :
    state.PassedOn (finish_update_install state now outcome) := by
  cases outcome with
  | Failed code => exact ⟨(restore_status_passedOn state now).service_state, (restore_status_passedOn state now).revision⟩
  | _ => exact ⟨rfl, rfl⟩

/-- The end of an install ends no other operation and starts none. -/
theorem finish_update_install_activity {state : RuntimeState} (now : DateTime) (outcome : UpdateInstallOutcome)
    (h : state.running = false) (hp : state.activity.restores_running = false) : ∃ active hold,
      (∀ deadline ∈ hold, state.update_hold_until = some deadline) ∧
      (finish_update_install state now outcome).activity =
        { state.activity with update_install_active := active, update_hold_until := hold } := by
  cases outcome with
  | Completed version => exact ⟨false, state.update_hold_until, fun _ h => h, rfl⟩
  | Failed code => exact ⟨false, none, by simp, restore_status_activity now h hp⟩
  | Indeterminate code => exact ⟨true, state.update_hold_until, fun _ h => h, rfl⟩

/-! ## Evaluation -/

/-- What an evaluation does. -/
inductive Evaluated (config : EffectiveConfig) (before : RuntimeState) (now : DateTime) :
    RuntimeState → ScheduleAction → Prop
  | held {after : RuntimeState} : before.update_pending now = true →
      after.activity = { before.activity with running := false } → Evaluated config before now after .None
  | idle {after : RuntimeState} : before.update_pending now = false →
      after.activity = { before.activity with update_hold_until := none } → Evaluated config before now after .None
  | started {after : RuntimeState} {trigger : BackupTrigger} : before.update_pending now = false →
      config.is_configured = true → before.management_operation_active = false →
      repository_operation_allows_backup before.repository_operation = true → before.running = false →
      after.activity = { before.activity with update_hold_until := none, running := true } →
      Evaluated config before now after (.Start trigger)

theorem Schedule.decide_running {config : ScheduleConfig} {snapshot : SchedulerSnapshot} {decision : ScheduleDecision}
    (h : decide config snapshot = some decision) : snapshot.backup_running = false ∨ decision = .AlreadyRunning := by
  unfold decide at h
  split at h
  · exact .inr (Option.some.inj h).symm
  · rename_i hr
    exact .inl (by simpa using hr)

theorem record_decision_passedOn {state after : RuntimeState} {now : DateTime} {decision : ScheduleDecision}
    {action : ScheduleAction} (h : record_decision state now decision = some (after, action)) : state.PassedOn after := by
  cases decision with
  | AlreadyRunning | Start _ =>
    obtain ⟨rfl, rfl⟩ := Prod.mk.inj (Option.some.inj h)
    exact ⟨rfl, rfl⟩
  | Idle next =>
    obtain ⟨rfl, rfl⟩ := Prod.mk.inj (Option.some.inj h)
    refine ⟨rfl, ?_⟩
    dsimp only
    split <;> simp
  | Waiting trigger blockers retry_at =>
    obtain ⟨blocker, -, hb⟩ := Option.map_eq_some_iff.1 h
    obtain ⟨rfl, rfl⟩ := Prod.mk.inj hb
    exact ⟨rfl, by simp⟩

theorem record_decision_activity {state after : RuntimeState} {now : DateTime} {decision : ScheduleDecision}
    {action : ScheduleAction} (h : record_decision state now decision = some (after, action))
    (hr : state.running = false ∨ decision = .AlreadyRunning) :
    (action = .None ∧ after.activity = state.activity) ∨
      (∃ trigger, action = .Start trigger) ∧ state.running = false ∧
        after.activity = { state.activity with running := true } := by
  cases decision with
  | AlreadyRunning =>
    obtain ⟨rfl, rfl⟩ := Prod.mk.inj (Option.some.inj h)
    exact .inl ⟨rfl, rfl⟩
  | Start trigger =>
    obtain ⟨rfl, rfl⟩ := Prod.mk.inj (Option.some.inj h)
    exact .inr ⟨⟨trigger, rfl⟩, hr.resolve_right (by simp), rfl⟩
  | Idle next =>
    obtain ⟨rfl, rfl⟩ := Prod.mk.inj (Option.some.inj h)
    have hs := hr.resolve_right (by simp)
    refine .inl ⟨rfl, Activity.ext ?_ rfl rfl rfl rfl rfl⟩
    simp only [RuntimeState.activity, RuntimeState.running] at hs ⊢
    split <;> simp [hs]
  | Waiting trigger blockers retry_at =>
    obtain ⟨blocker, -, hb⟩ := Option.map_eq_some_iff.1 h
    obtain ⟨rfl, rfl⟩ := Prod.mk.inj hb
    have hs := hr.resolve_right (by simp)
    refine .inl ⟨rfl, Activity.ext ?_ rfl rfl rfl rfl rfl⟩
    simpa [RuntimeState.activity, RuntimeState.running] using hs.symm

theorem evaluate_section_passedOn {config : EffectiveConfig} {state after : RuntimeState} {now : DateTime}
    {conditions : SystemConditions} {action : ScheduleAction}
    (h : evaluate_section config state now conditions = some (after, action)) : state.PassedOn after := by
  have hreleased := release_hold_passedOn state now
  unfold evaluate_section evaluate_with at h
  split at h
  · obtain ⟨retry, -, h⟩ := Option.bind_eq_some_iff.1 h
    obtain ⟨rfl, rfl⟩ := Prod.mk.inj (Option.some.inj h)
    exact ⟨rfl, by simp⟩
  · split at h
    · obtain ⟨rfl, rfl⟩ := Prod.mk.inj (Option.some.inj h)
      exact ⟨rfl, by simp⟩
    · simp only at h
      split at h
      · obtain ⟨rfl, rfl⟩ := Prod.mk.inj (Option.some.inj h)
        exact ⟨hreleased.service_state, by simp [hreleased.revision]⟩
      · obtain ⟨decision, -, h⟩ := Option.bind_eq_some_iff.1 h
        obtain ⟨hstate, hrevision⟩ := record_decision_passedOn h
        exact ⟨hstate.trans hreleased.service_state, hrevision.trans hreleased.revision⟩

theorem evaluate_section_evaluated {config : EffectiveConfig} {state after : RuntimeState} {now : DateTime}
    {conditions : SystemConditions} {action : ScheduleAction} (hp : state.activity.restores_running = false)
    (h : evaluate_section config state now conditions = some (after, action)) :
    Evaluated config state now after action := by
  have hreleased := release_hold_activity now hp
  unfold evaluate_section evaluate_with at h
  split at h
  · rename_i hu
    obtain ⟨retry, -, h⟩ := Option.bind_eq_some_iff.1 h
    obtain ⟨rfl, rfl⟩ := Prod.mk.inj (Option.some.inj h)
    refine .held (by simp [RuntimeState.update_pending, hu]) (Activity.ext ?_ rfl rfl rfl rfl rfl)
    simp [RuntimeState.activity, RuntimeState.running]
  · rename_i hu
    split at h
    · rename_i hh
      obtain ⟨rfl, rfl⟩ := Prod.mk.inj (Option.some.inj h)
      refine .held (by simp [RuntimeState.update_pending, hh]) (Activity.ext ?_ rfl rfl rfl rfl rfl)
      simp [RuntimeState.activity, RuntimeState.running]
    · rename_i hh
      have hpending : state.update_pending now = false := by simpa [RuntimeState.update_pending, hu] using hh
      simp only at h
      split at h
      · obtain ⟨rfl, rfl⟩ := Prod.mk.inj (Option.some.inj h)
        exact .idle hpending hreleased
      · rename_i hready
        obtain ⟨decision, hd, h⟩ := Option.bind_eq_some_iff.1 h
        rcases record_decision_activity h (Schedule.decide_running hd) with ⟨rfl, ha⟩ | ⟨⟨trigger, rfl⟩, hr, ha⟩
        · exact .idle hpending (ha.trans hreleased)
        · have hop : (release_hold state now).repository_operation = state.repository_operation :=
            congrArg Activity.repository_operation hreleased
          have hm : (release_hold state now).management_operation_active = state.management_operation_active :=
            congrArg Activity.management_operation_active hreleased
          have hs : (release_hold state now).running = state.running := congrArg Activity.running hreleased
          rw [hop, hm] at hready
          simp only [Bool.or_eq_true, Bool.not_eq_true', not_or, Bool.not_eq_true, Bool.not_eq_false] at hready
          obtain ⟨⟨hc, hm⟩, hop⟩ := hready
          refine .started hpending hc hm hop (hs ▸ hr) ?_
          rw [ha, hreleased]

/-! ## Completions -/

@[simp] theorem update_progress_service_state (state : RuntimeState) (progress : BackupProgress) :
    (update_progress state progress).service_state = state.service_state := by
  unfold update_progress
  split <;> rfl

theorem update_progress_activity (state : RuntimeState) (progress : BackupProgress) :
    (update_progress state progress).activity = state.activity := by
  unfold update_progress
  split
  · rename_i hr
    exact Activity.ext hr.symm rfl rfl rfl rfl rfl
  · rfl

theorem begin_retention_section_activity {state : RuntimeState} (mode : RepositoryMode) (prune_interval_days : UInt32)
    (now : DateTime) (h : state.running = true) :
    (begin_retention_section mode prune_interval_days state now).1.activity = state.activity := by
  unfold begin_retention_section
  split
  · rfl
  · exact Activity.ext h.symm rfl rfl rfl rfl rfl

/-- Retention is only planned for a standard repository. -/
theorem begin_retention_plan {runtime : ServiceRuntime} {now : DateTime} {plan : RetentionPlan}
    (h : (runtime.begin_retention now).2 = some plan) : runtime.config.repository.mode = .Standard := by
  unfold ServiceRuntime.begin_retention begin_retention_section at h
  simp only at h
  split at h
  · cases h
  · rename_i hm
    simpa using hm

theorem begin_retention_service_state (runtime : ServiceRuntime) (now : DateTime) :
    (runtime.begin_retention now).1.state.service_state = runtime.state.service_state := by
  unfold ServiceRuntime.begin_retention begin_retention_section
  simp only
  split <;> rfl

theorem record_retention_verification (snapshot : ServiceStateSnapshot) (now : DateTime)
    (outcome : RetentionOutcomeKind) : (record_retention snapshot now outcome).1.verification = snapshot.verification := by
  cases outcome <;> rfl

theorem finish_retention_runtime (runtime : ServiceRuntime) (backup : BackupOutcome) (retention : RetentionOutcomeKind)
    (now : DateTime) (written : Bool) : (runtime.finish_retention backup retention now written).1 = { runtime with
      state := { runtime.state with service_state := (record_retention runtime.state.service_state now retention).1 }
      state_store := (runtime.finish_retention backup retention now written).1.state_store } := by
  unfold ServiceRuntime.finish_retention
  simp only
  rw [save_state_getD]

theorem backup_state_isRunning (kind : BackupOutcomeKind) : (backup_state kind).isRunning = false := by
  cases kind <;> rfl

theorem finish_backup_section_ended {interval_hours : UInt32} {state after : RuntimeState} {now : DateTime}
    {outcome : BackupOutcome} (h : finish_backup_section interval_hours state now outcome = some after) :
    after.activity = { state.activity with running := false } ∧
      after.service_state.verification = state.service_state.verification := by
  unfold finish_backup_section finish_backup_by at h
  simp only at h
  split at h
  · obtain rfl := Option.some.inj h
    exact ⟨Activity.ext (backup_state_isRunning _) rfl rfl rfl rfl rfl, rfl⟩
  · obtain ⟨retry_at, -, rfl⟩ := Option.map_eq_some_iff.1 h
    exact ⟨Activity.ext (backup_state_isRunning _) rfl rfl rfl rfl rfl, rfl⟩

theorem finish_backup_with_ended {interval_hours : UInt32} {runtime after : ServiceRuntime} {now : DateTime}
    {outcome : BackupOutcome} {written : Bool}
    (h : finish_backup_with interval_hours runtime now outcome written = some after) :
    SameConfig runtime after ∧ after.state.activity = { runtime.state.activity with running := false } ∧
      after.state.service_state.verification = runtime.state.service_state.verification := by
  obtain ⟨state, hs, rfl⟩ := Option.map_eq_some_iff.1 h
  obtain ⟨ha, hv⟩ := finish_backup_section_ended hs
  split
  · rw [save_state_getD]
    exact ⟨⟨rfl, rfl, rfl, rfl⟩, ha, hv⟩
  · exact ⟨⟨rfl, rfl, rfl, rfl⟩, ha, hv⟩

/-- How an operation can have ended: only a recorded verification allows backups again. -/
structure OperationEnded (config : EffectiveConfig) (before after : ServiceRuntime) : Prop where
  same_config : SameConfig before after
  activity : ∃ status, status.isRunning = false ∧
    after.state.activity = { before.state.activity with repository_operation := status }
  verified : repository_operation_allows_backup after.state.repository_operation = true →
    after.state.service_state.repository_requires_validation config = false

theorem record_repository_outcome_ended (runtime : ServiceRuntime) (config : EffectiveConfig)
    (operation : RepositoryOperationKind) (completed_at : DateTime) (written : Bool) (outcome : RepositoryOutcomeKind) :
    OperationEnded config runtime (record_repository_outcome runtime config operation completed_at written outcome) := by
  cases outcome with
  | Failed code => exact ⟨⟨rfl, rfl, rfl, rfl⟩, ⟨.Failed operation completed_at code, rfl, rfl⟩, nofun⟩
  | Cancelled => exact ⟨⟨rfl, rfl, rfl, rfl⟩, ⟨.Failed operation completed_at _, rfl, rfl⟩, nofun⟩
  | Succeeded =>
    unfold record_repository_outcome
    simp only
    split
    · exact ⟨⟨rfl, rfl, rfl, rfl⟩, ⟨.Failed operation completed_at _, rfl, rfl⟩, nofun⟩
    · rename_i saved hs
      rw [save_state_eq_some hs]
      exact ⟨⟨rfl, rfl, rfl, rfl⟩, ⟨.Succeeded operation completed_at, rfl, rfl⟩,
        fun _ => ServiceStateSnapshot.mark_repository_verified_requires _ _ _⟩

theorem finish_repository_section_ended {runtime : ServiceRuntime} (config : EffectiveConfig)
    (operation : RepositoryOperationKind) (outcome : RepositoryOutcomeKind) (completed_at : DateTime) (written : Bool)
    (h : runtime.state.repository_operation = .Running operation → runtime.state.running = false) :
    finish_repository_section config runtime operation outcome completed_at written = runtime ∨
      runtime.state.repository_operation = .Running operation ∧ OperationEnded config runtime
        (finish_repository_section config runtime operation outcome completed_at written) := by
  unfold finish_repository_section
  split
  · exact .inl rfl
  · rename_i hop
    have hop : runtime.state.repository_operation = .Running operation := by simpa using hop
    obtain ⟨hc, ⟨status, hs, ha⟩, hv⟩ :=
      record_repository_outcome_ended runtime config operation completed_at written outcome
    have hstate := apply_configuration_status_activity config completed_at ((congrArg Activity.running ha).trans (h hop))
    refine .inr ⟨hop, ⟨hc.1, hc.2, hc.3, hc.4⟩, ⟨status, hs, hstate.trans ha⟩, fun hallowed => ?_⟩
    have hop' := congrArg Activity.repository_operation hstate
    simp only [RuntimeState.activity] at hop'
    simp only [apply_configuration_status_service_state, hop'] at hallowed ⊢
    exact hv hallowed

end ResticPal
