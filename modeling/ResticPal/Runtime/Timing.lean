import ResticPal.Runtime.Decisions
import ResticPal.Runtime.Status
/-!
# The times a runtime keeps

`Timing` is what the schedule is computed from and what is published of it: the
status and its deadline, the recorded instants, and what an update hold has put
aside. There is one lemma here for each function that writes to it, and
`Evaluation` says what an evaluation can leave.
-/

open Lib

namespace ResticPal

@[ext] structure Timing where
  shown : BackupState × Option DateTime
  last_success : Option DateTime
  resumed_at : Option DateTime
  not_before : Option DateTime
  update_hold_until : Option DateTime
  update_hold_previous_status : Option (BackupState × Option DateTime)
  update_install_active : Bool
  manual_requested : Bool
  consecutive_failures : UInt32
  repository_operation : RepositoryOperationStatus

def RuntimeState.timing (state : RuntimeState) : Timing where
  shown := state.shown
  last_success := state.status.last_success
  resumed_at := state.resumed_at
  not_before := state.not_before
  update_hold_until := state.update_hold_until
  update_hold_previous_status := state.update_hold_previous_status
  update_install_active := state.update_install_active
  manual_requested := state.manual_requested
  consecutive_failures := state.consecutive_failures
  repository_operation := state.repository_operation

namespace Timing

def running (t : Timing) : Bool := t.shown.1.isRunning

def ready (t : Timing) : Bool := repository_operation_allows_backup t.repository_operation

/-- Backups are held until `deadline`; the status is put aside, unless one already is. -/
def hold (t : Timing) (deadline : DateTime) (active : Bool) : Timing := { t with
  shown := (.Waiting .Update, some deadline)
  resumed_at := none
  update_hold_until := some deadline
  update_hold_previous_status := t.update_hold_previous_status.or (some t.shown)
  update_install_active := active
  manual_requested := false }

/-- The hold is over, and what was put aside is shown. -/
def restore (t : Timing) : Timing := { t with
  shown := t.update_hold_previous_status.getD t.shown
  update_hold_until := none
  update_hold_previous_status := none
  update_install_active := false }

/-- The hold has expired, and what was put aside is shown if the hold still is. -/
def release (t : Timing) : Timing := { t with
  shown := if t.shown.1 = .Waiting .Update then t.update_hold_previous_status.getD t.shown else t.shown
  update_hold_until := none
  update_hold_previous_status := none }

section Aside

variable {t : Timing} (h : ∀ shown ∈ t.update_hold_previous_status, shown.1.isRunning = false)
include h

/-- The end of a hold brings no running backup back. -/
theorem running_of_restore (hr : t.restore.running = true) : t.running = true := by
  rcases Option.eq_none_or_eq_some t.update_hold_previous_status with hp | ⟨shown, hp⟩
  · simpa [restore, hp, running] using hr
  · have hr : shown.1.isRunning = true := by simpa [restore, hp, running] using hr
    rw [h shown hp] at hr
    cases hr

theorem running_of_release (hr : t.release.running = true) : t.running = true := by
  by_cases hs : t.shown.1 = .Waiting .Update
  · refine running_of_restore h ?_
    simpa [restore, release, hs, running] using hr
  · simpa [release, hs, running] using hr

end Aside

end Timing

/-! ## Configurations -/

section Functions

variable {state : RuntimeState} {config : EffectiveConfig}

theorem transition_state_other (status : ServiceStatus) (next : BackupState) (now : DateTime) :
    transition_state status next now =
      { status with state := next, state_since := (transition_state status next now).state_since } := by
  unfold transition_state
  split
  · rfl
  · rename_i h
    have hs : status.state = next := by simpa using h
    rw [← hs]

theorem apply_configuration_status_unconfigured (now : DateTime) (hc : config.is_configured = false) :
    (apply_configuration_status state config now).timing = { state.timing with
      shown := (.Unconfigured, none)
      not_before := none
      manual_requested := false } := by
  unfold apply_configuration_status configuration_status
  simp only [hc, Bool.false_eq_true, if_false]
  rw [transition_state_other]
  rfl

theorem apply_configuration_status_unready (now : DateTime) (hc : config.is_configured = true)
    (ho : repository_operation_allows_backup state.repository_operation = false) :
    (apply_configuration_status state config now).timing =
      { state.timing with shown := (.Waiting .RepositoryValidation, none) } := by
  unfold apply_configuration_status configuration_status
  simp only [hc, ho, Bool.not_false, if_true]
  rw [transition_state_other]
  rfl

/-- A repository in use gets a new deadline, and a state only where it had none. -/
theorem apply_configuration_status_usable (now : DateTime) (hc : config.is_configured = true)
    (ho : repository_operation_allows_backup state.repository_operation = true) : ∃ next deadline,
      (apply_configuration_status state config now).timing = { state.timing with shown := (next, some deadline) } ∧
      (next = state.timing.shown.1 ∨ next = .Idle) := by
  unfold apply_configuration_status configuration_status
  simp only [hc, ho, Bool.not_true, Bool.false_eq_true, if_true, if_false]
  split
  · rw [transition_state_other]
    exact ⟨_, _, rfl, .inr rfl⟩
  · exact ⟨_, _, rfl, .inl rfl⟩

/-! ## Holds -/

theorem begin_hold_timing (state : RuntimeState) (now deadline : DateTime) (active : Bool) :
    ({ begin_hold state now deadline with update_install_active := active } : RuntimeState).timing =
      state.timing.hold deadline active := by
  unfold begin_hold
  rw [transition_state_other]
  rfl

theorem restore_status_timing (state : RuntimeState) (now : DateTime) :
    (restore_status state now).timing = state.timing.restore := by
  unfold restore_status
  simp only
  split
  · rename_i shown deadline hp
    simp [RuntimeState.timing, Timing.restore, RuntimeState.shown, hp]
  · rename_i hp
    simp [RuntimeState.timing, Timing.restore, RuntimeState.shown, hp]

theorem release_hold_timing (state : RuntimeState) (now : DateTime) :
    (release_hold state now).timing = state.timing.release := by
  unfold release_hold
  simp only
  split
  · rename_i shown deadline hp
    split
    · rename_i hu
      simp [RuntimeState.timing, Timing.release, RuntimeState.shown, hp, hu]
    · rename_i hu
      simp [RuntimeState.timing, Timing.release, RuntimeState.shown, hu]
  · rename_i hp
    simp [RuntimeState.timing, Timing.release, RuntimeState.shown, hp]

/-! ## Evaluations -/

/-- What an evaluation leaves, and what it was decided on. -/
inductive Evaluation (config : EffectiveConfig) (state : RuntimeState) (now : DateTime) (conditions : SystemConditions) :
    Timing → ScheduleAction → Prop
  | pending {deadline : DateTime}
      (held : state.update_install_active = true ∨ state.update_hold_until = some deadline) (later : now < deadline) :
      Evaluation config state now conditions { state.timing with shown := (.Waiting .Update, some deadline) } .None
  /-- Nothing is decided, or a backup runs. -/
  | passed (released : state.update_pending now = false)
      (because : config.is_configured = false ∨ state.management_operation_active = true ∨ state.ready = false ∨
        state.timing.release.running = true) :
      Evaluation config state now conditions state.timing.release .None
  | started {trigger : BackupTrigger} (released : state.update_pending now = false)
      (configured : config.is_configured = true) (ready : state.ready = true)
      (decides : Schedule.decide config.schedule (scheduler_snapshot config (release_hold state now) now conditions) =
        some (.Start trigger)) :
      Evaluation config state now conditions { state.timing.release with
        shown := (.Running .PreparingSnapshot, none)
        resumed_at := none
        not_before := none
        manual_requested := false } (.Start trigger)
  | idle {next : BackupState} {deadline : DateTime} (released : state.update_pending now = false)
      (configured : config.is_configured = true) (ready : state.ready = true)
      (decides : Schedule.decide config.schedule (scheduler_snapshot config (release_hold state now) now conditions) =
        some (.Idle deadline))
      (shows : next = state.timing.release.shown.1 ∧ (∀ reason, next ≠ .Waiting reason) ∨ next = .Idle) :
      Evaluation config state now conditions { state.timing.release with
        shown := (next, some deadline)
        resumed_at := none } .None
  | waiting {trigger : BackupTrigger} {blocker : ScheduleBlocker} {blockers : List ScheduleBlocker}
      {retry_at : Option DateTime} (released : state.update_pending now = false)
      (configured : config.is_configured = true) (ready : state.ready = true)
      (decides : Schedule.decide config.schedule (scheduler_snapshot config (release_hold state now) now conditions) =
        some (.Waiting trigger (blocker :: blockers) retry_at)) :
      Evaluation config state now conditions { state.timing.release with
        shown := (.Waiting (waiting_reason blocker), (retry_at.or state.timing.release.not_before).or (some now)) } .None

theorem evaluate_section_evaluation {now : DateTime} {conditions : SystemConditions} {after : RuntimeState}
    {action : ScheduleAction} (h : evaluate_section config state now conditions = some (after, action)) :
    Evaluation config state now conditions after.timing action := by
  have update (deadline : Option DateTime) : ({ state with
      status := { transition_state state.status (.Waiting .Update) now with next_deadline := deadline } } :
        RuntimeState).timing = { state.timing with shown := (.Waiting .Update, deadline) } := by
    rw [transition_state_other]
    rfl
  unfold evaluate_section evaluate_with at h
  split at h
  · rename_i hactive
    obtain ⟨retry, hretry, h⟩ := Option.bind_eq_some_iff.1 h
    obtain ⟨rfl, rfl⟩ := Prod.mk.inj (Option.some.inj h)
    rw [update]
    refine .pending (.inl hactive) ?_
    rw [DateTime.lt_iff, DateTime.checked_add_signed_eq_some.1 hretry]
    exact Int.lt_add_of_pos_right _ (by decide)
  · rename_i hactive
    split at h
    · rename_i hhold
      obtain ⟨rfl, rfl⟩ := Prod.mk.inj (Option.some.inj h)
      obtain ⟨deadline, hd, hlater⟩ := (Option.any_eq_true _ _).1 hhold
      rw [update, hd]
      exact .pending (.inr hd) (by simpa using hlater)
    · rename_i hhold
      have hreleased : state.update_pending now = false := by simpa [RuntimeState.update_pending, hactive] using hhold
      have htiming := release_hold_timing state now
      have hoperation : (release_hold state now).repository_operation = state.repository_operation :=
        congrArg Timing.repository_operation htiming
      have hmanagement : (release_hold state now).management_operation_active = state.management_operation_active := by
        unfold release_hold
        simp only
        repeat' split
        all_goals rfl
      simp only at h
      split at h
      · rename_i hstops
        obtain ⟨rfl, rfl⟩ := Prod.mk.inj (Option.some.inj h)
        rw [htiming]
        refine .passed hreleased ?_
        rw [hoperation, hmanagement] at hstops
        simp only [Bool.or_eq_true, Bool.not_eq_true'] at hstops
        rcases hstops with (hc | hm) | ho
        · exact .inl hc
        · exact .inr (.inl hm)
        · exact .inr (.inr (.inl ho))
      · rename_i hready
        rw [hoperation] at hready
        simp only [Bool.or_eq_true, Bool.not_eq_true', not_or, Bool.not_eq_true, Bool.not_eq_false] at hready
        obtain ⟨⟨hc, -⟩, ho⟩ := hready
        obtain ⟨decision, hdecision, h⟩ := Option.bind_eq_some_iff.1 h
        cases decision with
        | AlreadyRunning =>
          obtain ⟨rfl, rfl⟩ := Prod.mk.inj (Option.some.inj h)
          rw [htiming]
          refine .passed hreleased (.inr (.inr (.inr ?_)))
          exact (congrArg Timing.running htiming).symm.trans (Schedule.decide_alreadyRunning hdecision)
        | Start trigger =>
          obtain ⟨rfl, rfl⟩ := Prod.mk.inj (Option.some.inj h)
          have := @Evaluation.started config state now conditions trigger hreleased hc ho hdecision
          rw [← htiming] at this
          exact this
        | Idle deadline =>
          obtain ⟨rfl, rfl⟩ := Prod.mk.inj (Option.some.inj h)
          have hidle (next : BackupState) := @Evaluation.idle config state now conditions next deadline hreleased hc ho
            hdecision
          rw [← htiming] at hidle
          simp only
          split
          · rw [transition_state_other]
            exact hidle .Idle (.inr rfl)
          · rename_i hnot
            exact hidle _ (.inl ⟨rfl, hnot⟩)
        | Waiting trigger blockers retry_at =>
          cases blockers with
          | nil => cases h
          | cons blocker blockers =>
            obtain ⟨rfl, rfl⟩ := Prod.mk.inj (Option.some.inj h)
            have := @Evaluation.waiting config state now conditions trigger blocker blockers retry_at hreleased hc ho
              hdecision
            rw [← htiming] at this
            rw [transition_state_other]
            exact this

/-! ## Completions -/

/-- The backoff is between five minutes and a little over five hours, after any number of failures. -/
theorem retry_minutes_bounds (failures : UInt32) : 5 ≤ retry_minutes failures ∧ retry_minutes failures ≤ 320 := by
  have hexp : min (failures.toNat - 1) MAX_FAILURE_BACKOFF_EXPONENT ≤ 6 := Nat.min_le_right _ _
  have hlow : 1 ≤ 2 ^ min (failures.toNat - 1) MAX_FAILURE_BACKOFF_EXPONENT := Nat.one_le_two_pow
  have hhigh : 2 ^ min (failures.toNat - 1) MAX_FAILURE_BACKOFF_EXPONENT ≤ 2 ^ 6 :=
    Nat.pow_le_pow_right (by decide) hexp
  unfold retry_minutes INITIAL_FAILURE_RETRY_MINUTES
  omega

theorem finish_backup_section_timing {interval_hours : UInt32} {now : DateTime} {outcome : BackupOutcome}
    {after : RuntimeState} (h : finish_backup_section interval_hours state now outcome = some after) :
    (outcome.kind.succeeded = true ∧ ∃ deadline, after.timing = { state.timing with
      shown := (backup_state outcome.kind, some deadline)
      last_success := some now
      resumed_at := none
      not_before := none
      consecutive_failures := 0 }) ∨
    (outcome.kind.succeeded = false ∧ ∃ retry_at, now.checked_add_signed
        (retry_minutes (counted_failures state.timing.consecutive_failures outcome.kind) * 60 * 1000000000) = some retry_at ∧
      after.timing = { state.timing with
        shown := (backup_state outcome.kind, some retry_at)
        resumed_at := none
        not_before := some retry_at
        consecutive_failures := counted_failures state.timing.consecutive_failures outcome.kind }) := by
  unfold finish_backup_section finish_backup_by at h
  simp only at h
  split at h
  · rename_i hk
    obtain rfl := Option.some.inj h
    exact .inl ⟨hk, _, rfl⟩
  · rename_i hk
    obtain ⟨retry_at, hretry, rfl⟩ := Option.map_eq_some_iff.1 h
    exact .inr ⟨by simpa using hk, retry_at, hretry, rfl⟩

/-- The save that follows a success does not touch the state in memory. -/
theorem finish_backup_at_section {runtime after : ServiceRuntime} {now : DateTime} {outcome : BackupOutcome}
    {written : Bool} (h : runtime.finish_backup_at now outcome written = some after) :
    finish_backup_section runtime.config.schedule.interval_hours runtime.state now outcome = some after.state ∧
      after.config = runtime.config := by
  obtain ⟨state, hsec, rfl⟩ := Option.map_eq_some_iff.1 h
  dsimp only
  split
  · rw [save_state_getD]
    exact ⟨hsec, rfl⟩
  · exact ⟨hsec, rfl⟩

/-- The outcome of a repository operation is recorded before the status shows it. -/
theorem record_repository_outcome_timing (runtime : ServiceRuntime) (config : EffectiveConfig)
    (operation : RepositoryOperationKind) (completed_at : DateTime) (written : Bool) (outcome : RepositoryOutcomeKind) :
    ∃ status, status.isRunning = false ∧
      (record_repository_outcome runtime config operation completed_at written outcome).state.timing =
        { runtime.state.timing with repository_operation := status } := by
  cases outcome with
  | Failed code => exact ⟨.Failed operation completed_at code, rfl, rfl⟩
  | Cancelled => exact ⟨.Failed operation completed_at "repository_operation_cancelled", rfl, rfl⟩
  | Succeeded =>
    unfold record_repository_outcome
    simp only
    split
    · exact ⟨.Failed operation completed_at "state_save_failed", rfl, rfl⟩
    · rename_i saved hs
      rw [save_state_eq_some hs]
      exact ⟨.Succeeded operation completed_at, rfl, rfl⟩

/-- A resolved configuration may withdraw the repository before the status shows it. -/
theorem install_resolved_applies (runtime : ServiceRuntime) (resolved : ResolvedConfig) (now : DateTime)
    (written : Bool) : ∃ mid status,
      (install_resolved runtime resolved now written).state = apply_configuration_status mid resolved.effective now ∧
      mid.timing = { runtime.state.timing with repository_operation := status } ∧
      (status = runtime.state.repository_operation ∨ status.isRunning = false) := by
  unfold install_resolved
  simp only
  split
  · rw [save_state_getD]
    exact ⟨_, .ValidationRequired, rfl, rfl, .inr rfl⟩
  · exact ⟨_, _, rfl, rfl, .inl rfl⟩

end Functions

end ResticPal
