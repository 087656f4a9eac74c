import ResticPal.Runtime.Timing
import ResticPal.System.Frozen
/-!
# Date arithmetic that does not panic

The scheduler mixes checked and unchecked date arithmetic: a duration constructor panics
outside its range, and so do `+` on a date and a duration and the difference of two dates
where the result cannot be represented. `Panicking` has the functions that do such
arithmetic with each operation written out; `none` is a panic.

- `NoPanic.of_valid`: with a valid configuration and a clock two days before the end of
  time, each returns, and what the other modules say it does.
- `System.timestamps_cannot_panic`: so in every run, whatever `state.json` recorded.
-/

open Lib

namespace ResticPal

namespace Panicking

/-! ## Operations -/

/-- `Duration::minutes`. The product of seconds overflows only where they are out of range. -/
def minutes (m : Int) : Option Duration := Duration.seconds (m * 60)

/-- `Duration::hours`. -/
def hours (h : Int) : Option Duration := Duration.seconds (h * 3600)

/-- `Duration::days`. -/
def days (d : Int) : Option Duration := Duration.seconds (d * 86400)

/-- `date + duration`. -/
def add (date : DateTime) (duration : Duration) : Option DateTime := date.checked_add_signed duration

/-- `signed_duration_since`, and `-` on two dates: a `TimeDelta` holds `i64::MAX` milliseconds. -/
def signed_duration_since (date other : DateTime) : Option Duration :=
  let nanos := date.nanos - other.nanos
  if -(9223372036854775807 * 1000000) ≤ nanos ∧ nanos ≤ 9223372036854775807 * 1000000 then some nanos else none

/-! ## The functions -/

def completion_deadline (last_success : Option DateTime) (now : DateTime) (interval_hours : UInt32) : Option DateTime :=
  match last_success with
  | none => some now
  | some completed => do
    let interval ← hours interval_hours.toNat
    return ((min completed now).checked_add_signed interval).getD now

def decide (config : ScheduleConfig) (snapshot : SchedulerSnapshot) : Option ScheduleDecision :=
  if snapshot.backup_running then some .AlreadyRunning
  else do
    let scheduled_deadline ← completion_deadline snapshot.last_success snapshot.now config.interval_hours
    let next_deadline := if snapshot.manual_requested then scheduled_deadline
      else snapshot.not_before.elim scheduled_deadline (max scheduled_deadline)
    if !(snapshot.manual_requested || next_deadline ≤ snapshot.now) then return .Idle next_deadline
    else
      let trigger := if snapshot.manual_requested then .Manual
        else if snapshot.resumed_at.isSome then .ResumeCatchUp else .Scheduled
      let retry_at ← Schedule.wake_grace config snapshot
      let blockers := Schedule.blockers config snapshot retry_at
      return if blockers.isEmpty then .Start trigger else .Waiting trigger blockers retry_at

def evaluate_section (config : EffectiveConfig) (state : RuntimeState) (now : DateTime)
    (conditions : SystemConditions) : Option (RuntimeState × ScheduleAction) :=
  evaluate_with ((Duration.seconds CONDITION_RETRY_SECONDS.toNat).bind (add now)) (decide config.schedule) config state now
    conditions

def evaluate_schedule (runtime : ServiceRuntime) (now : DateTime) (conditions : SystemConditions) :
    Option (ServiceRuntime × ScheduleAction) :=
  (evaluate_section runtime.config runtime.state now conditions).map
    (fun evaluated => ({ runtime with state := evaluated.1 }, evaluated.2))

/-- In milliseconds, as they are before they become a `StdDuration`. -/
def next_evaluation_delay (state : RuntimeState) (now : DateTime) : Option Int :=
  if state.management_operation_active then some (CONDITION_RETRY_SECONDS.toNat * 1000)
  else match state.status.state with
    | .Waiting .Network | .Waiting .Battery | .Waiting .MeteredNetwork => some (CONDITION_RETRY_SECONDS.toNat * 1000)
    | _ => match state.status.next_deadline with
      | none => some (60 * 60 * 1000)
      | some deadline => do
        let left ← signed_duration_since deadline now
        let milliseconds := max (Duration.num_milliseconds left) 0
        return if 0 ≤ milliseconds ∧ milliseconds < 2 ^ 64 then milliseconds else 2 ^ 64 - 1

/-- The deadline is computed where the service is configured and ready. -/
def apply_configuration_status (state : RuntimeState) (config : EffectiveConfig) (now : DateTime) : Option RuntimeState :=
  if config.is_configured && repository_operation_allows_backup state.repository_operation then
    (completion_deadline state.status.last_success now config.schedule.interval_hours).map
      (configuration_status state config now)
  else some (configuration_status state config now now)

def begin_retention (runtime : ServiceRuntime) (now : DateTime) : Option (ServiceRuntime × Option RetentionPlan) :=
  if runtime.config.repository.mode ≠ .Standard then some (runtime, none)
  else do
    let prune_interval ← days runtime.config.retention.prune_interval_days.toNat
    let prune_due ← match runtime.state.service_state.last_prune with
      | none => some true
      | some last_prune => (signed_duration_since now last_prune).map (prune_interval ≤ ·)
    return ({ runtime with state := { runtime.state with
      status := { runtime.state.status with state := .Running .Retention, state_since := now, progress := none } } },
      some { prune_due })

def finish_backup_section (interval_hours : UInt32) (state : RuntimeState) (now : DateTime) (outcome : BackupOutcome) :
    Option RuntimeState :=
  finish_backup_by (completion_deadline (some now) now interval_hours)
    (fun failures => (minutes (retry_minutes failures)).bind (add now)) state now outcome

def finish_backup_at (runtime : ServiceRuntime) (now : DateTime) (outcome : BackupOutcome) (written : Bool) :
    Option ServiceRuntime :=
  (finish_backup_section runtime.config.schedule.interval_hours runtime.state now outcome).map fun state =>
    let runtime := { runtime with state }
    if outcome.kind.succeeded then (runtime.save_state state.service_state written).getD runtime else runtime

/-! ## Operations in range -/

theorem hours_eq (h : UInt32) : hours h.toNat = some (Duration.hours h) := by
  have hlt := h.toNat_lt
  refine if_pos ?_
  unfold Duration.maxSeconds
  omega

theorem days_eq (d : UInt32) : days d.toNat = some (Duration.days d) := by
  have hlt := d.toNat_lt
  refine if_pos ?_
  unfold Duration.maxSeconds
  omega

/-- Two representable dates are never too far apart. -/
theorem signed_duration_since_eq (date other : DateTime) :
    signed_duration_since date other = some (date.signed_duration_since other) := by
  have hdate := date.min_le
  have hdate' := date.le_max
  have hother := other.min_le
  have hother' := other.le_max
  exact if_pos ⟨by omega, by omega⟩

theorem add_eq {date : DateTime} {duration : Int} (hnonneg : 0 ≤ duration)
    (h : date.nanos + duration ≤ DateTime.MAX_UTC.nanos) : ∃ sum, add date duration = some sum := by
  cases hadd : date.checked_add_signed duration with
  | none => exact absurd ((DateTime.checked_add_signed_eq_none hnonneg).1 hadd) (Int.not_lt.2 h)
  | some sum => exact ⟨sum, hadd⟩

/-! ## The functions return -/

theorem completion_deadline_eq (last_success : Option DateTime) (now : DateTime) (interval_hours : UInt32) :
    completion_deadline last_success now interval_hours =
      some (Schedule.completion_deadline last_success now interval_hours) := by
  cases last_success with
  | none => rfl
  | some completed =>
    unfold completion_deadline
    rw [hours_eq]
    rfl

theorem decide_eq (config : ScheduleConfig) (snapshot : SchedulerSnapshot) :
    decide config snapshot = Schedule.decide config snapshot := by
  unfold decide Schedule.decide
  split
  · rfl
  · rw [completion_deadline_eq]
    rfl

/-- A difference of dates is a number of milliseconds that a `StdDuration` holds. -/
theorem num_milliseconds_lt (date other : DateTime) :
    Duration.num_milliseconds (date.signed_duration_since other) < 2 ^ 64 := by
  have hdate := date.le_max
  have hother := other.min_le
  have hle : date.nanos - other.nanos < 2 ^ 64 * 1000000 := by omega
  unfold Duration.num_milliseconds DateTime.signed_duration_since
  rcases Int.le_total 0 (date.nanos - other.nanos) with h | h
  · rw [Int.tdiv_eq_ediv_of_nonneg h]
    omega
  · have hneg : (-(date.nanos - other.nanos)).tdiv 1000000 = -(date.nanos - other.nanos).tdiv 1000000 :=
      Int.neg_tdiv _ _
    rw [Int.tdiv_eq_ediv_of_nonneg (by omega)] at hneg
    omega

theorem next_evaluation_delay_eq (runtime : ServiceRuntime) (now : DateTime) :
    next_evaluation_delay runtime.state now = some (runtime.next_evaluation_delay now : Int) := by
  have hdeadline : (match runtime.state.status.next_deadline with
      | none => some (60 * 60 * 1000)
      | some deadline => do
        let left ← signed_duration_since deadline now
        let milliseconds := max (Duration.num_milliseconds left) 0
        return if 0 ≤ milliseconds ∧ milliseconds < 2 ^ 64 then milliseconds else 2 ^ 64 - 1) =
      some ((runtime.state.status.next_deadline.elim (60 * 60 * 1000)
        (fun deadline => (Duration.num_milliseconds (deadline.signed_duration_since now)).toNat) : Nat) : Int) := by
    cases runtime.state.status.next_deadline with
    | none => rfl
    | some deadline =>
      have hlt := num_milliseconds_lt deadline now
      dsimp only
      rw [signed_duration_since_eq, Option.elim_some]
      show some (if _ then _ else _) = _
      rw [if_pos (by omega), Int.toNat_eq_max]
  unfold next_evaluation_delay ServiceRuntime.next_evaluation_delay
  split
  · rfl
  · cases runtime.state.status.state with
    | Waiting reason =>
      cases reason with
      | Network | Battery | MeteredNetwork => rfl
      | _ => exact hdeadline
    | _ => exact hdeadline

theorem apply_configuration_status_eq (state : RuntimeState) (config : EffectiveConfig) (now : DateTime) :
    apply_configuration_status state config now = some (ResticPal.apply_configuration_status state config now) := by
  unfold apply_configuration_status ResticPal.apply_configuration_status
  split
  · rw [completion_deadline_eq]
    rfl
  · rename_i hidle
    rw [Bool.and_eq_true, not_and, Bool.not_eq_true] at hidle
    unfold configuration_status
    by_cases hconfigured : config.is_configured = true
    · simp [hconfigured, hidle hconfigured]
    · simp [hconfigured]

theorem begin_retention_eq (runtime : ServiceRuntime) (now : DateTime) :
    begin_retention runtime now = some (runtime.begin_retention now) := by
  unfold begin_retention ServiceRuntime.begin_retention begin_retention_section
  split
  · rfl
  · rw [days_eq]
    cases runtime.state.service_state.last_prune with
    | none => rfl
    | some last_prune =>
      dsimp only
      rw [signed_duration_since_eq]
      rfl

/-- A valid configuration decides, and waits for something if it waits. -/
theorem decide_returns {config : EffectiveConfig} (hvalid : config.validate = .ok ()) (snapshot : SchedulerSnapshot) :
    ∃ decision, Schedule.decide config.schedule snapshot = some decision ∧
      ∀ trigger blockers retry_at, decision = .Waiting trigger blockers retry_at → blockers ≠ [] := by
  obtain ⟨retry_at, hwake⟩ := Schedule.wake_grace_isSome hvalid snapshot
  unfold Schedule.decide
  dsimp only
  split
  · exact ⟨_, rfl, by simp⟩
  · split
    · exact ⟨_, rfl, by simp⟩
    · rw [hwake]
      refine ⟨_, rfl, ?_⟩
      intro trigger blockers retry hwaiting
      split at hwaiting
      · cases hwaiting
      · rename_i hne
        obtain ⟨-, rfl, -⟩ := ScheduleDecision.Waiting.inj hwaiting
        simpa using hne

/-- A wait for an update is a minute long. -/
theorem evaluate_section_eq {now : DateTime} (hnow : now.nanos + 60 * 1000000000 ≤ DateTime.MAX_UTC.nanos)
    {config : EffectiveConfig} (hvalid : config.validate = .ok ()) (state : RuntimeState) (conditions : SystemConditions) :
    ∃ evaluated, evaluate_section config state now conditions = some evaluated ∧
      ResticPal.evaluate_section config state now conditions = some evaluated := by
  have hequal : evaluate_section config state now conditions = ResticPal.evaluate_section config state now conditions := by
    unfold evaluate_section ResticPal.evaluate_section
    rw [funext (decide_eq config.schedule)]
    rfl
  suffices hsome : ∃ evaluated, ResticPal.evaluate_section config state now conditions = some evaluated by
    obtain ⟨evaluated, hevaluated⟩ := hsome
    exact ⟨evaluated, hequal.trans hevaluated, hevaluated⟩
  unfold ResticPal.evaluate_section evaluate_with
  split
  · obtain ⟨retry, hretry⟩ := add_eq (by decide) hnow
    have hretry : now.checked_add_signed (CONDITION_RETRY_SECONDS.toNat * 1000000000) = some retry := hretry
    rw [hretry]
    exact ⟨_, rfl⟩
  · split
    · exact ⟨_, rfl⟩
    · dsimp only
      split
      · exact ⟨_, rfl⟩
      · obtain ⟨decision, hdecision, hblockers⟩ := decide_returns hvalid
          (scheduler_snapshot config (release_hold state now) now conditions)
        rw [hdecision]
        cases decision with
        | Waiting trigger blockers retry_at =>
          obtain ⟨blocker, rest, rfl⟩ := List.exists_cons_of_ne_nil (hblockers trigger blockers retry_at rfl)
          exact ⟨_, rfl⟩
        | _ => exact ⟨_, rfl⟩

/-- The longest backoff is 320 minutes. -/
theorem retry_eq {now : DateTime} (hnow : now.nanos + 320 * 60 * 1000000000 ≤ DateTime.MAX_UTC.nanos)
    (consecutive_failures : UInt32) :
    ∃ delay retry_at, minutes (retry_minutes consecutive_failures) = some delay ∧ add now delay = some retry_at ∧
      now.checked_add_signed (retry_minutes consecutive_failures * 60 * 1000000000) = some retry_at := by
  have hminutes := (retry_minutes_bounds consecutive_failures).2
  obtain ⟨retry_at, hretry⟩ : ∃ sum, add now (retry_minutes consecutive_failures * 60 * 1000000000) = some sum :=
    add_eq (by omega) (by omega)
  refine ⟨_, retry_at, if_pos ?_, hretry, hretry⟩
  unfold Duration.maxSeconds
  omega

theorem finish_backup_at_eq {now : DateTime} (hnow : now.nanos + 320 * 60 * 1000000000 ≤ DateTime.MAX_UTC.nanos)
    (runtime : ServiceRuntime) (outcome : BackupOutcome) (written : Bool) :
    ∃ after, finish_backup_at runtime now outcome written = some after ∧
      runtime.finish_backup_at now outcome written = some after := by
  have hsection : ∃ state, finish_backup_section runtime.config.schedule.interval_hours runtime.state now outcome = some state ∧
      ResticPal.finish_backup_section runtime.config.schedule.interval_hours runtime.state now outcome = some state := by
    unfold finish_backup_section ResticPal.finish_backup_section finish_backup_by
    dsimp only
    split
    · rw [completion_deadline_eq]
      exact ⟨_, rfl, rfl⟩
    · obtain ⟨delay, retry_at, hdelay, hretry, hchecked⟩ := retry_eq hnow
        (counted_failures runtime.state.consecutive_failures outcome.kind)
      rw [hdelay, hchecked, Option.bind_some, hretry]
      exact ⟨_, rfl, rfl⟩
  obtain ⟨state, hpanicking, hmodel⟩ := hsection
  refine ⟨_, by rw [finish_backup_at, hpanicking]; rfl, ?_⟩
  rw [ServiceRuntime.finish_backup_at, finish_backup_with, hmodel]
  rfl

end Panicking

/-! ## In every run -/

/-- The clock is at least two days before the last representable date. -/
def Margin (now : DateTime) : Prop := now.nanos + 2 * 86400 * 1000000000 ≤ DateTime.MAX_UTC.nanos

/-- None of the functions panics, and each returns what it does in the other modules. -/
structure NoPanic (runtime : ServiceRuntime) (now : DateTime) : Prop where
  completion_deadline : ∀ last_success,
    Panicking.completion_deadline last_success now runtime.config.schedule.interval_hours =
      some (Schedule.completion_deadline last_success now runtime.config.schedule.interval_hours)
  decide : ∀ snapshot, ∃ decision, Panicking.decide runtime.config.schedule snapshot = some decision ∧
    Schedule.decide runtime.config.schedule snapshot = some decision
  evaluate_schedule : ∀ conditions, ∃ evaluated, Panicking.evaluate_schedule runtime now conditions = some evaluated ∧
    runtime.evaluate_schedule now conditions = some evaluated
  next_evaluation_delay : ∃ delay, Panicking.next_evaluation_delay runtime.state now = some delay ∧ 0 ≤ delay ∧
    delay = runtime.next_evaluation_delay now
  apply_configuration_status : ∀ state config, Panicking.apply_configuration_status state config now =
    some (apply_configuration_status state config now)
  begin_retention : Panicking.begin_retention runtime now = some (runtime.begin_retention now)
  finish_backup_at : ∀ outcome written, ∃ after, Panicking.finish_backup_at runtime now outcome written = some after ∧
    runtime.finish_backup_at now outcome written = some after

theorem NoPanic.of_valid {runtime : ServiceRuntime} {now : DateTime} (hvalid : runtime.config.validate = .ok ())
    (hnow : Margin now) : NoPanic runtime now where
  completion_deadline last_success := Panicking.completion_deadline_eq last_success now _
  decide snapshot := by
    obtain ⟨decision, hdecision, -⟩ := Panicking.decide_returns hvalid snapshot
    exact ⟨decision, (Panicking.decide_eq _ _).trans hdecision, hdecision⟩
  evaluate_schedule conditions := by
    have hminute : now.nanos + 60 * 1000000000 ≤ DateTime.MAX_UTC.nanos := by
      unfold Margin at hnow
      omega
    obtain ⟨evaluated, hpanicking, hmodel⟩ := Panicking.evaluate_section_eq hminute hvalid runtime.state conditions
    refine ⟨({ runtime with state := evaluated.1 }, evaluated.2), ?_, ?_⟩
    · rw [Panicking.evaluate_schedule, hpanicking]
      rfl
    · rw [ServiceRuntime.evaluate_schedule, hmodel]
      rfl
  next_evaluation_delay :=
    ⟨_, Panicking.next_evaluation_delay_eq runtime now, Int.natCast_nonneg _, rfl⟩
  apply_configuration_status state config := Panicking.apply_configuration_status_eq state config now
  begin_retention := Panicking.begin_retention_eq runtime now
  finish_backup_at outcome written := by
    refine Panicking.finish_backup_at_eq ?_ runtime outcome written
    unfold Margin at hnow
    omega

namespace System

/-- Whatever configuration the service loads and whatever dates it finds in `state.json`: in
every state of every run, no date arithmetic of the scheduler panics at a clock reading
two days before the end of time, and the wait for the next evaluation is not negative. -/
theorem timestamps_cannot_panic {ext : External} {s₀ t : System} {ls : List Label} {ok : System → Label → Prop}
    (h₀ : Starts ext s₀) (h : Run (step ext) ok s₀ ls t) {now : DateTime} (hnow : Margin now) : NoPanic t.runtime now := by
  obtain ⟨-, hfrozen⟩ := run_inv Frozen (fun _ _ _ hsound hi _ hs => hi.step hsound hs) h₀ h₀.frozen h
  exact .of_valid hfrozen.valid hnow

namespace LastDays

/-- Dates from both ends of time. -/
def recorded : ServiceStateSnapshot :=
  { HomeDevice.verified with
    last_success := some .MAX_UTC
    last_retention := some .MAX_UTC
    last_prune := some ⟨-8334601228800 * 1000000000, Int.le_refl _, DateTime.MAX_UTC.min_le⟩
    verified_at := some .MAX_UTC }

def started : System := ⟨HomeDevice.loaded recorded, .UNIX_EPOCH, none, false, false, none⟩

/-- Two days before the end of time. -/
def latest : DateTime := ⟨DateTime.MAX_UTC.nanos - 2 * 86400 * 1000000000, by decide, by decide⟩

/-- A backup that is asked for then, and fails. -/
def labels : List Label :=
  [.request .RunBackupNow true (.quiet latest), .evaluate latest HomeDevice.conditions, .copyConfig,
    .endBackup (.failed "restic_failed") latest, .finishBackup latest true]

theorem latest_does_not_panic : Starts External.inert started ∧ Margin latest ∧
    ∃ t, Run (step External.inert) (fun _ _ => True) started labels t ∧ t.runtime.state.consecutive_failures = 1 ∧
      NoPanic t.runtime latest := by
  have hstarts : Starts External.inert started := .loaded _ _ _ _ (HomeDevice.loaded_loads recorded)
  have hmargin : Margin latest := by
    show _ ≤ _
    decide
  have hrun : Run (step External.inert) (fun _ _ => True) started labels _ := .of_isSome (by decide)
  exact ⟨hstarts, hmargin, _, hrun, by decide, timestamps_cannot_panic hstarts hrun hmargin⟩

end LastDays

end System

end ResticPal
