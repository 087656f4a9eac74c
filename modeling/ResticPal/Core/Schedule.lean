import ResticPal.Core.Config
import ResticPal.Rust.Time
/-!
# The schedule

`resticpal-core/src/schedule.rs`: when the next backup is due, and what a due
backup waits for. The source calls `Duration::seconds`, which panics on a count
a `TimeDelta` cannot hold; `decide` is `none` there.

- `decide_due_iff`: which stored completion times leave a backup due one
  interval after an evaluation.
- `receding_deadline`: a completion recorded in the future keeps the next
  deadline one interval ahead of every evaluation.
-/

namespace ResticPal

structure SchedulerSnapshot where
  now : DateTime
  last_success : Option DateTime
  resumed_at : Option DateTime
  not_before : Option DateTime
  manual_requested : Bool
  backup_running : Bool
  network_required : Bool
  network_available : Bool
  on_battery : Bool
  metered_network : Bool
  deriving DecidableEq

inductive BackupTrigger where
  | Manual
  | Scheduled
  | ResumeCatchUp
  deriving DecidableEq, Repr

inductive ScheduleBlocker where
  | WakeGrace
  | NetworkUnavailable
  | BatteryDisallowed
  | MeteredNetworkDisallowed
  deriving DecidableEq, Repr

inductive ScheduleDecision where
  | AlreadyRunning
  | Idle (next_deadline : DateTime)
  | Waiting (trigger : BackupTrigger) (blockers : List ScheduleBlocker) (retry_at : Option DateTime)
  | Start (trigger : BackupTrigger)
  deriving DecidableEq

namespace Schedule

def completion_deadline (last_success : Option DateTime) (now : DateTime) (interval_hours : UInt32) : DateTime :=
  ((last_success.map (fun completed => min completed now)).bind
    (fun completed => completed.checked_add_signed (Duration.hours interval_hours))).getD now

/-- The deadline `decide` compares `now` with: a deferral moves it, unless a run was requested. -/
def next_deadline (config : ScheduleConfig) (snapshot : SchedulerSnapshot) : DateTime :=
  let scheduled_deadline := completion_deadline snapshot.last_success snapshot.now config.interval_hours
  if snapshot.manual_requested then scheduled_deadline
  else snapshot.not_before.elim scheduled_deadline (max scheduled_deadline)

/-- `i64::try_from(seconds).unwrap_or(i64::MAX)`. -/
def clampSeconds (seconds : UInt64) : Int := min seconds.toNat 9223372036854775807

/-- The end of the grace period after a resume, while it has not passed. -/
def wake_grace (config : ScheduleConfig) (snapshot : SchedulerSnapshot) : Option (Option DateTime) :=
  match snapshot.resumed_at with
  | some resumed_at =>
    if snapshot.manual_requested then some none
    else do
      let grace ← Duration.seconds (clampSeconds config.wake_grace_seconds)
      let grace_end := (resumed_at.checked_add_signed grace).getD snapshot.now
      return if snapshot.now < grace_end then some grace_end else none
  | none => some none

def blockers (config : ScheduleConfig) (snapshot : SchedulerSnapshot) (retry_at : Option DateTime) :
    List ScheduleBlocker :=
  (if retry_at.isSome then [.WakeGrace] else []) ++
  (if snapshot.network_required && !snapshot.network_available then [.NetworkUnavailable] else []) ++
  (if !snapshot.manual_requested && snapshot.on_battery && !config.allow_on_battery then [.BatteryDisallowed]
    else []) ++
  (if snapshot.metered_network && !config.allow_metered_network then [.MeteredNetworkDisallowed] else [])

def decide (config : ScheduleConfig) (snapshot : SchedulerSnapshot) : Option ScheduleDecision :=
  if snapshot.backup_running then some .AlreadyRunning
  else
    let next_deadline := next_deadline config snapshot
    if !(snapshot.manual_requested || next_deadline ≤ snapshot.now) then some (.Idle next_deadline)
    else do
      let trigger := if snapshot.manual_requested then .Manual
        else if snapshot.resumed_at.isSome then .ResumeCatchUp else .Scheduled
      let retry_at ← wake_grace config snapshot
      let blockers := blockers config snapshot retry_at
      return if blockers.isEmpty then .Start trigger else .Waiting trigger blockers retry_at

/-! ## When a backup is due -/

/-- A backup that is due is started or waits; it is not `Idle`. -/
def Due (config : ScheduleConfig) (snapshot : SchedulerSnapshot) : Prop :=
  ∃ decision, decide config snapshot = some decision ∧ ∀ next, decision ≠ .Idle next

/-- An accepted grace period is one a `TimeDelta` holds. -/
theorem wake_grace_isSome {config : EffectiveConfig} (hv : config.validate = .ok ()) (snapshot : SchedulerSnapshot) :
    ∃ retry_at, wake_grace config.schedule snapshot = some retry_at := by
  have hg : config.schedule.wake_grace_seconds.toNat ≤ 86400 := by
    simpa [UInt64.le_iff_toNat_le] using (EffectiveConfig.validate_schedule hv).2.2
  have hd : Duration.seconds (clampSeconds config.schedule.wake_grace_seconds) =
      some (clampSeconds config.schedule.wake_grace_seconds * 1000000000) := by
    refine if_pos ?_
    simp only [clampSeconds, Duration.maxSeconds]
    omega
  unfold wake_grace
  split
  · split
    · exact ⟨_, rfl⟩
    · rw [hd]; exact ⟨_, rfl⟩
  · exact ⟨_, rfl⟩

theorem due_iff {config : EffectiveConfig} (hv : config.validate = .ok ()) {snapshot : SchedulerSnapshot}
    (hr : snapshot.backup_running = false) :
    Due config.schedule snapshot ↔
      snapshot.manual_requested = true ∨ next_deadline config.schedule snapshot ≤ snapshot.now := by
  obtain ⟨retry_at, hw⟩ := wake_grace_isSome hv snapshot
  unfold Due decide
  rw [if_neg (by simp [hr]), hw]
  by_cases hd : (snapshot.manual_requested || next_deadline config.schedule snapshot ≤ snapshot.now) = true
  · simp only [hd]
    refine ⟨fun _ => by simpa using hd, fun _ => ⟨_, rfl, fun next => ?_⟩⟩
    split <;> simp
  · simp only [hd]
    refine ⟨?_, fun h => absurd (by simpa using h) hd⟩
    rintro ⟨_, h, hne⟩
    exact absurd (Option.some.inj h).symm (hne _)

theorem completion_deadline_le_now {last_success : Option DateTime} {now : DateTime} {interval_hours : UInt32}
    (hi : 1 ≤ interval_hours) : completion_deadline last_success now interval_hours ≤ now ↔
      ∀ l ∈ last_success, l.nanos + Duration.hours interval_hours ≤ now.nanos ∨
        DateTime.MAX_UTC.nanos < min l.nanos now.nanos + Duration.hours interval_hours := by
  have hpos : (0 : Int) < Duration.hours interval_hours := by
    have : 1 ≤ interval_hours.toNat := by simpa [UInt32.le_iff_toNat_le] using hi
    simp only [Duration.hours]
    omega
  cases last_success with
  | none => simp [completion_deadline]
  | some l =>
    simp only [completion_deadline, Option.map_some, Option.bind_some, Option.mem_def, Option.some.injEq,
      forall_eq']
    cases hc : (min l now).checked_add_signed (Duration.hours interval_hours) with
    | none =>
      rw [DateTime.checked_add_signed_eq_none (le_of_lt hpos), DateTime.min_nanos] at hc
      simp [hc]
    | some deadline =>
      rw [DateTime.checked_add_signed_eq_some, DateTime.min_nanos] at hc
      have hmax := deadline.le_max
      have hm : DateTime.MAX_UTC.nanos = 8210266876799 * 1000000000 + 999999999 := rfl
      rw [Option.getD_some, DateTime.le_iff, hc, hm]
      omega

/-- A backup is due at an evaluation at least one interval after `t0`, with no
run active and nothing deferred, exactly when a run was requested, none has
succeeded, or the recorded success is itself an interval old (or so close to
the end of time that its deadline does not exist). The deadline of a success
recorded later than that moves with `now`. -/
theorem decide_due_iff {config : EffectiveConfig} (hv : config.validate = .ok ()) {snapshot : SchedulerSnapshot}
    (t0 : DateTime) (_ht : t0.nanos + Duration.hours config.schedule.interval_hours ≤ snapshot.now.nanos)
    (hr : snapshot.backup_running = false) (hn : snapshot.not_before = none) :
    Due config.schedule snapshot ↔ snapshot.manual_requested = true ∨
      ∀ l ∈ snapshot.last_success, l.nanos + Duration.hours config.schedule.interval_hours ≤ snapshot.now.nanos ∨
        DateTime.MAX_UTC.nanos < min l.nanos snapshot.now.nanos + Duration.hours config.schedule.interval_hours := by
  have hd : next_deadline config.schedule snapshot =
      completion_deadline snapshot.last_success snapshot.now config.schedule.interval_hours := by
    simp [next_deadline, hn]
  rw [due_iff hv hr, hd, completion_deadline_le_now (EffectiveConfig.validate_schedule hv).1]

/-- A success recorded at or after `now` puts the deadline one interval after
`now`, whenever that is: every evaluation is idle until the clock catches up. -/
theorem receding_deadline {config : ScheduleConfig} {snapshot : SchedulerSnapshot} {l next : DateTime}
    (hi : 1 ≤ config.interval_hours) (hr : snapshot.backup_running = false) (hn : snapshot.not_before = none)
    (hm : snapshot.manual_requested = false) (hl : snapshot.last_success = some l) (hlate : snapshot.now ≤ l)
    (hnext : snapshot.now.checked_add_signed (Duration.hours config.interval_hours) = some next) :
    decide config snapshot = some (.Idle next) := by
  have hd : next_deadline config snapshot = next := by
    simp [next_deadline, completion_deadline, hm, hn, hl, min_eq_right hlate, hnext]
  have hlt : snapshot.now < next := by
    rw [DateTime.checked_add_signed_eq_some] at hnext
    have : 1 ≤ config.interval_hours.toNat := by simpa [UInt32.le_iff_toNat_le] using hi
    rw [DateTime.lt_iff, hnext, Duration.hours]
    omega
  simp [decide, hr, hd, hm, not_le.2 hlt]

/-- The clock was two days ahead when the last backup completed; one day after
the first evaluation nothing is due. -/
def clockWasAhead : SchedulerSnapshot where
  now := ⟨86400000000000, by decide, by decide⟩
  last_success := some ⟨172800000000000, by decide, by decide⟩
  resumed_at := none
  not_before := none
  manual_requested := false
  backup_running := false
  network_required := false
  network_available := true
  on_battery := false
  metered_network := false

theorem clock_ahead_leaves_unprotected :
    ∃ (config : EffectiveConfig) (t0 : DateTime), config.validate = .ok () ∧
      t0.nanos + Duration.hours config.schedule.interval_hours ≤ clockWasAhead.now.nanos ∧
      clockWasAhead.backup_running = false ∧ clockWasAhead.not_before = none ∧
      ∃ next, decide config.schedule clockWasAhead = some (.Idle next) := by
  refine ⟨{}, .UNIX_EPOCH, by decide, by decide, rfl, rfl, ⟨172800000000000, by decide, by decide⟩, ?_⟩
  exact receding_deadline (by decide) rfl rfl rfl rfl (by decide) (by decide)

theorem due_after_recorded_success :
    Due ({} : EffectiveConfig).schedule
      { clockWasAhead with last_success := some .UNIX_EPOCH } :=
  (decide_due_iff (by decide) .UNIX_EPOCH (by decide) rfl rfl).2 (.inr (by decide))

end Schedule

end ResticPal
