import ResticPal.System.Frozen
import ResticPal.System.Timing
/-!
# The pace of unattended backups

- `unattended_backups_are_paced`: after a backup has ended, the next one that
  nobody asks for starts an interval after a success, and after a failure or a
  cancellation no earlier than a backoff that doubles with every failure.

`Kept` is what no event but a request touches until the next start, and `Tally`
counts the failures that the backoff is computed from.
-/

open Lib

namespace ResticPal

/-- The requests by which a user moves the next backup. -/
def RequestCommand.attends : RequestCommand → Bool
  | .RunBackupNow | .DeferBackup _ => true
  | _ => false

/-- A request to move the next backup that the event loop could be told of, and
that was refused all the same, has done nothing. -/
theorem refused_attendance {ext : External} {runtime : ServiceRuntime} {command : RequestCommand} {elevated : Bool}
    {io : RequestIo} (hc : command.attends = true) (ho : io.receiver_open = true)
    (hr : (runtime.handle_request ext command elevated io).2.isAccepted = false) :
    (runtime.handle_request ext command elevated io).1 = runtime := by
  have sent (message : String) : (send_event io message).isAccepted = true := by
    rw [send_event, if_pos ho]
    rfl
  have hhandled := handle_request_handled ext runtime command elevated io
  generalize runtime.handle_request ext command elevated io = after at hhandled hr ⊢
  cases hhandled with
  | unchanged => rfl
  | requested | deferred =>
    rw [sent] at hr
    cases hr
  | _ => cases hc

namespace System

variable {ext : External} {s u : System} {l : Label} {now : DateTime}

/-! ## Until the next start -/

/-- Nobody asks for a backup, and nothing but the schedule stands between the
service and the next one. A request that cannot be sent to the event loop is one
after which nothing is started any more. -/
def Unattended (ext : External) (s : System) (l : Label) : Prop :=
  s.runtime.state.running = false ∧ s.runtime.config.is_configured = true ∧
    match l with
    | .request command elevated io => io.receiver_open = true ∧
      (command.attends = true → (s.runtime.handle_request ext command elevated io).2.isAccepted = false)
    | _ => True

/-- No run is requested, and the last success and the time before which none starts are as they were. -/
def Kept (last_success not_before : Option DateTime) (s : System) : Prop :=
  s.runtime.config.is_configured = true → s.runtime.state.running = false →
    s.runtime.state.manual_requested = false ∧ s.runtime.state.status.last_success = last_success ∧
      s.runtime.state.not_before = not_before

theorem Kept.step {last_success not_before : Option DateTime} (h : Kept last_success not_before s) (hsound : Sound s)
    (hl : Unattended ext s l) (hs : step ext s l = some u) : Kept last_success not_before u := by
  obtain ⟨hr, hc, hrequest⟩ := hl
  obtain ⟨hm, hlast, hnot⟩ := h hc hr
  by_cases hattends : ∃ command elevated io, l = .request command elevated io ∧ command.attends = true
  · obtain ⟨command, elevated, io, rfl, ha⟩ := hattends
    have hsame := refused_attendance ha hrequest.1 (hrequest.2 ha)
    cases step_ran hs with
    | request _ =>
      unfold Kept
      dsimp only
      rw [hsame]
      exact h
  have hretimed := step_retimed hsound hs
  suffices u.runtime.config.is_configured = true → u.runtime.state.timing.running = false →
      u.runtime.state.timing.manual_requested = false ∧ u.runtime.state.timing.last_success = last_success ∧
        u.runtime.state.timing.not_before = not_before from this
  generalize u.runtime.config = config, u.runtime.state.timing = timing at hretimed
  intro hconfigured hrunning
  cases hretimed with
  | same | unready | rescheduled | occupied | restored | installed | resumed => exact ⟨hm, hlast, hnot⟩
  | unconfigured _ _ _ hunconfigured =>
    rw [hunconfigured] at hconfigured
    cases hconfigured
  | requested => exact absurd ⟨_, _, _, rfl, rfl⟩ hattends
  | deferred => exact absurd ⟨_, _, _, rfl, rfl⟩ hattends
  | held | abandoned => exact ⟨rfl, hlast, hnot⟩
  | working _ running =>
    rw [hr] at running
    cases running
  | succeeded worker | failed worker =>
    have := hsound.running_of_worker worker
    rw [hr] at this
    cases this
  | evaluated evaluation =>
    cases evaluation with
    | pending | passed | idle | waiting => exact ⟨hm, hlast, hnot⟩
    | started => cases hrunning

/-- The start of a backup that nobody asked for is due by the schedule and by the backoff. -/
theorem Kept.start {last_success not_before : Option DateTime} {conditions : SystemConditions} {after : ServiceRuntime}
    {trigger : BackupTrigger} (h : Kept last_success not_before s) (hsound : Sound s)
    (hv : s.runtime.config.validate = .ok ())
    (hs : s.runtime.evaluate_schedule now conditions = some (after, .Start trigger)) :
    (∀ completed ∈ last_success,
      completed.nanos + Duration.hours s.runtime.config.schedule.interval_hours ≤ now.nanos ∨
        DateTime.MAX_UTC.nanos < min completed.nanos now.nanos + Duration.hours s.runtime.config.schedule.interval_hours) ∧
    ∀ retry_at ∈ not_before, retry_at ≤ now := by
  obtain ⟨⟨state, action⟩, hsec, heq⟩ := Option.map_eq_some_iff.1 hs
  obtain ⟨-, rfl⟩ := Prod.mk.inj heq
  obtain ⟨hc, hr⟩ : s.runtime.config.is_configured = true ∧ s.runtime.state.running = false := by
    cases evaluate_section_evaluated hsound.exclusive.restores hsec with
    | started _ hc _ _ hr _ => exact ⟨hc, hr⟩
  obtain ⟨hm, hlast, hnot⟩ := h hc hr
  have hevaluation := evaluate_section_evaluation hsec
  generalize state.timing = timing at hevaluation
  cases hevaluation with
  | started _ _ _ decides =>
    obtain ⟨-, hdue, -, -⟩ := Schedule.decide_start_iff.1 ⟨trigger, decides⟩
    have hreleased := release_hold_timing s.runtime.state now
    have hm : (release_hold s.runtime.state now).manual_requested = false :=
      (congrArg Timing.manual_requested hreleased).trans hm
    have hlast : (release_hold s.runtime.state now).status.last_success = last_success :=
      (congrArg Timing.last_success hreleased).trans hlast
    have hnot : (release_hold s.runtime.state now).not_before = not_before :=
      (congrArg Timing.not_before hreleased).trans hnot
    have hdue := hdue.resolve_left (by simp [scheduler_snapshot, hm])
    simp only [Schedule.next_deadline, scheduler_snapshot, hm, hlast, hnot, Bool.false_eq_true, if_false] at hdue
    have hi := (EffectiveConfig.validate_schedule hv).1
    cases hn : not_before with
    | none =>
      rw [hn] at hdue
      exact ⟨(Schedule.completion_deadline_le_now hi).1 hdue, fun _ hnone => by cases hnone⟩
    | some retry_at =>
      rw [hn] at hdue
      obtain ⟨hscheduled, hretry⟩ := max_le_iff.1 hdue
      refine ⟨(Schedule.completion_deadline_le_now hi).1 hscheduled, fun _ hsome => ?_⟩
      obtain rfl := Option.some.inj hsome
      exact hretry

/-! ## Until a backup has ended -/

/-- Nobody can ask for a backup while one runs. -/
def Unasked (t : Timing) : Prop := t.running = true → t.manual_requested = false

theorem Unasked.step (h : Unasked s.runtime.state.timing) (hsound : Sound s) (hs : step ext s l = some u) :
    Unasked u.runtime.state.timing := by
  have aside : ∀ shown ∈ s.runtime.state.timing.update_hold_previous_status, shown.1.isRunning = false := by
    intro shown hp
    have hrestores := hsound.exclusive.restores
    have hp : s.runtime.state.update_hold_previous_status = some shown := hp
    simpa [RuntimeState.activity, hp] using hrestores
  have hretimed := step_retimed hsound hs
  generalize u.runtime.config = config, u.runtime.state.timing = timing at hretimed ⊢
  intro hr
  cases hretimed with
  | same | occupied | installed | resumed => exact h hr
  | unconfigured | deferred | held | abandoned => rfl
  | unready => cases hr
  | rescheduled _ _ changeable _ _ shows =>
    rcases shows with rfl | rfl
    · have hr : s.runtime.state.running = true := hr
      rw [changeable.running] at hr
      cases hr
    · cases hr
  | requested running =>
    have hr : s.runtime.state.running = true := hr
    rw [running] at hr
    cases hr
  | restored => exact h (Timing.running_of_restore aside hr)
  | working _ running => exact h running
  | succeeded _ _ | failed _ _ _ =>
    have hr : (backup_state _).isRunning = true := hr
    rw [backup_state_isRunning] at hr
    cases hr
  | evaluated evaluation =>
    cases evaluation with
    | pending | waiting => cases hr
    | started => rfl
    | @idle _ _ _ _ _ decides =>
      have hm : (release_hold s.runtime.state _).manual_requested = false := (Schedule.decide_idle decides).2.1
      exact (congrArg Timing.manual_requested (release_hold_timing s.runtime.state _)).symm.trans hm
    | passed => exact h (Timing.running_of_release aside hr)

/-- The outcome that is about to be recorded. -/
def outcome (s : System) : Option BackupOutcome :=
  match s.backup with
  | some ⟨_, .finished outcome⟩ => some outcome
  | _ => none

end System

/-- The failures since the last success, after one more run. A cancelled one is not counted. -/
def tally (failures : Nat) : BackupOutcomeKind → Nat
  | .Succeeded | .SucceededWithWarnings => 0
  | .Failed _ => failures + 1
  | .Cancelled => failures

/-- The service, with the failures since the last success or the start of the service. -/
structure Tally where
  system : System
  failures : Nat

namespace Tally

variable {ext : External} {s u : Tally} {l : Label}

/-- The failures after a step. -/
def failures_at (s : Tally) : Label → Nat
  | .finishBackup _ _ => s.system.outcome.elim s.failures (fun outcome => tally s.failures outcome.kind)
  | _ => s.failures

theorem failures_at_of_ne (hl : ∀ now written, l ≠ .finishBackup now written) : s.failures_at l = s.failures := by
  cases l with
  | finishBackup now written => exact absurd rfl (hl now written)
  | _ => rfl

def step (ext : External) (s : Tally) (l : Label) : Option Tally :=
  (System.step ext s.system l).map fun after => ⟨after, s.failures_at l⟩

/-- The counter of the runtime saturates, and is right until it does. -/
def Counts (s : Tally) : Prop :=
  s.system.runtime.state.consecutive_failures.toNat = min s.failures (2 ^ 32 - 1)

theorem counted_failures_toNat {counter : UInt32} {failures : Nat} (h : counter.toNat = min failures (2 ^ 32 - 1))
    {kind : BackupOutcomeKind} (hk : kind.succeeded = false) :
    (counted_failures counter kind).toNat = min (tally failures kind) (2 ^ 32 - 1) := by
  cases kind with
  | Succeeded => cases hk
  | SucceededWithWarnings => cases hk
  | Cancelled => exact h
  | Failed code =>
    unfold counted_failures tally
    dsimp only
    split
    · rename_i hfull
      have hfull : counter.toNat = 2 ^ 32 - 1 := by
        rw [hfull]
        rfl
      omega
    · rename_i hfree
      have hfree : counter.toNat ≠ 2 ^ 32 - 1 := fun hfull => hfree (UInt32.toNat_inj.1 hfull)
      have hsum : (counter + 1).toNat = (counter.toNat + 1) % 2 ^ 32 := UInt32.toNat_add counter 1
      rw [hsum]
      omega

/-- A counter that saturates is as good as one that does not. -/
theorem retry_minutes_eq {counter : UInt32} {failures : Nat} (h : counter.toNat = min failures (2 ^ 32 - 1)) :
    retry_minutes counter = 5 * 2 ^ min (failures - 1) 6 := by
  have hexp : min (counter.toNat - 1) 6 = min (failures - 1) 6 := by omega
  unfold retry_minutes INITIAL_FAILURE_RETRY_MINUTES MAX_FAILURE_BACKOFF_EXPONENT
  rw [hexp]

/-- The end of a backup, with the outcome that is recorded. -/
theorem step_finished {s u : System} {now : DateTime} {written : Bool}
    (hs : System.step ext s (.finishBackup now written) = some u) : ∃ outcome, s.outcome = some outcome ∧
      finish_backup_section s.runtime.config.schedule.interval_hours s.runtime.state now outcome = some u.runtime.state := by
  cases System.step_ran hs with
  | @finishedBackup _ _ _ outcome _ worker finishes =>
    refine ⟨outcome, ?_, (finish_backup_at_section finishes).1⟩
    rw [System.outcome, worker]

/-- Nothing but the end of a backup is counted. -/
theorem retimed_failures {s : System} {now : DateTime} {config : EffectiveConfig} {timing : Timing}
    (h : System.Retimed s now l config timing) (hl : ∀ now written, l ≠ .finishBackup now written) :
    timing.consecutive_failures = s.runtime.state.consecutive_failures := by
  cases h with
  | succeeded => exact absurd rfl (hl _ _)
  | failed => exact absurd rfl (hl _ _)
  | evaluated evaluation => cases evaluation <;> rfl
  | _ => rfl

theorem Counts.finished {now : DateTime} {written : Bool} (h : Counts s)
    (hs : step ext s (.finishBackup now written) = some u) : Counts u := by
  obtain ⟨after, hafter, rfl⟩ := Option.map_eq_some_iff.1 hs
  obtain ⟨outcome, houtcome, hsec⟩ := step_finished hafter
  unfold Counts failures_at
  dsimp only
  rw [houtcome, Option.elim_some]
  suffices after.runtime.state.timing.consecutive_failures.toNat = min (tally s.failures outcome.kind) (2 ^ 32 - 1) from this
  rcases finish_backup_section_timing hsec with ⟨hk, deadline, ht⟩ | ⟨hk, retry_at, hretry, ht⟩
  · rw [ht]
    cases hkind : outcome.kind with
    | Succeeded | SucceededWithWarnings => rfl
    | Failed _ | Cancelled =>
      rw [hkind] at hk
      cases hk
  · rw [ht]
    exact counted_failures_toNat h hk

theorem Counts.step (h : Counts s) (hsound : s.system.Sound) (hs : step ext s l = some u) : Counts u := by
  by_cases hl : ∃ now written, l = .finishBackup now written
  · obtain ⟨now, written, rfl⟩ := hl
    exact h.finished hs
  · obtain ⟨after, hafter, rfl⟩ := Option.map_eq_some_iff.1 hs
    have hl : ∀ now written, l ≠ .finishBackup now written := fun now written hl' => hl ⟨now, written, hl'⟩
    have hsame := retimed_failures (System.step_retimed hsound hafter) hl
    unfold Counts
    rw [failures_at_of_ne hl]
    exact (congrArg UInt32.toNat hsame).trans h

theorem Counts.of_starts {s₀ : System} (h : System.Starts ext s₀) : Counts ⟨s₀, 0⟩ ∧ System.Unasked s₀.runtime.state.timing := by
  cases h with
  | loaded config_store credential_store state_store policy_cache load =>
    simp only [load_with_credentials_and_policy, bind_eq_ok, pure_eq_ok] at load
    obtain ⟨loc, -, resolved, -, rfl⟩ := load
    exact ⟨rfl, fun _ => rfl⟩
  | configurationError => exact ⟨rfl, fun _ => rfl⟩

/-- A backup ends at `ended`, and from there to the next start at `now` nobody
asks for one. After a success the start is an interval later, by the interval in
force at the start. After a failure or a cancellation it is five minutes later,
twice that for each failure after the first, up to six times. The counter
saturates, and the backoff it gives is between five minutes and 320. -/
theorem unattended_backups_are_paced {s₀ t : System} {before between : List Label} {ended now : DateTime} {written : Bool}
    {outcome : BackupOutcome} {conditions : SystemConditions} {after : ServiceRuntime} {trigger : BackupTrigger}
    (h₀ : System.Starts ext s₀) (hbefore : Run (step ext) (fun _ _ => True) ⟨s₀, 0⟩ before s)
    (houtcome : s.system.outcome = some outcome) (hended : step ext s (.finishBackup ended written) = some u)
    (hbetween : Run (System.step ext) (System.Unattended ext) u.system between t)
    (hstart : t.runtime.evaluate_schedule now conditions = some (after, .Start trigger)) :
    (outcome.kind.succeeded = true →
      ended.nanos + Duration.hours t.runtime.config.schedule.interval_hours ≤ DateTime.MAX_UTC.nanos →
      ended.nanos + Duration.hours t.runtime.config.schedule.interval_hours ≤ now.nanos) ∧
    (outcome.kind.succeeded = false → ended.nanos + 5 * 2 ^ min (u.failures - 1) 6 * 60 * 1000000000 ≤ now.nanos) ∧
    u.system.runtime.state.consecutive_failures.toNat = min u.failures (2 ^ 32 - 1) ∧
    5 ≤ retry_minutes u.system.runtime.state.consecutive_failures ∧
    retry_minutes u.system.runtime.state.consecutive_failures ≤ 320 := by
  obtain ⟨hsound, hfrozen, hcounts, hunasked⟩ := hbefore.inv
    (fun s => s.system.Sound ∧ s.system.Frozen ∧ Counts s ∧ System.Unasked s.system.runtime.state.timing)
    (fun s l u hi _ hs => by
      obtain ⟨hsound, hfrozen, hcounts, hunasked⟩ := hi
      obtain ⟨after, hafter, rfl⟩ := Option.map_eq_some_iff.1 hs
      exact ⟨hsound.step hafter, hfrozen.step hsound hafter, hcounts.step hsound hs, hunasked.step hsound hafter⟩)
    ⟨h₀.sound, h₀.frozen, Counts.of_starts h₀⟩
  have hcounted := hcounts.finished hended
  obtain ⟨middle, hmiddle, rfl⟩ := Option.map_eq_some_iff.1 hended
  dsimp only at hbetween hcounted ⊢
  obtain ⟨outcome', houtcome', hsec⟩ := step_finished hmiddle
  obtain rfl : outcome = outcome' := Option.some.inj (houtcome.symm.trans houtcome')
  have hrunning : s.system.runtime.state.running = true := by
    cases System.step_ran hmiddle with
    | finishedBackup worker _ => exact hsound.running_of_worker worker
  have hmanual : s.system.runtime.state.manual_requested = false := hunasked hrunning
  have hstarted {last_success not_before : Option DateTime}
      (hlast : middle.runtime.state.timing.last_success = last_success)
      (hnot : middle.runtime.state.timing.not_before = not_before)
      (hm : middle.runtime.state.timing.manual_requested = false) := by
    obtain ⟨hsound, hfrozen, hkept⟩ := hbetween.inv
      (fun s => s.Sound ∧ s.Frozen ∧ System.Kept last_success not_before s)
      (fun s l u hi hl hs => ⟨hi.1.step hs, hi.2.1.step hi.1 hs, hi.2.2.step hi.1 hl hs⟩)
      ⟨hsound.step hmiddle, hfrozen.step hsound hmiddle, fun _ _ => ⟨hm, hlast, hnot⟩⟩
    exact hkept.start hsound hfrozen.valid hstart
  refine ⟨fun hk hmax => ?_, fun hk => ?_, hcounted, retry_minutes_bounds _⟩
  · rcases finish_backup_section_timing hsec with ⟨-, deadline, ht⟩ | ⟨hk', -⟩
    · obtain ⟨hdue, -⟩ := hstarted (by rw [ht]) (by rw [ht]) (by rw [ht]; exact hmanual)
      rcases hdue ended rfl with hdue | hover
      · exact hdue
      · omega
    · rw [hk] at hk'
      cases hk'
  · rcases finish_backup_section_timing hsec with ⟨hk', -⟩ | ⟨-, retry_at, hretry, ht⟩
    · rw [hk] at hk'
      cases hk'
    · obtain ⟨-, hretries⟩ := hstarted (by rw [ht]) (by rw [ht]) (by rw [ht]; exact hmanual)
      have hle := DateTime.le_iff.1 (hretries retry_at rfl)
      rw [DateTime.checked_add_signed_eq_some] at hretry
      have hcounter : middle.runtime.state.consecutive_failures =
          counted_failures s.system.runtime.state.timing.consecutive_failures outcome.kind :=
        congrArg Timing.consecutive_failures ht
      rw [← hcounter, retry_minutes_eq hcounted] at hretry
      push_cast at hretry
      omega

namespace FailedBackup

open System.HomeDevice

/-- A minute after the backup was due, and five minutes after. -/
def soon : DateTime := ⟨(24 * 3600 + 60) * 1000000000, by decide, by decide⟩

def retried : DateTime := ⟨(24 * 3600 + 300) * 1000000000, by decide, by decide⟩

theorem spawned_isSome : (runList (step External.inert) (fun _ _ => True) ⟨started, 0⟩
    [.evaluate due conditions, .spawnFailed]).isSome := by decide

def spawned : Tally := (runList (step External.inert) (fun _ _ => True) ⟨started, 0⟩
  [.evaluate due conditions, .spawnFailed]).get spawned_isSome

theorem ended_isSome : (step External.inert spawned (.finishBackup due true)).isSome := by decide

def ended : Tally := (step External.inert spawned (.finishBackup due true)).get ended_isSome

theorem waits_isSome : (System.step External.inert ended.system (.evaluate soon conditions)).isSome := by decide

def waits : System := (System.step External.inert ended.system (.evaluate soon conditions)).get waits_isSome

theorem retried_isSome : (waits.runtime.evaluate_schedule retried conditions).isSome := by decide

/-- The first failure is retried five minutes later, and not before. -/
theorem first_failure_waits :
    due.nanos + 5 * 2 ^ min (ended.failures - 1) 6 * 60 * 1000000000 ≤ retried.nanos := by
  have hwaits : Run (System.step External.inert) (System.Unattended External.inert) ended.system
      [.evaluate soon conditions] waits :=
    .snoc .nil ⟨by decide, by decide, trivial⟩ (Option.some_get waits_isSome).symm
  have hretried : waits.runtime.evaluate_schedule retried conditions =
      some (((waits.runtime.evaluate_schedule retried conditions).get retried_isSome).1, .Start .Scheduled) := rfl
  exact (unattended_backups_are_paced (.loaded _ _ _ _ (loaded_loads verified)) (.of_isSome spawned_isSome) rfl
    (Option.some_get ended_isSome).symm hwaits hretried).2.1 (by decide)

end FailedBackup

end Tally

end ResticPal
