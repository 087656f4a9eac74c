import ResticPal.System.Frozen
import ResticPal.System.Timing
/-!
# Clock corrections

- `deadline_is_bounded`: an evaluation that decides publishes no deadline further
  away than the interval or a day, whichever is longer, whatever the clock did
  before, if what it reads was not recorded under a later reading.

A success recorded in the future is taken to be one at the evaluation itself. A
deferral, a backoff and a resume are not, and after the clock is put back they
hold backups for as long as it was ahead. An evaluation that decides nothing,
for want of a configuration or a repository or because of an enrollment, leaves
a deadline as it was published, or as an update hold has put it aside.
-/

open Lib

namespace ResticPal

/-! ## The longest wait -/

/-- A day, the longest deferral and the longest grace period. -/
def dayNanos : Int := 24 * 60 * 60 * 1000000000

/-- The longest wait that a configuration allows. -/
def longest_wait (config : EffectiveConfig) : Int := max (Duration.hours config.schedule.interval_hours) dayNanos

namespace Schedule

theorem completion_deadline_le (last_success : Option DateTime) (now : DateTime) (interval_hours : UInt32) :
    (completion_deadline last_success now interval_hours).nanos ≤ now.nanos + Duration.hours interval_hours := by
  have hnonneg : (0 : Int) ≤ Duration.hours interval_hours :=
    Int.mul_nonneg (Int.mul_nonneg (Int.natCast_nonneg _) (by decide)) (by decide)
  unfold completion_deadline
  cases last_success with
  | none => simpa using hnonneg
  | some completed =>
    simp only [Option.map_some, Option.bind_some]
    cases hadd : (min completed now).checked_add_signed (Duration.hours interval_hours) with
    | none => simpa using hnonneg
    | some deadline =>
      rw [DateTime.checked_add_signed_eq_some, DateTime.min_nanos] at hadd
      rw [Option.getD_some]
      omega

theorem next_deadline_le {config : EffectiveConfig} {snapshot : SchedulerSnapshot}
    (h : ∀ deferral ∈ snapshot.not_before, deferral.nanos ≤ snapshot.now.nanos + dayNanos) :
    (next_deadline config.schedule snapshot).nanos ≤ snapshot.now.nanos + longest_wait config := by
  have hscheduled := completion_deadline_le snapshot.last_success snapshot.now config.schedule.interval_hours
  have hinterval : (longest_wait config : Int) ≥ Duration.hours config.schedule.interval_hours := le_max_left _ _
  have hday : dayNanos ≤ longest_wait config := le_max_right _ _
  unfold next_deadline
  simp only
  split
  · omega
  · cases hn : snapshot.not_before with
    | none =>
      simp only [Option.elim]
      omega
    | some deferral =>
      have hdeferral := h deferral hn
      simp only [Option.elim]
      rcases max_choice (completion_deadline snapshot.last_success snapshot.now config.schedule.interval_hours) deferral
        with hmax | hmax
      · rw [hmax]
        omega
      · rw [hmax]
        omega

theorem wake_grace_le {config : EffectiveConfig} (hv : config.validate = .ok ()) {snapshot : SchedulerSnapshot}
    {grace_end : DateTime} (hr : ∀ resumed ∈ snapshot.resumed_at, resumed ≤ snapshot.now)
    (h : wake_grace config.schedule snapshot = some (some grace_end)) :
    grace_end.nanos ≤ snapshot.now.nanos + dayNanos := by
  have hg : config.schedule.wake_grace_seconds.toNat ≤ 86400 := by
    simpa [UInt64.le_iff_toNat_le] using (EffectiveConfig.validate_schedule hv).2.2
  unfold wake_grace at h
  split at h
  · rename_i resumed hresumed
    have hle := DateTime.le_iff.1 (hr resumed hresumed)
    split at h
    · cases h
    · obtain ⟨grace, hgrace, h⟩ := Option.bind_eq_some_iff.1 h
      simp only [pure, Option.some.injEq] at h
      split at h
      · obtain rfl := Option.some.inj h
        have hseconds : (86400 * 1000000000 : Int) ≥ grace := by
          unfold Duration.seconds at hgrace
          split at hgrace
          · obtain rfl := Option.some.inj hgrace
            simp only [clampSeconds]
            omega
          · cases hgrace
        unfold dayNanos
        cases hadd : resumed.checked_add_signed grace with
        | none =>
          rw [Option.getD_none]
          omega
        | some deadline =>
          rw [DateTime.checked_add_signed_eq_some] at hadd
          rw [Option.getD_some]
          omega
      · cases h
  · cases h

end Schedule

/-! ## What was recorded when -/

/-- The service, with the reading under which the deferral or the backoff in force was recorded. -/
structure Stamped where
  system : System
  recorded : Option DateTime

namespace Stamped

variable {ext : External} {s u : Stamped} {l : Label} {now : DateTime}

def step (ext : External) (s : Stamped) (l : Label) : Option Stamped :=
  (System.step ext s.system l).map fun after =>
    ⟨after, if after.runtime.state.not_before = s.system.runtime.state.not_before then s.recorded else some after.clock⟩

/-- What an evaluation at `now` reads was not recorded under a later reading. -/
def Current (s : Stamped) (now : DateTime) : Prop :=
  (s.system.runtime.state.not_before.isSome = true → ∀ reading ∈ s.recorded, reading ≤ now) ∧
    ∀ resumed ∈ s.system.runtime.state.resumed_at, resumed ≤ now

/-- A deferral or a backoff is at most a day after it was recorded. -/
def Bounded (s : Stamped) : Prop :=
  ∀ deferral ∈ s.system.runtime.state.not_before, ∃ reading ∈ s.recorded, deferral.nanos ≤ reading.nanos + dayNanos

end Stamped

/-- A step leaves the deferral in force, or records one of at most a day. -/
theorem System.Retimed.not_before {s : System} {now : DateTime} {l : Label} {config : EffectiveConfig} {after : Timing}
    (h : Retimed s now l config after) : after.not_before = s.runtime.state.not_before ∨
      ∀ deferral ∈ after.not_before, deferral.nanos ≤ now.nanos + dayNanos := by
  cases h with
  | same | unready | rescheduled | occupied | held | abandoned | restored | installed | resumed | working =>
    exact .inl rfl
  | unconfigured | requested | succeeded => exact .inr fun _ hnone => by cases hnone
  | deferred _ _ _ bound =>
    refine .inr fun deferral hd => ?_
    obtain rfl := Option.some.inj hd
    exact bound
  | @failed _ _ outcome retry_at _ _ retries =>
    refine .inr fun deferral hd => ?_
    obtain rfl := Option.some.inj hd
    have hbounds := retry_minutes_bounds
      (counted_failures s.runtime.state.timing.consecutive_failures outcome.kind)
    rw [DateTime.checked_add_signed_eq_some] at retries
    unfold dayNanos
    omega
  | evaluated evaluation =>
    cases evaluation with
    | pending | passed | idle | waiting => exact .inl rfl
    | started => exact .inr fun _ hnone => by cases hnone

namespace Stamped

variable {ext : External} {s u : Stamped} {l : Label} {now : DateTime}

theorem Bounded.step (h : Bounded s) (hsound : s.system.Sound) (hs : step ext s l = some u) : Bounded u := by
  obtain ⟨after, hafter, rfl⟩ := Option.map_eq_some_iff.1 hs
  unfold Bounded
  dsimp only
  split
  · rename_i hsame
    rw [hsame]
    exact h
  · rename_i hchanged
    rcases (System.step_retimed hsound hafter).not_before with hsame | hbound
    · exact absurd hsame hchanged
    · exact fun deferral hd => ⟨after.clock, rfl, hbound deferral hd⟩

theorem Bounded.of_starts {s₀ : System} {recorded : Option DateTime} (h : System.Starts ext s₀) :
    Bounded ⟨s₀, recorded⟩ := by
  intro deferral hd
  cases h with
  | loaded config_store credential_store state_store policy_cache load =>
    simp only [load_with_credentials_and_policy, bind_eq_ok, pure_eq_ok] at load
    obtain ⟨loc, -, resolved, -, rfl⟩ := load
    cases hd
  | configurationError => cases hd

/-- The longest wait after an evaluation, in every run and with every clock: it
starts a backup, waits for the network, for power or for an update, or publishes
a deadline at most the interval or a day away, if it comes to a decision and what
it reads was not recorded under a later reading. -/
theorem deadline_is_bounded {s₀ : System} {ls : List Label} {conditions : SystemConditions} (h₀ : System.Starts ext s₀)
    (h : Run (step ext) (fun _ _ => True) ⟨s₀, none⟩ ls s) (hs : step ext s (.evaluate now conditions) = some u)
    (hcurrent : s.Current now)
    (hconfigured : s.system.runtime.config.is_configured = true)
    (hmanagement : s.system.runtime.state.management_operation_active = false)
    (hready : repository_operation_allows_backup s.system.runtime.state.repository_operation = true)
    (hr : u.system.runtime.state.running = false)
    (hgrace : ∀ reason, u.system.runtime.state.status.state = .Waiting reason → reason = .WakeGrace) :
    ∃ deadline, u.system.runtime.state.status.next_deadline = some deadline ∧
      deadline.nanos ≤ now.nanos + longest_wait u.system.runtime.config := by
  obtain ⟨hsound, hfrozen, hbounded⟩ := h.inv
    (fun s => s.system.Sound ∧ s.system.Frozen ∧ Bounded s)
    (fun t l u ht _ hstep => by
      obtain ⟨after, hafter, rfl⟩ := Option.map_eq_some_iff.1 hstep
      exact ⟨ht.1.step hafter, ht.2.1.step ht.1 hafter, ht.2.2.step ht.1 hstep⟩)
    ⟨h₀.sound, h₀.frozen, .of_starts h₀⟩
  have hdeferral : ∀ deferral ∈ s.system.runtime.state.not_before, deferral.nanos ≤ now.nanos + dayNanos := by
    intro deferral hd
    obtain ⟨reading, hreading, hle⟩ := hbounded deferral hd
    have := DateTime.le_iff.1 (hcurrent.1 (Option.isSome_iff_exists.2 ⟨deferral, hd⟩) reading hreading)
    omega
  obtain ⟨after, hafter, rfl⟩ := Option.map_eq_some_iff.1 hs
  cases System.step_ran hafter with
  | @evaluated _ _ state action evaluates =>
    dsimp only at hr hgrace ⊢
    have hreleased := release_hold_timing s.system.runtime.state now
    have hevaluation := evaluate_section_evaluation evaluates
    generalize htiming : state.timing = timing at hevaluation
    have hstate : state.status.state = timing.shown.1 := congrArg (fun t => t.shown.1) htiming
    have hnext : state.status.next_deadline = timing.shown.2 := congrArg (fun t => t.shown.2) htiming
    have hrunning : timing.running = false := (congrArg Timing.running htiming).symm.trans hr
    rw [hnext]
    cases hevaluation with
    | pending => exact absurd (hgrace _ hstate) (by decide)
    | passed _ because =>
      rcases because with hc | hm | ho | hrun
      · rw [hconfigured] at hc
        cases hc
      · rw [hmanagement] at hm
        cases hm
      · have ho : repository_operation_allows_backup s.system.runtime.state.repository_operation = false := ho
        rw [hready] at ho
        cases ho
      · rw [hrunning] at hrun
        cases hrun
    | started => cases hrunning
    | @idle next deadline _ _ _ decides =>
      obtain ⟨-, -, rfl, -⟩ := Schedule.decide_idle decides
      refine ⟨_, rfl, Schedule.next_deadline_le fun deferral hd => ?_⟩
      have hd : deferral ∈ (release_hold s.system.runtime.state now).timing.not_before := hd
      rw [hreleased] at hd
      exact hdeferral deferral hd
    | @waiting trigger blocker blockers retry_at _ _ _ decides =>
      obtain ⟨-, hblockers, hwake⟩ := Schedule.decide_waiting decides
      have hb : blocker = .WakeGrace := by
        have := hgrace _ hstate
        cases blocker with
        | WakeGrace => rfl
        | _ => cases this
      have hsome : retry_at.isSome = true := by
        rw [← Schedule.wakeGrace_mem_blockers, ← hblockers, hb]
        exact List.mem_cons_self
      obtain ⟨grace_end, rfl⟩ := Option.isSome_iff_exists.1 hsome
      refine ⟨grace_end, rfl, ?_⟩
      have hle := Schedule.wake_grace_le hfrozen.valid (fun resumed hresumed => by
        have hresumed : resumed ∈ (release_hold s.system.runtime.state now).timing.resumed_at := hresumed
        rw [hreleased] at hresumed
        exact hcurrent.2 resumed hresumed) hwake
      have hday : dayNanos ≤ longest_wait s.system.runtime.config := le_max_right _ _
      have hle : grace_end.nanos ≤ now.nanos + dayNanos := hle
      omega

instance (s : Stamped) (now : DateTime) : Decidable (Current s now) := inferInstanceAs (Decidable (_ ∧ _))

namespace ClockAhead

open System.HomeDevice

/-- A clock that is a thousand days ahead. -/
def ahead : DateTime := ⟨1000 * 86400 * 1000000000, by decide, by decide⟩

/-- The clock is put right, an hour after the last success. -/
def corrected : DateTime := ⟨3600 * 1000000000, by decide, by decide⟩

/-- Backups are deferred for a day while the clock is ahead. -/
def labels : List Label := [.request (.DeferBackup 1440) false (.quiet ahead), .evaluate ahead conditions]

theorem deferred_isSome : (runList (step External.inert) (fun _ _ => True) ⟨started, none⟩ labels).isSome := by decide

def deferred : Stamped := (runList (step External.inert) (fun _ _ => True) ⟨started, none⟩ labels).get deferred_isSome

theorem corrected_isSome : (step External.inert deferred (.evaluate corrected conditions)).isSome := by decide

/-- A deferral for a day holds backups for a thousand days after the clock is put right. -/
theorem deferral_holds_for_years : System.Starts External.inert started ∧
    ∃ s u, Run (step External.inert) (fun _ _ => True) ⟨started, none⟩ labels s ∧
      step External.inert s (.evaluate corrected conditions) = some u ∧
      s.system.runtime.config.is_configured = true ∧ s.system.runtime.state.management_operation_active = false ∧
      repository_operation_allows_backup s.system.runtime.state.repository_operation = true ∧
      u.system.runtime.state.status.state = .Idle ∧
      ∃ deadline, u.system.runtime.state.status.next_deadline = some deadline ∧
        corrected.nanos + longest_wait u.system.runtime.config < deadline.nanos :=
  ⟨.loaded _ _ _ _ (loaded_loads verified), deferred, _, .of_isSome deferred_isSome, (Option.some_get corrected_isSome).symm,
    by decide, by decide, by decide, by decide, ⟨1001 * 86400 * 1000000000, by decide, by decide⟩, by decide, by decide⟩

/-- A minute after the deferral. -/
def resting : DateTime := ⟨(1000 * 86400 + 60) * 1000000000, by decide, by decide⟩

theorem resting_isSome : (step External.inert deferred (.evaluate resting conditions)).isSome := by decide

theorem deferral_is_bounded : ∃ deadline, ((step External.inert deferred (.evaluate resting conditions)).get
      resting_isSome).system.runtime.state.status.next_deadline = some deadline ∧
    deadline.nanos ≤ resting.nanos + longest_wait ((step External.inert deferred (.evaluate resting conditions)).get
      resting_isSome).system.runtime.config :=
  deadline_is_bounded (.loaded _ _ _ _ (loaded_loads verified)) (.of_isSome deferred_isSome)
    (Option.some_get resting_isSome).symm (by decide) (by decide) (by decide) (by decide) (by decide) (fun reason h => by cases h)

end ClockAhead

end Stamped

end ResticPal
