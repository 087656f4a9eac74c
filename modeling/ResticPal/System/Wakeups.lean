import ResticPal.System.Exclusion
import ResticPal.System.Timing
/-!
# When the event loop wakes

- `evaluation_leaves_a_delay`: after an evaluation that starts nothing, the event
  loop waits, or the deadline it waits for is less than a millisecond away.

An evaluation that finds nothing to schedule leaves the deadline as it is, and
the loop would wake for one that has passed again and again. `Rests` says that
there is none in those states. The status that an update hold puts aside carries
a deadline of its own, and a second hold keeps what the first one put aside: the
run at the end of this module reaches the loop that never sleeps that way.
-/

open Lib

namespace ResticPal

/-- Backups can be scheduled. -/
def Timing.usable (t : Timing) (config : EffectiveConfig) : Bool := config.is_configured && t.ready

theorem Timing.usable_of_ready {t : Timing} {config : EffectiveConfig} (hc : config.is_configured = true)
    (ho : repository_operation_allows_backup t.repository_operation = true) : t.usable config = true := by
  rw [usable, ready, hc, ho]
  rfl

theorem Timing.shown_ne_update {t : Timing} (hr : t.running = true) : t.shown.1 ≠ .Waiting .Update := by
  intro hs
  rw [running, hs] at hr
  cases hr

/-- Where nothing is scheduled, no deadline is published. -/
structure Rests (config : EffectiveConfig) (t : Timing) (clock : DateTime) : Prop where
  running : t.running = true → t.shown.2 = none ∧ t.usable config = true
  unusable : t.usable config = false → t.shown.1 ≠ .Waiting .Update → t.shown.2 = none
  /-- The same for what a hold will show again. -/
  aside : t.usable config = false → t.shown.1 = .Waiting .Update →
    ∀ shown ∈ t.update_hold_previous_status, shown.2 = none
  covered : t.shown.1 = .Waiting .Update → t.update_hold_previous_status.isSome = true
  proper : ∀ shown ∈ t.update_hold_previous_status, shown.1 ≠ .Waiting .Update ∧ shown.1.isRunning = false
  installing : t.update_install_active = true → t.shown.1 = .Waiting .Update
  expired : t.shown.1 ≠ .Waiting .Update → ∀ deadline ∈ t.update_hold_until, deadline ≤ clock

namespace Rests

variable {config config' : EffectiveConfig} {t : Timing} {clock now : DateTime}

theorem later (h : Rests config t clock) (hf : clock ≤ now) : Rests config t now :=
  { h with expired := fun hs deadline hd => (h.expired hs deadline hd).trans hf }

/-- Only the instants that are not published have changed, or whether the configuration is another. -/
theorem of_same (h : Rests config t clock) (hc : config'.is_configured = config.is_configured)
    (resumed_at not_before : Option DateTime) (manual_requested : Bool) :
    Rests config' { t with resumed_at, not_before, manual_requested } clock := by
  have hu : Timing.usable { t with resumed_at, not_before, manual_requested } config' = t.usable config := by
    unfold Timing.usable
    rw [hc]
    rfl
  constructor
  · rw [hu]
    exact h.running
  · rw [hu]
    exact h.unusable
  · rw [hu]
    exact h.aside
  · exact h.covered
  · exact h.proper
  · exact h.installing
  · exact h.expired

/-- A status without a deadline, and not that of a backup or an update. -/
theorem of_rest (h : Rests config t clock) {shown : BackupState} (hr : shown.isRunning = false)
    (hu : shown ≠ .Waiting .Update) (hi : t.update_install_active = false)
    (he : ∀ deadline ∈ t.update_hold_until, deadline ≤ clock) (config' : EffectiveConfig) (not_before : Option DateTime)
    (manual_requested : Bool) (repository_operation : RepositoryOperationStatus) :
    Rests config' { t with shown := (shown, none), not_before, manual_requested, repository_operation } clock where
  running hrunning := by
    have hrunning : shown.isRunning = true := hrunning
    rw [hr] at hrunning
    cases hrunning
  unusable _ _ := rfl
  aside _ hs := absurd hs hu
  covered hs := absurd hs hu
  proper := h.proper
  installing hactive := by
    have hactive : t.update_install_active = true := hactive
    rw [hi] at hactive
    cases hactive
  expired _ := he

/-- Any deadline, for a repository in use. -/
theorem of_usable {next : Timing} (hu : next.usable config = true) (hr : next.running = false)
    (hc : next.shown.1 = .Waiting .Update → next.update_hold_previous_status.isSome = true)
    (hp : ∀ shown ∈ next.update_hold_previous_status, shown.1 ≠ .Waiting .Update ∧ shown.1.isRunning = false)
    (hi : next.update_install_active = true → next.shown.1 = .Waiting .Update)
    (he : next.shown.1 ≠ .Waiting .Update → ∀ deadline ∈ next.update_hold_until, deadline ≤ clock) :
    Rests config next clock where
  running hrunning := by
    rw [hr] at hrunning
    cases hrunning
  unusable hnot := by
    rw [hu] at hnot
    cases hnot
  aside hnot := by
    rw [hu] at hnot
    cases hnot
  covered := hc
  proper := hp
  installing := hi
  expired := he

/-- The end of a backup, which only runs on a repository in use. -/
theorem finished (h : Rests config t clock) (hr : t.running = true) (kind : BackupOutcomeKind) (deadline : DateTime)
    (last_success resumed_at not_before : Option DateTime) (manual_requested : Bool) (consecutive_failures : UInt32) :
    Rests config { t with
      shown := (backup_state kind, some deadline), last_success, resumed_at, not_before, manual_requested,
      consecutive_failures } clock := by
  have hs := Timing.shown_ne_update hr
  refine .of_usable (h.running hr).2 ?_ ?_ h.proper (fun hactive => absurd (h.installing hactive) hs)
    (fun _ => h.expired hs)
  · exact backup_state_isRunning kind
  · intro hupdate
    cases kind <;> cases hupdate

/-! ### Holds -/

/-- A hold that does not keep a status of an earlier configuration. -/
theorem hold (h : Rests config t clock) (hr : t.running = false)
    (hl : t.update_hold_previous_status = none ∨ t.shown.1 = .Waiting .Update ∨ t.usable config = true)
    (deadline : DateTime) (active : Bool) : Rests config (t.hold deadline active) clock := by
  have hshown (hnone : t.update_hold_previous_status = none) : t.shown.1 ≠ .Waiting .Update := by
    intro hs
    have := h.covered hs
    rw [hnone] at this
    cases this
  constructor
  · intro hrunning
    cases hrunning
  · intro _ hs
    exact absurd rfl hs
  · intro hu _ shown hp
    have hu : t.usable config = false := hu
    rcases Option.eq_none_or_eq_some t.update_hold_previous_status with hnone | ⟨kept, hsome⟩
    · obtain rfl : t.shown = shown := by simpa [Timing.hold, hnone] using hp
      exact h.unusable hu (hshown hnone)
    · obtain rfl : kept = shown := by simpa [Timing.hold, hsome] using hp
      rcases hl with hnone | hs | husable
      · rw [hsome] at hnone
        cases hnone
      · exact h.aside hu hs kept hsome
      · rw [hu] at husable
        cases husable
  · intro _
    unfold Timing.hold
    cases t.update_hold_previous_status <;> rfl
  · intro shown hp
    rcases Option.eq_none_or_eq_some t.update_hold_previous_status with hnone | ⟨kept, hsome⟩
    · obtain rfl : t.shown = shown := by simpa [Timing.hold, hnone] using hp
      exact ⟨hshown hnone, hr⟩
    · obtain rfl : kept = shown := by simpa [Timing.hold, hsome] using hp
      exact h.proper kept hsome
  · intro _
    rfl
  · intro hs
    exact absurd rfl hs

/-- The end of a hold that shows. -/
theorem restore (h : Rests config t clock) (hs : t.shown.1 = .Waiting .Update) : Rests config t.restore clock := by
  obtain ⟨shown, hp⟩ := Option.isSome_iff_exists.1 (h.covered hs)
  obtain ⟨hproper, hidle⟩ := h.proper shown hp
  have hshown : t.restore.shown = shown := by simp [Timing.restore, hp]
  constructor
  · intro hrunning
    rw [Timing.running, hshown, hidle] at hrunning
    cases hrunning
  · intro hu _
    rw [hshown]
    exact h.aside hu hs shown hp
  · intro _ hupdate
    rw [hshown] at hupdate
    exact absurd hupdate hproper
  · intro hupdate
    rw [hshown] at hupdate
    exact absurd hupdate hproper
  · intro _ hnone
    cases hnone
  · intro hactive
    cases hactive
  · intro _ _ hnone
    cases hnone

/-- The release of an expired one. -/
theorem release (h : Rests config t clock) (hi : t.update_install_active = false) :
    Rests config t.release clock ∧ t.release.shown.1 ≠ .Waiting .Update := by
  by_cases hs : t.shown.1 = .Waiting .Update
  · have hreleased : t.release = t.restore := by
      unfold Timing.release Timing.restore
      rw [if_pos hs, hi]
    obtain ⟨shown, hp⟩ := Option.isSome_iff_exists.1 (h.covered hs)
    rw [hreleased]
    refine ⟨h.restore hs, ?_⟩
    simpa [Timing.restore, hp] using (h.proper shown hp).1
  · have hshown : t.release.shown = t.shown := if_neg hs
    refine ⟨⟨?_, ?_, ?_, ?_, ?_, ?_, ?_⟩, by rw [hshown]; exact hs⟩
    · rw [Timing.running, hshown]
      exact h.running
    · rw [hshown]
      exact h.unusable
    · intro _ hupdate
      rw [hshown] at hupdate
      exact absurd hupdate hs
    · intro hupdate
      rw [hshown] at hupdate
      exact absurd hupdate hs
    · intro _ hnone
      cases hnone
    · intro hactive
      have hactive : t.update_install_active = true := hactive
      rw [hi] at hactive
      cases hactive
    · intro _ _ hnone
      cases hnone

end Rests

/-! ## Evaluations -/

section Evaluations

variable {config : EffectiveConfig} {state : RuntimeState} {now clock : DateTime} {conditions : SystemConditions}
  {after : Timing} {action : ScheduleAction}

/-- The end of a grace period that has not passed is to come. -/
theorem Schedule.wake_grace_later {config : ScheduleConfig} {snapshot : SchedulerSnapshot} {grace_end : DateTime}
    (h : wake_grace config snapshot = some (some grace_end)) : snapshot.now < grace_end := by
  unfold wake_grace at h
  split at h
  · split at h
    · cases h
    · obtain ⟨grace, -, h⟩ := Option.bind_eq_some_iff.1 h
      simp only [pure, Option.some.injEq] at h
      split at h
      · rename_i hlater
        obtain rfl := Option.some.inj h
        exact hlater
      · cases h
  · cases h

theorem Evaluation.rests (h : Rests config state.timing clock) (hf : clock ≤ now)
    (he : Evaluation config state now conditions after action) : Rests config after now := by
  have usable (hc : config.is_configured = true) (ho : state.ready = true) {next : Timing}
      (hop : next.repository_operation = state.repository_operation) : next.usable config = true :=
    Timing.usable_of_ready hc ((congrArg repository_operation_allows_backup hop).trans ho)
  cases he with
  | @pending deadline held later =>
    have hs : state.timing.shown.1 = .Waiting .Update := by
      rcases held with hactive | hhold
      · exact h.installing hactive
      · by_contra hs
        have := (h.expired hs deadline hhold).trans hf
        exact absurd later (not_lt.2 this)
    refine ⟨fun hr => (by cases hr), fun _ hnot => absurd rfl hnot, fun hu _ => h.aside hu hs, fun _ => h.covered hs,
      h.proper, fun _ => rfl, fun hnot => absurd rfl hnot⟩
  | passed released =>
    exact ((h.later hf).release (update_pending_eq_false.1 released).1).1
  | started released configured ready =>
    obtain ⟨hreleased, hupdate⟩ := (h.later hf).release (update_pending_eq_false.1 released).1
    exact ⟨fun _ => ⟨rfl, usable configured ready rfl⟩, fun _ _ => rfl, fun _ hs => (by cases hs),
      fun hs => (by cases hs), hreleased.proper, fun hactive => absurd (hreleased.installing hactive) hupdate,
      fun _ => by simp [Timing.release]⟩
  | @idle next deadline released configured ready decides shows =>
    obtain ⟨hreleased, hupdate⟩ := (h.later hf).release (update_pending_eq_false.1 released).1
    have hr : (release_hold state now).running = false := (Schedule.decide_idle decides).1
    have hr : state.timing.release.running = false := (congrArg Timing.running (release_hold_timing state now)).symm.trans hr
    have hnext : next ≠ .Waiting .Update := by
      rcases shows with ⟨-, hnot⟩ | rfl
      · exact hnot .Update
      · simp
    refine .of_usable (usable configured ready rfl) ?_ (fun hs => absurd hs hnext) hreleased.proper (fun hactive => ?_)
      (fun _ => by simp [Timing.release])
    · rcases shows with ⟨rfl, -⟩ | rfl
      · exact hr
      · rfl
    · exact absurd (hreleased.installing hactive) hupdate
  | @waiting trigger blocker blockers retry_at released configured ready decides =>
    obtain ⟨hreleased, hupdate⟩ := (h.later hf).release (update_pending_eq_false.1 released).1
    refine .of_usable (usable configured ready rfl) rfl (fun hs => ?_) hreleased.proper (fun hactive => ?_)
      (fun _ => by simp [Timing.release])
    · cases blocker <;> cases hs
    · exact absurd (hreleased.installing hactive) hupdate

/-- A deadline that is to come is waited for to the millisecond, or polled for. -/
theorem delay_of_later {runtime : ServiceRuntime} {deadline : DateTime}
    (hd : runtime.state.status.next_deadline = some deadline) : 60000 ≤ runtime.next_evaluation_delay now ∨
      runtime.next_evaluation_delay now = (Duration.num_milliseconds (deadline.signed_duration_since now)).toNat := by
  unfold ServiceRuntime.next_evaluation_delay
  split
  · exact .inl (by decide)
  · split
    · exact .inl (by decide)
    · exact .inl (by decide)
    · exact .inl (by decide)
    · rw [hd]
      exact .inr rfl

theorem delay_of_none {runtime : ServiceRuntime} (hd : runtime.state.status.next_deadline = none) :
    60000 ≤ runtime.next_evaluation_delay now := by
  unfold ServiceRuntime.next_evaluation_delay
  split
  · decide
  · split
    · decide
    · decide
    · decide
    · rw [hd]
      simp

/-- After an evaluation that starts nothing: a minute at least, or a deadline that is to come. -/
theorem delay_after {runtime after : ServiceRuntime} (h : Rests runtime.config runtime.state.timing clock)
    (hf : clock ≤ now) (hrest : runtime.state.activity.restores_running = false)
    (he : runtime.evaluate_schedule now conditions = some (after, .None)) :
    60000 ≤ after.next_evaluation_delay now ∨
      ∃ deadline, after.state.status.next_deadline = some deadline ∧ now < deadline ∧
        after.next_evaluation_delay now = (Duration.num_milliseconds (deadline.signed_duration_since now)).toNat := by
  obtain ⟨⟨state, action⟩, hsec, heq⟩ := Option.map_eq_some_iff.1 he
  obtain ⟨rfl, rfl⟩ := Prod.mk.inj heq
  have hev := evaluate_section_evaluation hsec
  have hrests := hev.rests h hf
  have future {deadline : DateTime} (hd : state.status.next_deadline = some deadline) (hlater : now < deadline) :
      60000 ≤ ({ runtime with state } : ServiceRuntime).next_evaluation_delay now ∨
        ∃ deadline, state.status.next_deadline = some deadline ∧ now < deadline ∧
          ({ runtime with state } : ServiceRuntime).next_evaluation_delay now =
            (Duration.num_milliseconds (deadline.signed_duration_since now)).toNat :=
    (@delay_of_later now { runtime with state } deadline hd).imp_right (fun hdelay => ⟨deadline, hd, hlater, hdelay⟩)
  generalize htiming : state.timing = timing at hev hrests
  have hshown : state.shown = timing.shown := congrArg Timing.shown htiming
  have hnext : state.status.next_deadline = timing.shown.2 := congrArg Prod.snd hshown
  cases hev with
  | pending held later => exact future hnext later
  | passed released because =>
    have rest (hnone : runtime.state.timing.release.shown.2 = none) :
        60000 ≤ ({ runtime with state } : ServiceRuntime).next_evaluation_delay now :=
      delay_of_none (hnext.trans hnone)
    have hupdate := (h.release (update_pending_eq_false.1 released).1).2
    have unusable (hu : runtime.state.timing.release.usable runtime.config = false) :=
      rest (hrests.unusable hu hupdate)
    refine .inl ?_
    rcases because with hc | hm | ho | hr
    · exact unusable (by simp [Timing.usable, hc])
    · have hm : state.management_operation_active = true := by
        refine Eq.trans ?_ hm
        cases evaluate_section_evaluated hrest hsec with
        | held _ ha => exact congrArg Activity.management_operation_active ha
        | idle _ ha => exact congrArg Activity.management_operation_active ha
      simp only [ServiceRuntime.next_evaluation_delay, hm, if_true]
      decide
    · have ho : runtime.state.timing.release.ready = false := ho
      exact unusable (by simp [Timing.usable, ho])
    · exact rest (hrests.running hr).1
  | idle _ _ _ decides => exact future hnext (Schedule.decide_idle decides).2.2.2
  | @waiting trigger blocker blockers retry_at _ _ _ decides =>
    obtain ⟨-, hblockers, hgrace⟩ := Schedule.decide_waiting decides
    have hstate : state.status.state = .Waiting (waiting_reason blocker) := congrArg Prod.fst hshown
    have polled (hnot : blocker ≠ .WakeGrace) :
        60000 ≤ ({ runtime with state } : ServiceRuntime).next_evaluation_delay now := by
      unfold ServiceRuntime.next_evaluation_delay
      split
      · decide
      · cases blocker with
        | WakeGrace => exact absurd rfl hnot
        | _ =>
          simp only [hstate, waiting_reason]
          decide
    by_cases hb : blocker = .WakeGrace
    · have hsome : retry_at.isSome = true := by
        rw [← Schedule.wakeGrace_mem_blockers, ← hblockers, hb]
        exact List.mem_cons_self
      obtain ⟨grace_end, rfl⟩ := Option.isSome_iff_exists.1 hsome
      exact future hnext (Schedule.wake_grace_later hgrace)
    · exact .inl (polled hb)

end Evaluations

namespace System

variable {ext : External} {s u : System} {l : Label} {now : DateTime}

/-- An update hold that is taken does not keep what an expired one has put aside, if that was another configuration's. -/
def FreshHold (ext : External) (s : System) : Label → Prop
  | .request command elevated io => command.holds = true →
    (s.runtime.state.update_hold_previous_status = none ∨ s.runtime.state.status.state = .Waiting .Update ∨
      (s.runtime.config.is_configured && repository_operation_allows_backup s.runtime.state.repository_operation) = true) ∨
    s.runtime.Untouched (s.runtime.handle_request ext command elevated io).1
  | _ => True

/-- The service is at rest by its clock. -/
abbrev AtRest (s : System) : Prop := Rests s.runtime.config s.runtime.state.timing s.clock

theorem AtRest.retimed {config : EffectiveConfig} {after : Timing} (h : AtRest s) (hsound : Sound s) (hf : s.clock ≤ now)
    (ht : Timely s.runtime.state.activity s.clock) (hl : s.FreshHold ext l) (hr : Retimed s now l config after)
    (hchanged : ∀ command elevated io, l = .request command elevated io →
      ¬ s.runtime.Untouched (s.runtime.handle_request ext command elevated io).1) : Rests config after now := by
  have expired (hc : s.runtime.state.Changeable now) :
      ∀ deadline ∈ s.runtime.state.timing.update_hold_until, deadline ≤ now := by
    rcases hc.expired with hpending | ho | hm
    · exact (update_pending_eq_false.1 hpending).2
    · exact fun deadline hd => (ht (.inl ho) deadline hd).trans hf
    · exact fun deadline hd => (ht (.inr hm) deadline hd).trans hf
  have h := Rests.later h hf
  cases hr with
  | same configured => exact h.of_same configured _ _ _
  | unconfigured operation _ changeable configured =>
    exact h.of_rest rfl (by simp) changeable.inactive (expired changeable) _ _ _ _
  | unready operation _ changeable configured ready =>
    exact h.of_rest rfl (by simp) changeable.inactive (expired changeable) _ _ _ _
  | @rescheduled _ _ next _ operation _ changeable configured ready shows =>
    refine .of_usable (Timing.usable_of_ready configured ready) ?_ (fun hs => ?_) h.proper
      (fun hactive => ?_) (fun _ => expired changeable)
    · rcases shows with rfl | rfl
      · exact changeable.running
      · rfl
    · rcases shows with rfl | rfl
      · exact h.covered hs
      · cases hs
    · have hactive : s.runtime.state.update_install_active = true := hactive
      rw [changeable.inactive] at hactive
      cases hactive
  | occupied operation _ changeable configured =>
    have hu (status : RepositoryOperationStatus) :
        Timing.usable { s.runtime.state.timing with repository_operation := status } s.runtime.config = false := by
      simp [Timing.usable, configured]
    refine ⟨fun hrunning => ?_, fun _ => h.unusable (hu _), fun _ => h.aside (hu _), h.covered, h.proper, h.installing,
      h.expired⟩
    have hrunning : s.runtime.state.running = true := hrunning
    rw [changeable.running] at hrunning
    cases hrunning
  | requested running => exact h.of_same rfl _ _ _
  | deferred running configured ready =>
    exact .of_usable (Timing.usable_of_ready configured ready) running h.covered h.proper h.installing h.expired
  | held deadline active holds running =>
    exact h.hold running ((hl holds).resolve_right (hchanged _ _ _ rfl)) deadline active
  | abandoned deadline holds running =>
    exact (h.hold running ((hl holds).resolve_right (hchanged _ _ _ rfl)) deadline true).restore rfl
  | restored active => exact h.restore (h.installing active)
  | installed remains active =>
    have hs := h.installing active
    exact ⟨h.running, h.unusable, h.aside, h.covered, h.proper, fun _ => hs, h.expired⟩
  | evaluated evaluation => exact evaluation.rests h le_rfl
  | resumed => exact h.of_same rfl _ _ _
  | working phase running =>
    obtain ⟨hnone, hu⟩ := h.running running
    have hs := @Timing.shown_ne_update s.runtime.state.timing running
    exact ⟨fun _ => ⟨hnone, hu⟩, fun _ _ => hnone, fun _ hs => (by cases hs), fun hs => (by cases hs), h.proper,
      fun hactive => absurd (h.installing hactive) hs, fun _ => h.expired hs⟩
  | succeeded worker kind => exact h.finished (hsound.running_of_worker worker) _ _ _ _ _ _ _
  | failed worker kind retries => exact h.finished (hsound.running_of_worker worker) _ _ _ _ _ _ _

theorem AtRest.step (h : AtRest s) (hsound : Sound s) (ht : Timely s.runtime.state.activity s.clock) (hf : Forward s l)
    (hl : s.FreshHold ext l) (hs : step ext s l = some u) : AtRest u := by
  have hclock : u.clock = l.now.getD s.clock := by
    obtain ⟨t, -, rfl⟩ := Option.map_eq_some_iff.1 hs
    rfl
  by_cases hsame : s.runtime.Untouched u.runtime
  · rw [AtRest, hsame.1, hsame.2]
    exact Rests.later h (hclock ▸ hf)
  refine h.retimed hsound (hclock ▸ hf) ht hl (step_retimed hsound hs) ?_
  rintro command elevated io rfl
  cases step_ran hs with
  | request => exact hsame

/-- A start publishes a deadline for a repository in use only. -/
theorem started_at_rest (resolved : ResolvedConfig) (loc : LocalConfig) (service_state : ServiceStateSnapshot)
    (config_store : LocalConfigStore) (credential_store : Option CredentialStore)
    (state_store : StoredFile PersistedScheduleState) (policy_cache : ManagedPolicyCache) (now : DateTime) :
    let runtime := from_resolved_with_state resolved loc service_state config_store credential_store state_store
      policy_cache now
    Rests runtime.config runtime.state.timing now := by
  intro runtime
  have hnone : runtime.state.update_hold_previous_status = none := rfl
  have hactive : runtime.state.update_install_active = false := rfl
  have hstate : runtime.state.running = false ∧ runtime.state.status.state ≠ .Waiting .Update := by
    simp only [runtime, from_resolved_with_state, RuntimeState.running]
    repeat' split
    all_goals simp
  refine ⟨fun hr => ?_, fun hu _ => ?_, fun _ hs => absurd hs hstate.2, fun hs => absurd hs hstate.2, ?_, ?_, ?_⟩
  · have hr : runtime.state.running = true := hr
    rw [hstate.1] at hr
    cases hr
  · have hu : (resolved.effective.is_configured && runtime.state.timing.ready) = false := hu
    exact if_neg (Bool.eq_false_iff.1 hu)
  · intro shown hs
    cases hs
  · intro hi
    cases hi
  · intro _ deadline hd
    cases hd

/-- After an evaluation that starts nothing, in every run with a clock that does
not run backwards and fresh update holds: the event loop does not wake at once,
except for a deadline that is less than a millisecond away, and it looks at a
deadline that has passed no more than once a minute. -/
theorem evaluation_leaves_a_delay {runtime after : ServiceRuntime} {start : DateTime} {policy : Option ManagedPolicy}
    {config_store : LocalConfigStore} {credential_store : Option CredentialStore}
    {state_store : StoredFile PersistedScheduleState} {policy_cache : ManagedPolicyCache}
    {conditions : SystemConditions} {ls : List Label}
    (load : load_with_credentials_and_policy ext.parse_url config_store credential_store state_store policy_cache policy
      start = .ok runtime)
    (h : Run (step ext) (fun s l => Forward s l ∧ s.FreshHold ext l) ⟨runtime, start, none, false, false, policy⟩ ls s)
    (hnow : s.clock ≤ now) (he : s.runtime.evaluate_schedule now conditions = some (after, .None)) :
    (after.next_evaluation_delay now = 0 → ∃ deadline, after.state.status.next_deadline = some deadline ∧
      now < deadline ∧ deadline.nanos < now.nanos + 1000000) ∧
    (∀ deadline ∈ after.state.status.next_deadline, deadline ≤ now → 60000 ≤ after.next_evaluation_delay now) := by
  have hstarts : Starts ext ⟨runtime, start, none, false, false, policy⟩ :=
    .loaded config_store credential_store state_store policy_cache load
  have hrest : AtRest ⟨runtime, start, none, false, false, policy⟩ := by
    simp only [load_with_credentials_and_policy, bind_eq_ok, pure_eq_ok] at load
    obtain ⟨loc, -, resolved, -, rfl⟩ := load
    exact started_at_rest _ _ _ _ _ _ _ _
  have htimely : Timely runtime.state.activity start := by
    obtain ⟨-, -, -, ho, ha⟩ := hstarts.quiet
    exact .of_idle ho (congrArg Activity.management_operation_active ha)
  obtain ⟨hsound, -, hat⟩ := run_inv (fun s => Timely s.runtime.state.activity s.clock ∧ AtRest s)
    (fun t l u hsound hi hl hs => ⟨hi.1.step hsound hl.1 hs, hi.2.step hsound hi.1 hl.1 hl.2 hs⟩) hstarts
    ⟨htimely, hrest⟩ h
  rcases delay_after hat hnow hsound.exclusive.restores he with hdelay | ⟨deadline, hd, hlater, hdelay⟩
  · refine ⟨fun hzero => ?_, fun _ _ _ => hdelay⟩
    rw [hzero] at hdelay
    exact absurd hdelay (by decide)
  · refine ⟨fun hzero => ⟨deadline, hd, hlater, ?_⟩, fun passed hp hle => ?_⟩
    · rw [hdelay] at hzero
      rw [DateTime.lt_iff] at hlater
      simp only [Duration.num_milliseconds, DateTime.signed_duration_since] at hzero
      rw [Int.tdiv_eq_ediv_of_nonneg (by omega)] at hzero
      omega
    · obtain rfl : deadline = passed := Option.some.inj (hd.symm.trans hp)
      exact absurd hlater (not_lt.2 hle)

namespace StaleHold

open HomeDevice

/-- Two minutes later, when a hold of one minute is over. -/
def later : DateTime := ⟨2 * 60 * 1000000000, by decide, by decide⟩

/-- An hour after the next backup of the device would have been due. -/
def late : DateTime := ⟨25 * 3600 * 1000000000, by decide, by decide⟩

def holds (now : DateTime) : Label := .request (.PrepareForUpdate 60) true (.quiet now)

/-- All sources are removed between two holds, and no evaluation has released the first. -/
def labels : List Label :=
  [holds .UNIX_EPOCH, .request (.UpdateBackupSources (some []) none) true (.quiet later), holds later]

theorem held_isSome : (runList (step External.inert) Forward started labels).isSome := by decide

def held : System := (runList (step External.inert) Forward started labels).get held_isSome

theorem held_evaluates : (held.runtime.evaluate_schedule late conditions).isSome := by decide

def evaluated : ServiceRuntime := ((held.runtime.evaluate_schedule late conditions).get held_evaluates).1

/-- The second hold has kept what the first one put aside. The evaluation after it
shows a deadline of a device that is not configured any more, and the loop wakes
at once, for good. -/
theorem loop_never_sleeps :
    load_with_credentials_and_policy External.inert.parse_url ⟨none, .contents loc⟩ none
      (.contents ⟨STATE_SCHEMA_VERSION, verified⟩) .missing none .UNIX_EPOCH = .ok (loaded verified) ∧
    ∃ s after, Run (step External.inert) Forward started labels s ∧ s.clock ≤ late ∧
      s.runtime.evaluate_schedule late conditions = some (after, .None) ∧ after.next_evaluation_delay late = 0 ∧
      (∃ deadline, after.state.status.next_deadline = some deadline ∧ deadline ≤ late) ∧
      after.evaluate_schedule late conditions = some (after, .None) :=
  ⟨loaded_loads verified, held, evaluated, .of_isSome held_isSome, by decide, rfl, by decide,
    ⟨⟨24 * 3600 * 1000000000, by decide, by decide⟩, by decide, by decide⟩, rfl⟩

/-- Half a millisecond before the next backup is due. -/
def almost : DateTime := ⟨24 * 3600 * 1000000000 - 500000, by decide, by decide⟩

def free : System := (step External.inert ((step External.inert started (holds .UNIX_EPOCH)).get (by decide))
  (.evaluate later conditions)).get (by decide)

theorem free_run : Run (step External.inert) (fun s l => Forward s l ∧ s.FreshHold External.inert l) started
    [holds .UNIX_EPOCH, .evaluate later conditions] free := by
  have hheld : Run (step External.inert) (fun s l => Forward s l ∧ s.FreshHold External.inert l) started
      [holds .UNIX_EPOCH] ((step External.inert started (holds .UNIX_EPOCH)).get (by decide)) :=
    .snoc .nil ⟨by decide, fun _ => .inl (.inl rfl)⟩ (Option.some_get _).symm
  exact .snoc hheld ⟨by decide, trivial⟩ (Option.some_get _).symm

theorem free_evaluates : (free.runtime.evaluate_schedule almost conditions).isSome := by decide

def waiting : ServiceRuntime := ((free.runtime.evaluate_schedule almost conditions).get free_evaluates).1

theorem deadline_is_close : ∃ deadline, waiting.state.status.next_deadline = some deadline ∧ almost < deadline ∧
    deadline.nanos < almost.nanos + 1000000 := by
  have heval : free.runtime.evaluate_schedule almost conditions = some (waiting, .None) := rfl
  exact (evaluation_leaves_a_delay (loaded_loads verified) free_run (by decide) heval).1 (by decide)

end StaleHold

end System

end ResticPal
