import ResticPal.Runtime.Effects
/-!
# What the status says

`Accurate` is what the reported state should be for a configuration and a
repository, and `Honest` what the runtime keeps of it: the status is accurate,
or an update hold shows in its place, and then the status to be restored
afterwards is. There is one lemma here for each function that writes the
status.
-/

open Lib

namespace ResticPal

/-- What the status shows of the state of backups. -/
def RuntimeState.shown (state : RuntimeState) : BackupState × Option DateTime :=
  (state.status.state, state.status.next_deadline)

/-- The repository may be used. -/
def RuntimeState.ready (state : RuntimeState) : Bool := repository_operation_allows_backup state.repository_operation

structure Accurate (configured ready : Bool) (shown : BackupState × Option DateTime) : Prop where
  unconfigured : shown.1 = .Unconfigured ↔ configured = false
  validation : configured = true → ready = false → shown = (.Waiting .RepositoryValidation, none)
  not_update : shown.1 ≠ .Waiting .Update

/-- A state of a repository in use is accurate, unless it speaks of another. -/
theorem Accurate.of_ready {shown : BackupState × Option DateTime} (hu : shown.1 ≠ .Unconfigured)
    (hw : shown.1 ≠ .Waiting .Update) : Accurate true true shown :=
  ⟨⟨fun h => absurd h hu, fun h => by cases h⟩, fun _ h => (by cases h), hw⟩

theorem Accurate.of_validation : Accurate true false (.Waiting .RepositoryValidation, none) :=
  ⟨⟨fun h => (by cases h), fun h => (by cases h)⟩, fun _ _ => rfl, fun h => (by cases h)⟩

theorem Accurate.of_unconfigured {ready : Bool} {deadline : Option DateTime} :
    Accurate false ready (.Unconfigured, deadline) :=
  ⟨⟨fun _ => rfl, fun _ => rfl⟩, fun h => (by cases h), fun h => by cases h⟩

/-- A configuration change shows what is accurate, where nothing hides it. -/
theorem apply_configuration_status_accurate {state : RuntimeState} (config : EffectiveConfig) (now : DateTime)
    (h : state.status.state ≠ .Waiting .Update) :
    Accurate config.is_configured state.ready (apply_configuration_status state config now).shown := by
  unfold apply_configuration_status configuration_status
  cases hc : config.is_configured with
  | false =>
    simp only [RuntimeState.shown, Bool.false_eq_true, if_false, transition_state_state]
    exact .of_unconfigured
  | true =>
    cases hr : repository_operation_allows_backup state.repository_operation with
    | false =>
      have hr : state.ready = false := hr
      simp only [RuntimeState.shown, hr, if_true, Bool.not_false, transition_state_state]
      exact .of_validation
    | true =>
      have hr : state.ready = true := hr
      simp only [RuntimeState.shown, hr, if_true, Bool.not_true, Bool.false_eq_true, if_false]
      refine .of_ready ?_ ?_
      · dsimp only
        split
        · simp
        · rename_i hs
          exact fun hu => hs (.inl hu)
      · dsimp only
        split
        · simp
        · exact h

@[simp] theorem apply_configuration_status_previous (state : RuntimeState) (config : EffectiveConfig) (now : DateTime) :
    (apply_configuration_status state config now).update_hold_previous_status = state.update_hold_previous_status := by
  unfold apply_configuration_status configuration_status
  simp only
  repeat' split
  all_goals rfl

/-- The status is accurate, or an update hold has put an accurate one aside. -/
structure Honest (config : EffectiveConfig) (state : RuntimeState) : Prop where
  running : state.running = true → config.is_configured = true ∧ state.ready = true ∧
    state.update_hold_previous_status = none
  current : state.update_hold_previous_status = none → state.running = false →
    Accurate config.is_configured state.ready state.shown
  previous : ∀ shown ∈ state.update_hold_previous_status, Accurate config.is_configured state.ready shown ∧
    state.repository_operation.isRunning = false ∧
    (state.status.state = .Waiting .Update ∨ Accurate config.is_configured state.ready state.shown)
  held : state.update_install_active = true ∨ state.update_hold_until.isSome = true →
    state.update_hold_previous_status.isSome = true

namespace Honest

variable {config config' : EffectiveConfig} {state after : RuntimeState} {now : DateTime}

/-- Nothing the status depends on has changed. -/
theorem of_same (h : Honest config state) (hc : config'.is_configured = config.is_configured)
    (hs : after.shown = state.shown) (ho : after.repository_operation = state.repository_operation)
    (hp : after.update_hold_previous_status = state.update_hold_previous_status)
    (ha : after.update_install_active = state.update_install_active)
    (hh : after.update_hold_until = state.update_hold_until) : Honest config' after := by
  have hstate : after.status.state = state.status.state := congrArg Prod.fst hs
  have hready : after.ready = state.ready := congrArg repository_operation_allows_backup ho
  have hrunning : after.running = state.running := congrArg BackupState.isRunning hstate
  constructor
  · rw [hrunning, hc, hready, hp]
    exact h.running
  · rw [hrunning, hc, hready, hp, hs]
    exact h.current
  · rw [hc, hready, hp, hs, ho, hstate]
    exact h.previous
  · rw [hp, ha, hh]
    exact h.held

/-- Where no status was put aside, the one that is shown is all there is. -/
theorem of_accurate (hp : after.update_hold_previous_status = none) (hr : after.running = false)
    (ha : after.update_install_active = false) (hh : after.update_hold_until = none)
    (hs : Accurate config.is_configured after.ready after.shown) : Honest config after where
  running hrunning := by
    rw [hr] at hrunning
    cases hrunning
  current _ _ := hs
  previous shown hshown := by
    rw [hp] at hshown
    cases hshown
  held hheld := by simp [ha, hh] at hheld

theorem not_held (h : Honest config state) (hp : state.update_hold_previous_status = none) :
    state.update_install_active = false ∧ state.update_hold_until = none := by
  have hnot : ¬(state.update_install_active = true ∨ state.update_hold_until.isSome = true) := by
    intro hheld
    have := h.held hheld
    rw [hp] at this
    cases this
  rw [not_or] at hnot
  exact ⟨by simpa using hnot.1, by simpa using hnot.2⟩

/-- A configuration change, while no status is put aside. -/
theorem configured {mid : RuntimeState} (h : Honest config state) (hp : state.update_hold_previous_status = none)
    (hr : state.running = false) (hs : mid.status.state = state.status.state)
    (hp' : mid.update_hold_previous_status = state.update_hold_previous_status)
    (ha : mid.update_install_active = state.update_install_active)
    (hh : mid.update_hold_until = state.update_hold_until) (config' : EffectiveConfig) (now : DateTime) :
    Honest config' (apply_configuration_status mid config' now) := by
  have hr' : mid.running = false := (congrArg BackupState.isRunning hs).trans hr
  have hactivity := apply_configuration_status_activity config' now hr'
  have haccurate := @apply_configuration_status_accurate mid config' now (hs ▸ (h.current hp hr).not_update)
  have hop : (apply_configuration_status mid config' now).repository_operation = mid.repository_operation :=
    congrArg Activity.repository_operation hactivity
  obtain ⟨hinactive, hfree⟩ := h.not_held hp
  refine of_accurate (by simp [hp', hp]) ((congrArg Activity.running hactivity).trans hr')
    ((congrArg Activity.update_install_active hactivity).trans (ha.trans hinactive))
    ((congrArg Activity.update_hold_until hactivity).trans (hh.trans hfree)) ?_
  rw [RuntimeState.ready, hop]
  exact haccurate

/-- Under an update hold, or after one that has not been released. -/
theorem of_previous {shown : BackupState × Option DateTime} (hp : after.update_hold_previous_status = some shown)
    (hr : after.running = false) (ha : Accurate config.is_configured after.ready shown)
    (ho : after.repository_operation.isRunning = false)
    (hs : after.status.state = .Waiting .Update ∨ Accurate config.is_configured after.ready after.shown) :
    Honest config after where
  running hrunning := by
    rw [hr] at hrunning
    cases hrunning
  current hnone := by
    rw [hp] at hnone
    cases hnone
  previous shown' hshown := by
    obtain rfl : shown = shown' := Option.some.inj (hp.symm.trans hshown)
    exact ⟨ha, ho, hs⟩
  held _ := by
    rw [hp]
    rfl

/-- A configuration change that leaves it as configured as it was. What an update hold hides stays hidden. -/
theorem rescheduled (h : Honest config state) (hr : state.running = false)
    (hc : config'.is_configured = config.is_configured) (now : DateTime) :
    Honest config' (apply_configuration_status state config' now) := by
  rcases Option.eq_none_or_eq_some state.update_hold_previous_status with hp | ⟨shown, hp⟩
  · exact h.configured hp hr rfl rfl rfl rfl config' now
  · have hactivity := apply_configuration_status_activity config' now hr
    have hop : (apply_configuration_status state config' now).repository_operation = state.repository_operation :=
      congrArg Activity.repository_operation hactivity
    have hready : (apply_configuration_status state config' now).ready = state.ready :=
      congrArg repository_operation_allows_backup hop
    obtain ⟨haccurate, hidle, hshown⟩ := h.previous shown hp
    refine of_previous (by simpa using hp) ((congrArg Activity.running hactivity).trans hr) (by rw [hready, hc]; exact haccurate)
      (by rw [hop]; exact hidle) ?_
    rw [hready]
    rcases hshown with hupdate | hshown
    · unfold apply_configuration_status configuration_status
      cases hconf : config'.is_configured with
      | false =>
        simp only [RuntimeState.shown, Bool.false_eq_true, if_false, transition_state_state]
        exact .inr .of_unconfigured
      | true =>
        cases hready : repository_operation_allows_backup state.repository_operation with
        | false =>
          have hready : state.ready = false := hready
          simp only [RuntimeState.shown, hready, if_true, Bool.not_false, transition_state_state]
          exact .inr .of_validation
        | true =>
          refine .inl ?_
          simp [hupdate]
    · exact .inr (apply_configuration_status_accurate config' now hshown.not_update)

/-! ### Update holds -/

/-- A hold puts the status aside, unless one already is. -/
theorem hold (h : Honest config state) (hr : state.running = false) (hidle : state.repository_operation.isRunning = false)
    (hs : after.status.state = .Waiting .Update) (ho : after.repository_operation = state.repository_operation)
    (hp : after.update_hold_previous_status = state.update_hold_previous_status.or (some state.shown)) :
    Honest config after := by
  have hready : after.ready = state.ready := congrArg repository_operation_allows_backup ho
  have hr' : after.running = false := by rw [RuntimeState.running, hs]; rfl
  rcases Option.eq_none_or_eq_some state.update_hold_previous_status with hnone | ⟨shown, hsome⟩
  · rw [hnone] at hp
    exact of_previous hp hr' (hready ▸ h.current hnone hr) (ho ▸ hidle) (.inl hs)
  · rw [hsome] at hp
    exact of_previous hp hr' (hready ▸ (h.previous shown hsome).1) (ho ▸ hidle) (.inl hs)

/-- The end of a hold shows what was put aside. -/
theorem restored (h : Honest config state) (hr : state.running = false)
    (hrest : state.activity.restores_running = false) (now : DateTime) : Honest config (restore_status state now) := by
  have hactivity := restore_status_activity now hr hrest
  have hop : (restore_status state now).repository_operation = state.repository_operation :=
    congrArg Activity.repository_operation hactivity
  have hready : (restore_status state now).ready = state.ready := congrArg repository_operation_allows_backup hop
  have hr' : (restore_status state now).running = false := (congrArg Activity.running hactivity).trans hr
  have ha : (restore_status state now).update_install_active = false :=
    congrArg Activity.update_install_active hactivity
  have hh : (restore_status state now).update_hold_until = none := congrArg Activity.update_hold_until hactivity
  rcases Option.eq_none_or_eq_some state.update_hold_previous_status with hp | ⟨shown, hp⟩
  · refine of_accurate ?_ hr' ha hh ?_
    · simp [restore_status, hp]
    · rw [hready]
      simpa [restore_status, hp, RuntimeState.shown] using h.current hp hr
  · refine of_accurate ?_ hr' ha hh ?_
    · simp [restore_status, hp]
    · rw [hready]
      simpa [restore_status, hp, RuntimeState.shown] using (h.previous shown hp).1

theorem finished_update (h : Honest config state) (hactive : state.update_install_active = true)
    (hr : state.running = false) (hrest : state.activity.restores_running = false) (now : DateTime)
    (outcome : UpdateInstallOutcome) : Honest config (finish_update_install state now outcome) := by
  have hsome := h.held (.inl hactive)
  have kept (active : Bool) : Honest config { state with update_install_active := active } :=
    ⟨h.running, h.current, h.previous, fun _ => hsome⟩
  cases outcome with
  | Completed version => exact kept false
  | Failed code => exact h.restored hr hrest now
  | Indeterminate code => exact kept true

/-! ### Evaluation -/

/-- A hold that is over is released, and what it hid is shown. -/
theorem released (h : Honest config state) (hpending : state.update_pending now = false)
    (hrest : state.activity.restores_running = false) :
    Honest config (release_hold state now) ∧ (release_hold state now).update_hold_previous_status = none := by
  have hnone : (release_hold state now).update_hold_previous_status = none := by
    unfold release_hold
    simp only
    repeat' split
    all_goals rfl
  refine ⟨?_, hnone⟩
  have hactivity := release_hold_activity now hrest
  have hop : (release_hold state now).repository_operation = state.repository_operation :=
    congrArg Activity.repository_operation hactivity
  have hready : (release_hold state now).ready = state.ready := congrArg repository_operation_allows_backup hop
  have ha : (release_hold state now).update_install_active = state.update_install_active :=
    congrArg Activity.update_install_active hactivity
  have hh : (release_hold state now).update_hold_until = none := congrArg Activity.update_hold_until hactivity
  rcases Option.eq_none_or_eq_some state.update_hold_previous_status with hp | ⟨shown, hp⟩
  · refine h.of_same rfl ?_ hop (hnone.trans hp.symm) ha (hh.trans (h.not_held hp).2.symm)
    simp [release_hold, hp, RuntimeState.shown]
  · have hr : state.running = false := by
      by_contra hrunning
      have := (h.running (by simpa using hrunning)).2.2
      rw [hp] at this
      cases this
    obtain ⟨haccurate, -, hshown⟩ := h.previous shown hp
    refine of_accurate hnone ((congrArg Activity.running hactivity).trans hr)
      (ha.trans (update_pending_eq_false.1 hpending).1) hh ?_
    rw [hready]
    by_cases hu : state.status.state = .Waiting .Update
    · simpa [release_hold, hp, hu, RuntimeState.shown] using haccurate
    · simpa [release_hold, hp, hu, RuntimeState.shown] using hshown.resolve_left hu

/-- What is decided for a repository in use. -/
theorem decided {decision : ScheduleDecision} {action : ScheduleAction} (h : Honest config state)
    (hp : state.update_hold_previous_status = none) (hc : config.is_configured = true) (hready : state.ready = true)
    (hr : state.running = false ∨ decision = .AlreadyRunning)
    (hd : record_decision state now decision = some (after, action)) : Honest config after := by
  obtain ⟨ha, hh⟩ := h.not_held hp
  have idle {after : RuntimeState} (hp' : after.update_hold_previous_status = state.update_hold_previous_status)
      (ho' : after.repository_operation = state.repository_operation)
      (ha' : after.update_install_active = state.update_install_active)
      (hh' : after.update_hold_until = state.update_hold_until) (hr' : after.running = false)
      (hu : after.status.state ≠ .Unconfigured) (hw : after.status.state ≠ .Waiting .Update) : Honest config after := by
    refine of_accurate (hp'.trans hp) hr' (ha'.trans ha) (hh'.trans hh) ?_
    rw [hc, show after.ready = true from (congrArg repository_operation_allows_backup ho').trans hready]
    exact .of_ready hu hw
  cases decision with
  | AlreadyRunning =>
    obtain ⟨rfl, -⟩ := Prod.mk.inj (Option.some.inj hd)
    exact h
  | Start trigger =>
    obtain ⟨rfl, -⟩ := Prod.mk.inj (Option.some.inj hd)
    exact ⟨fun _ => ⟨hc, hready, hp⟩, fun _ hr' => (by cases hr'), fun shown hs => (by rw [hp] at hs; cases hs),
      fun hheld => by simp [ha, hh] at hheld⟩
  | Idle next =>
    obtain ⟨rfl, -⟩ := Prod.mk.inj (Option.some.inj hd)
    have hr := hr.resolve_right (by simp)
    have haccurate := h.current hp hr
    have hu : state.status.state ≠ .Unconfigured := fun hu => by
      have := haccurate.unconfigured.1 hu
      rw [hc] at this
      cases this
    refine idle rfl rfl rfl rfl ?_ ?_ ?_
    · simp only [RuntimeState.running] at hr ⊢
      split <;> simp [hr]
    · dsimp only
      split
      · simp
      · exact hu
    · dsimp only
      split
      · simp
      · exact haccurate.not_update
  | Waiting trigger blockers retry_at =>
    obtain ⟨blocker, -, hb⟩ := Option.map_eq_some_iff.1 hd
    obtain ⟨rfl, -⟩ := Prod.mk.inj hb
    refine idle rfl rfl rfl rfl ?_ ?_ ?_
    · simp [RuntimeState.running]
    · simp
    · cases blocker <;> simp [waiting_reason]

theorem evaluated {conditions : SystemConditions} {action : ScheduleAction} (h : Honest config state)
    (hrest : state.activity.restores_running = false)
    (he : evaluate_section config state now conditions = some (after, action)) : Honest config after ∧
      (state.update_pending now = false → after.update_hold_previous_status = none) := by
  have pending {status : ServiceStatus} (hs : status.state = .Waiting .Update)
      (hheld : state.update_install_active = true ∨ state.update_hold_until.isSome = true) :
      Honest config { state with status } := by
    obtain ⟨shown, hp⟩ := Option.isSome_iff_exists.1 (h.held hheld)
    obtain ⟨haccurate, hidle, -⟩ := h.previous shown hp
    refine of_previous hp ?_ haccurate hidle (.inl hs)
    rw [RuntimeState.running, hs]
    rfl
  unfold evaluate_section evaluate_with at he
  split at he
  · rename_i hactive
    obtain ⟨retry, -, he⟩ := Option.bind_eq_some_iff.1 he
    obtain ⟨rfl, -⟩ := Prod.mk.inj (Option.some.inj he)
    exact ⟨pending (by simp) (.inl hactive), fun hnot => by simp [RuntimeState.update_pending, hactive] at hnot⟩
  · rename_i hactive
    split at he
    · rename_i hhold
      obtain ⟨rfl, -⟩ := Prod.mk.inj (Option.some.inj he)
      refine ⟨pending (by simp) (.inr ?_), fun hnot => by simp [RuntimeState.update_pending, hhold] at hnot⟩
      cases hu : state.update_hold_until with
      | none => simp [hu] at hhold
      | some deadline => rfl
    · rename_i hhold
      have hpending : state.update_pending now = false := by simpa [RuntimeState.update_pending, hactive] using hhold
      obtain ⟨hreleased, hnone⟩ := h.released hpending hrest
      simp only at he
      split at he
      · obtain ⟨rfl, -⟩ := Prod.mk.inj (Option.some.inj he)
        exact ⟨hreleased, fun _ => hnone⟩
      · rename_i hready
        obtain ⟨decision, hdecision, he⟩ := Option.bind_eq_some_iff.1 he
        simp only [Bool.or_eq_true, Bool.not_eq_true', not_or, Bool.not_eq_true, Bool.not_eq_false] at hready
        refine ⟨hreleased.decided hnone hready.1.1 hready.2 (Schedule.decide_running hdecision) he, fun _ => ?_⟩
        refine Eq.trans ?_ hnone
        cases decision with
        | AlreadyRunning | Start _ | Idle _ =>
          obtain ⟨rfl, -⟩ := Prod.mk.inj (Option.some.inj he)
          rfl
        | Waiting trigger blockers retry_at =>
          obtain ⟨blocker, -, hb⟩ := Option.map_eq_some_iff.1 he
          obtain ⟨rfl, -⟩ := Prod.mk.inj hb
          rfl

/-! ### Backups and repository operations -/

/-- A backup that is running still is. -/
theorem still_running (h : Honest config state) (hr : state.running = true) (hr' : after.running = true)
    (ho : after.repository_operation = state.repository_operation)
    (hp : after.update_hold_previous_status = state.update_hold_previous_status)
    (ha : after.update_install_active = state.update_install_active)
    (hh : after.update_hold_until = state.update_hold_until) : Honest config after := by
  obtain ⟨hc, hready, hnone⟩ := h.running hr
  obtain ⟨hinactive, hfree⟩ := h.not_held hnone
  refine ⟨fun _ => ⟨hc, ?_, hp.trans hnone⟩, fun _ hnot => ?_, fun shown hs => ?_, fun hheld => ?_⟩
  · rw [RuntimeState.ready, ho]
    exact hready
  · rw [hr'] at hnot
    cases hnot
  · rw [hp, hnone] at hs
    cases hs
  · simp [ha, hh, hinactive, hfree] at hheld

theorem progressed (h : Honest config state) (progress : BackupProgress) : Honest config (update_progress state progress) := by
  unfold update_progress
  split
  · rename_i hr
    exact h.still_running hr rfl rfl rfl rfl rfl
  · exact h

theorem retaining (h : Honest config state) (hr : state.running = true) (mode : RepositoryMode)
    (prune_interval_days : UInt32) (now : DateTime) :
    Honest config (begin_retention_section mode prune_interval_days state now).1 := by
  unfold begin_retention_section
  split
  · exact h
  · exact h.still_running hr rfl rfl rfl rfl rfl

/-- A backup only runs on a repository in use, and says how it ended. -/
theorem backed_up {interval_hours : UInt32} {outcome : BackupOutcome} (h : Honest config state)
    (hr : state.running = true) (hf : finish_backup_section interval_hours state now outcome = some after) :
    Honest config after := by
  obtain ⟨hc, hready, hnone⟩ := h.running hr
  obtain ⟨hinactive, hfree⟩ := h.not_held hnone
  obtain ⟨hactivity, -⟩ := finish_backup_section_ended hf
  have hop : after.repository_operation = state.repository_operation :=
    congrArg Activity.repository_operation hactivity
  have hended : after.update_hold_previous_status = state.update_hold_previous_status ∧
      after.status.state = backup_state outcome.kind := by
    unfold finish_backup_section finish_backup_by at hf
    simp only at hf
    split at hf
    · obtain rfl := Option.some.inj hf
      exact ⟨rfl, rfl⟩
    · obtain ⟨retry_at, -, rfl⟩ := Option.map_eq_some_iff.1 hf
      exact ⟨rfl, rfl⟩
  have hstate : after.status.state ≠ .Unconfigured ∧ after.status.state ≠ .Waiting .Update := by
    rw [hended.2]
    cases outcome.kind <;> simp [backup_state]
  refine of_accurate (hended.1.trans hnone) (congrArg Activity.running hactivity)
    ((congrArg Activity.update_install_active hactivity).trans hinactive)
    ((congrArg Activity.update_hold_until hactivity).trans hfree) ?_
  rw [hc, show after.ready = true from (congrArg repository_operation_allows_backup hop).trans hready]
  exact .of_ready hstate.1 hstate.2

/-- An operation that ends leaves the status its outcome asks for. -/
theorem operated {runtime : ServiceRuntime} (h : Honest config runtime.state) (operation : RepositoryOperationKind)
    (outcome : RepositoryOutcomeKind) (completed_at : DateTime) (written : Bool)
    (hr : runtime.state.repository_operation = .Running operation → runtime.state.running = false) :
    Honest config (finish_repository_section config runtime operation outcome completed_at written).state := by
  unfold finish_repository_section
  split
  · exact h
  · rename_i hop
    have hop : runtime.state.repository_operation = .Running operation := by simpa using hop
    have hnone : runtime.state.update_hold_previous_status = none := by
      rcases Option.eq_none_or_eq_some runtime.state.update_hold_previous_status with hp | ⟨shown, hp⟩
      · exact hp
      · have hidle := (h.previous shown hp).2.1
        rw [hop] at hidle
        cases hidle
    have hmid : (record_repository_outcome runtime config operation completed_at written outcome).state.status =
          runtime.state.status ∧
        (record_repository_outcome runtime config operation completed_at written outcome).state.update_hold_previous_status =
          runtime.state.update_hold_previous_status := by
      cases outcome with
      | Succeeded =>
        unfold record_repository_outcome
        simp only
        split
        · exact ⟨rfl, rfl⟩
        · rename_i saved hs
          rw [save_state_eq_some hs]
          exact ⟨rfl, rfl⟩
      | _ => exact ⟨rfl, rfl⟩
    obtain ⟨-, ⟨status, -, hactivity⟩, -⟩ :=
      record_repository_outcome_ended runtime config operation completed_at written outcome
    exact h.configured hnone (hr hop) (congrArg ServiceStatus.state hmid.1) hmid.2
      (congrArg Activity.update_install_active hactivity) (congrArg Activity.update_hold_until hactivity) config
      completed_at

/-- An operation that begins, or cannot, makes the repository one that needs validation. -/
theorem operating {runtime : ServiceRuntime} {io : RequestIo} (h : Honest config runtime.state)
    (hp : runtime.state.update_hold_previous_status = none) (operation : RepositoryOperationKind) :
    Honest config (begin_repository_section config runtime operation io).1.state := by
  have hbegun := @begin_repository_section_begun runtime io config operation
  generalize (begin_repository_section config runtime operation io).1 = after at hbegun ⊢
  cases hbegun with
  | refused => exact h
  | begun _ running _ allows =>
    obtain ⟨ha, hh⟩ := h.not_held hp
    have haccurate := h.current hp running
    cases hc : config.is_configured with
    | true =>
      refine of_accurate hp ?_ ha hh ?_
      · simp [RuntimeState.running]
      · rw [hc, RuntimeState.ready, allows]
        simpa [RuntimeState.shown, hc] using Accurate.of_validation
    | false =>
      refine of_accurate hp ?_ ha hh ?_
      · simpa [RuntimeState.running, hc] using running
      · rw [hc] at haccurate ⊢
        simp only [RuntimeState.shown, Bool.false_eq_true, if_false]
        exact ⟨haccurate.unconfigured, fun hc' => (by cases hc'), haccurate.not_update⟩

/-! ### New configurations -/

theorem installed {runtime : ServiceRuntime} {loc : EffectiveConfig} (h : Honest loc runtime.state)
    (hp : runtime.state.update_hold_previous_status = none) (hr : runtime.state.running = false)
    (resolved : ResolvedConfig) (now : DateTime) (written : Bool) :
    Honest resolved.effective (install_resolved runtime resolved now written).state := by
  unfold install_resolved
  simp only
  split
  · rw [save_state_getD]
    refine h.configured hp hr ?_ ?_ ?_ ?_ _ _
    all_goals rfl
  · refine h.configured hp hr ?_ ?_ ?_ ?_ _ _
    all_goals rfl

/-- The start shows what it found. -/
theorem started (resolved : ResolvedConfig) (loc : LocalConfig) (service_state : ServiceStateSnapshot)
    (config_store : LocalConfigStore) (credential_store : Option CredentialStore)
    (state_store : StoredFile PersistedScheduleState) (policy_cache : ManagedPolicyCache) (now : DateTime) :
    Honest resolved.effective (from_resolved_with_state resolved loc service_state config_store credential_store
      state_store policy_cache now).state := by
  have hshown : Accurate resolved.effective.is_configured
      (from_resolved_with_state resolved loc service_state config_store credential_store state_store policy_cache
        now).state.ready
      (from_resolved_with_state resolved loc service_state config_store credential_store state_store policy_cache
        now).state.shown := by
    simp only [from_resolved_with_state, RuntimeState.ready, RuntimeState.shown]
    generalize repository_operation_allows_backup _ = ready
    cases resolved.effective.is_configured with
    | false => exact .of_unconfigured
    | true =>
      cases ready with
      | false => exact .of_validation
      | true => exact .of_ready (by simp) (by simp)
  refine of_accurate rfl ?_ rfl rfl hshown
  simp only [from_resolved_with_state, RuntimeState.running]
  repeat' split
  all_goals rfl

end Honest

end ResticPal
