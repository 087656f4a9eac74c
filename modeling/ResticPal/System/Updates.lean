import ResticPal.System.Exclusion
/-!
# Updates fail closed

- `updates_fail_closed`: from the request that starts an update or holds backups
  for one until the hold is over, nothing starts and nothing that an installer
  could trip over changes; after an install whose outcome is not known, never
  again.

Every handler asks whether an update is pending at its own clock reading. What a
user was promised is kept apart from the flags that answer this: `UpdateGuard`
follows the accepted requests and the outcomes of installs, and the invariant
is that the flags never promise less.
-/

open Lib

namespace ResticPal

/-- Both runtimes have one configuration, one set of credentials and one repository operation. -/
structure Untouched (before after : ServiceRuntime) : Prop where
  same : SameConfig before after
  credential_store : after.credential_store = before.credential_store
  repository_operation : after.state.repository_operation = before.state.repository_operation

theorem Untouched.refl (runtime : ServiceRuntime) : Untouched runtime runtime := ⟨.refl runtime, rfl, rfl⟩

/-! ## Requests during an update -/

section Pending

variable {ext : External} {runtime : ServiceRuntime} {command : RequestCommand} {elevated : Bool} {io : RequestIo}

theorem busy_of_pending {state : RuntimeState} {now : DateTime} (h : state.update_pending now = true) :
    state.busy now = true := by
  simp [RuntimeState.busy, h]

theorem begin_enrollment_pending {now : DateTime} (h : runtime.state.update_pending now = true) :
    begin_enrollment runtime now = none := by
  rw [begin_enrollment, busy_of_pending h]
  rfl

/-- No second hold starts during an update. -/
theorem Holdable.not_pending {state : RuntimeState} {now : DateTime} (h : Holdable state now) :
    state.update_pending now = false := Bool.or_eq_false_iff.2 ⟨h.inactive, h.expired⟩

theorem begin_repository_section_pending {config : EffectiveConfig} {operation : RepositoryOperationKind}
    (h : runtime.state.update_pending io.now = true) : begin_repository_section config runtime operation io =
      (runtime, rejected "update_pending" "A resticpal update is about to start. Try again after it finishes.") := if_pos h

theorem begin_repository_pending {operation : RepositoryOperationKind} (h : runtime.state.update_pending io.now = true) :
    (runtime.begin_repository_operation operation elevated io).2.isAccepted = false := by
  unfold ServiceRuntime.begin_repository_operation
  split
  · rfl
  · split
    · exact check_repository_operation_refuses _ _ _ ‹_›
    · rw [begin_repository_section_pending h]
      rfl

/-- During an update a request can only ask for a backup later on. -/
theorem handle_request_pending (h : runtime.state.update_pending io.now = true) :
    Untouched runtime (runtime.handle_request ext command elevated io).1 ∧
      (runtime.handle_request ext command elevated io).1.state.activity = runtime.state.activity := by
  have unreached (hpending : runtime.state.update_pending io.now = false) : False := by
    rw [h] at hpending
    cases hpending
  have hhandled := handle_request_handled ext runtime command elevated io
  generalize runtime.handle_request ext command elevated io = after at hhandled ⊢
  cases hhandled with
  | unchanged => exact ⟨.refl runtime, rfl⟩
  | enrolled begins =>
    rw [begin_enrollment_pending h] at begins
    cases begins
  | unenrolled _ _ _ idle => exact (unreached (busy_eq_false.1 idle).2.2.2).elim
  | validates | initializes =>
    rw [begin_repository_section_pending h]
    exact ⟨.refl runtime, rfl⟩
  | repository check => exact (unreached (check_repository_edit_guards check).1.2).elim
  | sources _ checked | schedule _ checked | retention _ checked | settings _ _ checked =>
    exact (unreached checked.2).elim
  | requested _ pending => exact (unreached pending).elim
  | deferred => exact ⟨⟨⟨rfl, rfl, rfl, rfl⟩, rfl, rfl⟩, rfl⟩
  | held hold | installing hold | abandoned hold => exact (unreached hold.not_pending).elim

/-- What an accepted hold finds and leaves. -/
structure HoldBegun (before after : ServiceRuntime) (active : Bool) (deadline : DateTime) : Prop where
  running : before.state.running = false
  operation : before.state.repository_operation.isRunning = false
  management : before.state.management_operation_active = false
  activity : after.state.activity = { before.state.activity with
    update_install_active := active, update_hold_until := some deadline }

theorem prepare_for_update_accepted {hold_seconds : UInt32}
    (h : (runtime.prepare_for_update hold_seconds elevated io).2.isAccepted = true) :
    HoldBegun runtime (runtime.prepare_for_update hold_seconds elevated io).1 false
      (hold_deadline io.now hold_seconds) := by
  have hhandled := @Handled.of_prepare_for_update .inert runtime elevated io hold_seconds
  generalize runtime.prepare_for_update hold_seconds elevated io = after at hhandled h ⊢
  cases hhandled with
  | unchanged refusal => rcases refusal h with hc | ⟨hc, -⟩ <;> cases hc
  | held hold =>
    refine ⟨hold.running, hold.operation, hold.management, (begin_hold_activity _ _ hold.running).trans ?_⟩
    rw [← hold.inactive]
    rfl

theorem begin_update_install_accepted {package : UpdatePackage}
    (h : (ServiceRuntime.begin_update_install ext runtime package io).2.isAccepted = true) :
    HoldBegun runtime (ServiceRuntime.begin_update_install ext runtime package io).1 true
      (hold_deadline io.now MAX_UPDATE_HOLD_SECONDS) := by
  have hhandled := @Handled.of_begin_update_install ext runtime true io package
  generalize ServiceRuntime.begin_update_install ext runtime package io = after at hhandled h ⊢
  cases hhandled with
  | unchanged refusal => rcases refusal h with hc | ⟨hc, -⟩ <;> cases hc
  | installing hold =>
    exact ⟨hold.running, hold.operation, hold.management, begin_install_activity _ _ hold.running⟩
  | abandoned => cases h

end Pending

/-! ## What was promised -/

/-- What the accepted requests and the installs so far have the service wait for. -/
structure UpdateGuard where
  /-- An install was accepted, and has neither completed nor failed. -/
  installing : Bool
  /-- The deadline of the last hold. -/
  deadline : Option DateTime
  deriving DecidableEq

namespace UpdateGuard

def none : UpdateGuard := ⟨false, .none⟩

/-- The update is not over at this clock reading. -/
def holds (guard : UpdateGuard) (now : DateTime) : Bool :=
  guard.installing || guard.deadline.any (fun deadline => now < deadline)

/-- A step that finds the update over ends it. -/
def seen (guard : UpdateGuard) (now : DateTime) : UpdateGuard := if guard.holds now then guard else none

/-- The guard after a step. -/
def after (ext : External) (s : System) (guard : UpdateGuard) : Label → UpdateGuard
  | .request (.PrepareForUpdate hold_seconds) elevated io =>
    if (s.runtime.prepare_for_update hold_seconds elevated io).2.isAccepted then
      ⟨false, some (hold_deadline io.now hold_seconds)⟩
    else guard.seen io.now
  | .request (.InstallUpdate package) _ io =>
    if (ServiceRuntime.begin_update_install ext s.runtime package io).2.isAccepted then
      ⟨true, some (hold_deadline io.now MAX_UPDATE_HOLD_SECONDS)⟩
    else guard.seen io.now
  | .finishUpdate (.Completed _) _ => { guard with installing := false }
  | .finishUpdate (.Failed _) _ => none
  | .finishUpdate (.Indeterminate _) _ => { guard with installing := true }
  | l => l.now.elim guard guard.seen

end UpdateGuard

namespace System

/-- The service together with what it has promised. -/
def guarded_step (ext : External) (s : System × UpdateGuard) (l : Label) : Option (System × UpdateGuard) :=
  (step ext s.1 l).map (fun u => (u, s.2.after ext s.1 l))

/-- At this clock reading nothing starts, and no step changes the configuration,
the locks, the credentials or the repository operation. -/
structure Closed (ext : External) (s : System) (now : DateTime) : Prop where
  no_start : ∀ conditions after trigger, s.runtime.evaluate_schedule now conditions ≠ some (after, .Start trigger)
  no_operation : ∀ operation elevated io, io.now = now →
    (s.runtime.begin_repository_operation operation elevated io).2.isAccepted = false
  no_enrollment : begin_enrollment s.runtime now = none
  untouched : ∀ l u, (∀ reading ∈ l.now, reading = now) → step ext s l = some u → Untouched s.runtime u.runtime

/-- The flags keep the promise, and whatever it rules out is not under way. -/
structure Guarded (s : System) (guard : UpdateGuard) : Prop where
  installing : guard.installing = true → s.runtime.state.update_install_active = true
  deadline : ∀ deadline ∈ guard.deadline, s.runtime.state.update_hold_until = some deadline
  idle : guard.installing = true ∨ guard.deadline.isSome → s.backup = none ∧
    s.runtime.state.repository_operation.isRunning = false ∧ s.enrolling = false

variable {ext : External} {s u : System} {l : Label} {guard : UpdateGuard} {now : DateTime}

/-! ## One step -/

/-- A step while an update is pending at its clock reading and nothing is under way. -/
theorem step_pending (hsound : Sound s) (hbackup : s.backup = none)
    (hop : s.runtime.state.repository_operation.isRunning = false) (hidle : s.enrolling = false)
    (hp : ∀ reading ∈ l.now, s.runtime.state.update_pending reading = true) (hs : step ext s l = some u) :
    Untouched s.runtime u.runtime ∧ u.backup = none ∧ u.enrolling = false ∧
      ((∀ outcome reading, l ≠ .finishUpdate outcome reading) →
        u.runtime.state.activity = s.runtime.state.activity) := by
  have hr : s.runtime.state.running = false := by
    have := hsound.backup
    rw [hbackup] at this
    exact this
  have idle {worker : BackupWorker} (hw : s.backup = some worker) : False := by
    rw [hbackup] at hw
    cases hw
  cases step_ran hs with
  | @request command elevated io _ =>
    obtain ⟨hu, ha⟩ := @handle_request_pending ext s.runtime command elevated io (hp _ rfl)
    exact ⟨hu, hbackup, hidle, fun _ => ha⟩
  | beganEnroll begins =>
    rw [begin_enrollment_pending (hp _ rfl)] at begins
    cases begins
  | finishedEnroll enrolling =>
    rw [hidle] at enrolling
    cases enrolling
  | @appliedPolicy policy expected reading written =>
    rcases @apply_managed_policy_applied s.runtime policy expected reading written with
      ⟨hsame, -⟩ | ⟨-, -, -, -, hnot, -⟩
    · rw [hsame]
      exact ⟨.refl _, hbackup, hidle, fun _ => rfl⟩
    · rw [hp _ rfl] at hnot
      cases hnot
  | @evaluated reading conditions state action evaluates =>
    cases evaluate_section_evaluated hsound.exclusive.restores evaluates with
    | held _ ha =>
      have ha : state.activity = s.runtime.state.activity := by
        rw [ha, ← show s.runtime.state.activity.running = false from hr]
      exact ⟨⟨⟨rfl, rfl, rfl, rfl⟩, rfl, congrArg Activity.repository_operation ha⟩, hbackup, hidle, fun _ => ha⟩
    | idle hnot =>
      rw [hp _ rfl] at hnot
      cases hnot
    | started hnot =>
      rw [hp _ rfl] at hnot
      cases hnot
  | resumed => exact ⟨⟨⟨rfl, rfl, rfl, rfl⟩, rfl, rfl⟩, hbackup, hidle, fun _ => rfl⟩
  | @finishedUpdate outcome reading _ =>
    obtain ⟨active, hold, -, ha⟩ := finish_update_install_activity reading outcome hr hsound.exclusive.restores
    exact ⟨⟨⟨rfl, rfl, rfl, rfl⟩, rfl, congrArg Activity.repository_operation ha⟩, hbackup, hidle,
      fun hne => absurd rfl (hne outcome reading)⟩
  | @finishedRepository operation outcome reading written =>
    have hne : s.runtime.state.repository_operation ≠ .Running operation := by
      intro h
      rw [h] at hop
      cases hop
    rw [show s.runtime.finish_repository_operation operation outcome reading written = s.runtime from if_pos hne]
    exact ⟨.refl _, hbackup, hidle, fun _ => rfl⟩
  | progressed worker =>
    rw [hbackup] at worker
    cases worker
  | spawnFailed worker | copiedConfig worker | endedBackup worker | beganRetention worker | retained worker
  | finishedBackup worker => exact (idle worker).elim

namespace Guarded

theorem none (s : System) : Guarded s .none :=
  ⟨(fun h => by cases h), (fun _ h => by cases h), (fun h => by rcases h with h | h <;> cases h)⟩

theorem pending (h : Guarded s guard) (hg : guard.holds now = true) : s.runtime.state.update_pending now = true := by
  rcases Bool.or_eq_true_iff.1 hg with hg | hg
  · simp [RuntimeState.update_pending, h.installing hg]
  · obtain ⟨deadline, hd, hlt⟩ := (Option.any_eq_true _ _).1 hg
    rw [RuntimeState.update_pending, h.deadline deadline hd]
    exact Bool.or_eq_true_iff.2 (.inr hlt)

/-- A promise that holds now is about something. -/
theorem idle_of_holds (h : Guarded s guard) (hg : guard.holds now = true) : s.backup = .none ∧
    s.runtime.state.repository_operation.isRunning = false ∧ s.enrolling = false := by
  apply h.idle
  rcases Bool.or_eq_true_iff.1 hg with hg | hg
  · exact .inl hg
  · obtain ⟨deadline, hd, -⟩ := (Option.any_eq_true _ _).1 hg
    exact .inr (hd ▸ rfl)

theorem closed (h : Guarded s guard) (hsound : Sound s) (hg : guard.holds now = true) : Closed ext s now := by
  have hp := h.pending hg
  obtain ⟨hb, ho, he⟩ := h.idle_of_holds hg
  refine ⟨fun conditions after trigger hstart => ?_, fun operation elevated io hnow => ?_, begin_enrollment_pending hp,
    fun l u hl hs => ?_⟩
  · obtain ⟨⟨state, action⟩, hsection, hstart⟩ := Option.map_eq_some_iff.1 hstart
    obtain ⟨-, rfl⟩ := Prod.mk.inj hstart
    cases evaluate_section_evaluated hsound.exclusive.restores hsection with
    | started hnot =>
      rw [hp] at hnot
      cases hnot
  · exact begin_repository_pending (hnow ▸ hp)
  · exact (step_pending hsound hb ho he (fun reading hr => hl reading hr ▸ hp) hs).1

/-- Nothing the promise is about changes, in a step that is not the end of an install. -/
theorem of_activity (h : Guarded s guard) (ha : u.runtime.state.activity = s.runtime.state.activity)
    (hb : u.backup = .none) (he : u.enrolling = false) : Guarded u guard := by
  refine ⟨fun hg => ?_, fun deadline hd => ?_, fun hg => ⟨hb, ?_, he⟩⟩
  · exact (congrArg Activity.update_install_active ha).trans (h.installing hg)
  · exact (congrArg Activity.update_hold_until ha).trans (h.deadline deadline hd)
  · exact (congrArg (fun a => a.repository_operation.isRunning) ha).trans (h.idle hg).2.1

theorem seen (h : Guarded s guard) (hsound : Sound s) (hs : step ext s l = some u) (hl : l.now = some now)
    (hne : ∀ outcome reading, l ≠ .finishUpdate outcome reading) : Guarded u (guard.seen now) := by
  unfold UpdateGuard.seen
  split
  · rename_i hg
    obtain ⟨hb, ho, he⟩ := h.idle_of_holds hg
    have hp : ∀ reading ∈ l.now, s.runtime.state.update_pending reading = true := by
      intro reading hr
      obtain rfl : now = reading := Option.some.inj (hl.symm.trans hr)
      exact h.pending hg
    obtain ⟨-, hb', he', ha⟩ := step_pending hsound hb ho he hp hs
    exact h.of_activity (ha hne) hb' he'
  · exact .none u

theorem begun {after : ServiceRuntime} {active : Bool} {deadline : DateTime} (hsound : Sound s)
    (hb : HoldBegun s.runtime after active deadline) (hu : u.runtime = after) (hub : u.backup = s.backup)
    (hue : u.enrolling = s.enrolling) : Guarded u ⟨active, some deadline⟩ := by
  subst hu
  have hnone : s.backup = .none := hsound.no_worker hb.running
  refine ⟨fun hg => ?_, fun d hd => ?_, fun _ => ⟨hub.trans hnone, ?_, ?_⟩⟩
  · exact (congrArg Activity.update_install_active hb.activity).trans hg
  · exact (congrArg Activity.update_hold_until hb.activity).trans hd
  · exact (congrArg (fun a => a.repository_operation.isRunning) hb.activity).trans hb.operation
  · exact (hue.trans hsound.enrolling.symm).trans hb.management

/-- The end of an install keeps what its outcome leaves of the promise. -/
theorem finish_update {outcome : UpdateInstallOutcome} (h : Guarded s guard) (hsound : Sound s)
    (hs : step ext s (.finishUpdate outcome now) = some u) :
    Guarded u (guard.after ext s (.finishUpdate outcome now)) := by
  cases step_ran hs with
  | finishedUpdate pending =>
    cases outcome with
    | Completed version =>
      exact ⟨(fun hg => by cases hg), h.deadline, fun hg => h.idle (.inr (hg.resolve_left Bool.false_ne_true))⟩
    | Failed code => exact .none _
    | Indeterminate code =>
      obtain ⟨hr, ho, hm⟩ := hsound.exclusive.alone_of_install (hsound.update pending)
      exact ⟨fun _ => rfl, h.deadline, fun _ => ⟨hsound.no_worker hr, ho, hsound.enrolling.symm.trans hm⟩⟩

protected theorem step (h : Guarded s guard) (hsound : Sound s) (hs : step ext s l = some u) :
    Guarded u (guard.after ext s l) := by
  cases l with
  | request command elevated io =>
    cases command with
    | PrepareForUpdate hold_seconds =>
      have hseen : Guarded u (guard.seen io.now) := h.seen hsound hs rfl (by simp)
      simp only [UpdateGuard.after]
      split
      · rename_i haccepted
        simp only [System.step, advance] at hs
        split at hs
        · cases hs
        · cases hs
          exact begun hsound (prepare_for_update_accepted haccepted) rfl rfl rfl
      · exact hseen
    | InstallUpdate package =>
      have hseen : Guarded u (guard.seen io.now) := h.seen hsound hs rfl (by simp)
      simp only [UpdateGuard.after]
      split
      · rename_i haccepted
        simp only [System.step, advance] at hs
        split at hs
        · cases hs
        · cases hs
          exact begun hsound (begin_update_install_accepted haccepted) rfl rfl rfl
      · exact hseen
    | _ => exact h.seen hsound hs rfl (by simp)
  | finishUpdate outcome reading => exact h.finish_update hsound hs
  | spawnFailed | copyConfig | progress =>
    by_cases hg : guard.installing = true ∨ guard.deadline.isSome
    · obtain ⟨hb, ho, he⟩ := h.idle hg
      obtain ⟨-, hb', he', ha⟩ := step_pending hsound hb ho he (fun _ hr => by cases hr) hs
      exact h.of_activity (ha (by simp)) hb' he'
    · simp only [not_or, Bool.not_eq_true, Option.isSome_eq_false_iff, Option.isNone_iff_eq_none] at hg
      obtain rfl : guard = .none := by cases guard; cases hg.1; cases hg.2; rfl
      exact .none u
  | _ => exact h.seen hsound hs rfl (by simp)

end Guarded

/-! ## An install whose outcome is not known -/

/-- The install flag is set, and no worker is left to clear it. -/
structure Stuck (s : System) : Prop where
  active : s.runtime.state.update_install_active = true
  update : s.update = false
  backup : s.backup = none
  operation : s.runtime.state.repository_operation.isRunning = false
  enrolling : s.enrolling = false

namespace Stuck

theorem guarded (h : Stuck s) : Guarded s ⟨true, none⟩ :=
  ⟨fun _ => h.active, (fun _ hd => by cases hd), fun _ => ⟨h.backup, h.operation, h.enrolling⟩⟩

theorem of_indeterminate {code : String} (hsound : Sound s)
    (hs : System.step ext s (.finishUpdate (.Indeterminate code) now) = some u) : Stuck u := by
  have hguarded := (Guarded.none s).finish_update hsound hs
  obtain ⟨hb, ho, he⟩ := hguarded.idle (.inl rfl)
  refine ⟨hguarded.installing rfl, ?_, hb, ho, he⟩
  cases step_ran hs with
  | finishedUpdate => rfl

theorem update_step (h : Stuck s) (hsound : Sound s) (hs : System.step ext s l = some u) : u.update = false := by
  cases step_effect hsound hs with
  | request _ effect =>
    cases effect with
    | held _ inactive =>
      rw [h.active] at inactive
      cases inactive
    | kept _ _ _ update | began _ _ _ _ _ update | edited _ _ _ _ _ _ _ _ _ update
    | unenrolled _ _ _ _ _ _ _ _ _ _ _ update | enrolled _ _ _ update => simp [h.update, update]
  | finishedUpdate => rfl
  | _ => exact h.update

protected theorem step (h : Stuck s) (hsound : Sound s) (hs : System.step ext s l = some u) : Stuck u := by
  have hp : ∀ reading ∈ l.now, s.runtime.state.update_pending reading = true := by
    intro reading _
    simp [RuntimeState.update_pending, h.active]
  have hne : ∀ outcome reading, l ≠ .finishUpdate outcome reading := by
    rintro outcome reading rfl
    simp [System.step, advance, h.update] at hs
  obtain ⟨-, hb, he, ha⟩ := step_pending hsound h.backup h.operation h.enrolling hp hs
  have ha := ha hne
  exact ⟨(congrArg Activity.update_install_active ha).trans h.active, h.update_step hsound hs, hb,
    (congrArg (fun a => a.repository_operation.isRunning) ha).trans h.operation, he⟩

end Stuck

/-- In every run, for as long as an accepted update or hold is not over at a
step's own clock reading: no backup, repository operation or enrollment starts
then, and no step changes the configuration, the locks, the credentials or the
repository operation. After an install whose outcome is not known this holds at
every clock reading, whatever the service does next. -/
theorem updates_fail_closed {s₀ : System} {ls : List Label} (h₀ : Starts ext s₀)
    (h : Run (guarded_step ext) (fun _ _ => True) (s₀, .none) ls (s, guard)) :
    (∀ now, guard.holds now = true → Closed ext s now) ∧
    ∀ code reading u ls' v, step ext s (.finishUpdate (.Indeterminate code) reading) = some u →
      Run (step ext) (fun _ _ => True) u ls' v → ∀ now, Closed ext v now := by
  obtain ⟨hsound, hguarded⟩ : Sound s ∧ Guarded s guard := by
    refine h.inv (fun s => Sound s.1 ∧ Guarded s.1 s.2) ?_ ⟨h₀.sound, .none s₀⟩
    rintro t l u ⟨hsound, hguarded⟩ - hs
    obtain ⟨v, hv, rfl⟩ := Option.map_eq_some_iff.1 hs
    exact ⟨hsound.step hv, hguarded.step hsound hv⟩
  refine ⟨fun now hg => hguarded.closed hsound hg, fun code reading u ls' v hs hrun now => ?_⟩
  obtain ⟨hsound', hstuck⟩ : Sound v ∧ Stuck v := by
    refine hrun.inv (fun v => Sound v ∧ Stuck v) ?_ ⟨hsound.step hs, .of_indeterminate hsound hs⟩
    rintro t l u ⟨hsound, hstuck⟩ - hs
    exact ⟨hsound.step hs, hstuck.step hsound hs⟩
  exact hstuck.guarded.closed hsound' rfl

namespace FreshInstall

/-- The service and its promise once a hold of a minute is accepted. -/
def held : Option (System × UpdateGuard) := runList (guarded_step .inert) (fun _ _ => True) (started, .none)
  [.request (.PrepareForUpdate 60) true (.quiet .UNIX_EPOCH), .evaluate .UNIX_EPOCH HomeDevice.conditions]

theorem held_isSome : held.isSome := by decide

theorem held_service_is_closed : (held.get held_isSome).2 = ⟨false, some (hold_deadline .UNIX_EPOCH 60)⟩ ∧
    Closed .inert (held.get held_isSome).1 .UNIX_EPOCH :=
  ⟨by decide, (updates_fail_closed started_starts (.of_isSome held_isSome)).1 _ (by decide)⟩

end FreshInstall

end System

end ResticPal
