import ResticPal.Runtime.Maintenance
import ResticPal.System.Timing
/-!
# When a prune is due

`begin_retention` plans a prune when the configured interval has passed since the last
one, whose time is kept in `state.json`. Nothing but a successful prune changes that
time, and nothing compares it with the clock.

- `System.step_last_prune`: the time after a step.
- `System.prune_is_due_iff`: the plan of a backup, when no prune succeeded since an
  earlier one.
- `System.PrunedTomorrow.prune_is_suppressed`: a time in the future.
-/

open Lib

namespace ResticPal

/-! ## What keeps the time of the last prune -/

theorem Revalidated.last_prune {effective : EffectiveConfig} {before after : RuntimeState}
    (h : Revalidated effective before after) : after.service_state.last_prune = before.service_state.last_prune := by
  rcases h with ⟨-, -, hs⟩ | ⟨-, hs⟩ <;> rw [hs]
  rfl

section Requests

variable {ext : External} {runtime after : ServiceRuntime} {command : RequestCommand} {elevated : Bool} {io : RequestIo}
  {response : ResponsePayload}

theorem EnrollFinished.last_prune (h : EnrollFinished ext.parse_url runtime io after response) :
    after.state.service_state.last_prune = runtime.state.service_state.last_prune := by
  cases h with
  | failed _ _ _ service_state => rw [service_state]
  | committed _ _ committed =>
    obtain ⟨resolved, -, -, -, hre⟩ := committed.resolved
    exact hre.last_prune

theorem RequestEffect.last_prune (h : RequestEffect ext runtime command elevated io after response) :
    after.state.service_state.last_prune = runtime.state.service_state.last_prune := by
  cases h with
  | kept _ _ service_state => rw [service_state]
  | began _ _ _ _ _ _ _ _ service_state =>
    rw [service_state]
    rfl
  | held _ _ _ _ _ _ service_state => rw [service_state]
  | edited _ _ _ _ _ _ _ _ connection =>
    rcases connection with ⟨-, -, hs⟩ | ⟨-, -, -, hs⟩
    · rw [hs]
    · rw [hs]
      rfl
  | unenrolled _ _ _ _ _ _ _ _ _ _ service_state => rw [service_state]
  | enrolled _ begins finished =>
    obtain ⟨-, -, -, hs⟩ := begin_enrollment_activity begins
    exact hs ▸ finished.last_prune

theorem finish_repository_last_prune (runtime : ServiceRuntime) (operation : RepositoryOperationKind)
    (outcome : RepositoryOutcomeKind) (now : DateTime) (written : Bool) :
    (runtime.finish_repository_operation operation outcome now written).state.service_state.last_prune =
      runtime.state.service_state.last_prune := by
  unfold ServiceRuntime.finish_repository_operation finish_repository_section
  split
  · rfl
  · dsimp only
    rw [apply_configuration_status_service_state]
    cases outcome with
    | Failed code => rfl
    | Cancelled => rfl
    | Succeeded =>
      unfold record_repository_outcome
      dsimp only
      split
      · rfl
      · rename_i saved hsaved
        rw [save_state_eq_some hsaved]
        rfl

theorem finish_backup_last_prune {interval_hours : UInt32} {now : DateTime} {outcome : BackupOutcome} {written : Bool}
    (h : finish_backup_with interval_hours runtime now outcome written = some after) :
    after.state.service_state.last_prune = runtime.state.service_state.last_prune := by
  obtain ⟨state, hstate, rfl⟩ := Option.map_eq_some_iff.1 h
  have hsection : state.service_state.last_prune = runtime.state.service_state.last_prune := by
    unfold finish_backup_section finish_backup_by at hstate
    dsimp only at hstate
    split at hstate
    · obtain rfl := Option.some.inj hstate
      rfl
    · obtain ⟨retry_at, -, rfl⟩ := Option.map_eq_some_iff.1 hstate
      rfl
  dsimp only
  split
  · rw [save_state_getD]
    exact hsection
  · exact hsection

end Requests

/-- The plan of a retention pass. -/
theorem begin_retention_eq {runtime : ServiceRuntime} (h : runtime.config.repository.mode = .Standard) (now : DateTime) :
    ∃ plan, (runtime.begin_retention now).2 = some plan ∧ (plan.prune_due = true ↔
      ∀ last_prune ∈ runtime.state.service_state.last_prune,
        last_prune.nanos + Duration.days runtime.config.retention.prune_interval_days ≤ now.nanos) := by
  unfold ServiceRuntime.begin_retention begin_retention_section
  rw [if_neg (not_not.2 h)]
  refine ⟨_, rfl, ?_⟩
  dsimp only
  cases runtime.state.service_state.last_prune with
  | none => simp
  | some last_prune =>
    simp only [Option.mem_some_iff, forall_eq']
    rw [Option.all_some, decide_eq_true_iff]
    exact le_sub_iff_add_le'

namespace System

variable {ext : External} {s u : System} {l : Label}

/-- The step is the end of a retention pass that pruned. -/
def prunes (s : System) : Label → Bool
  | .retain executable io _ _ => match s.backup with
    | some ⟨_, .retaining config plan _⟩ => (retention executable config plan.prune_due io).1 = .Succeeded true
    | _ => false
  | _ => false

theorem step_last_prune (h : Sound s) (hs : step ext s l = some u) (hl : s.prunes l = false) :
    u.runtime.state.service_state.last_prune = s.runtime.state.service_state.last_prune := by
  cases step_ran hs with
  | request _ => exact (handle_request_effect h.exclusive.restores).last_prune
  | beganEnroll begins =>
    obtain ⟨-, -, -, service_state⟩ := begin_enrollment_activity begins
    exact congrArg _ service_state
  | finishedEnroll enrolling =>
    have hr := h.exclusive.not_running_of_management (h.enrolling.trans enrolling)
    exact (finish_enrollment_finished _ _ hr).last_prune
  | @appliedPolicy policy expected now written =>
    rcases @apply_managed_policy_applied s.runtime policy expected now written with
      ⟨hr, -⟩ | ⟨-, -, -, -, -, resolved, -, installed⟩
    · dsimp only
      rw [hr]
    · exact installed.revalidated.last_prune
  | evaluated evaluates => exact congrArg _ (evaluate_section_passedOn evaluates).service_state
  | finishedUpdate _ => exact congrArg _ (finish_update_install_passedOn _ _ _).service_state
  | finishedRepository => exact finish_repository_last_prune _ _ _ _ _
  | progressed _ => exact congrArg _ (update_progress_service_state _ _)
  | beganRetention _ => exact congrArg _ (begin_retention_service_state _ _)
  | @retained _ _ now written _ _ _ outcome _ worker finishes =>
    subst finishes
    simp only [prunes, worker, decide_eq_false_iff_not] at hl
    exact (finish_retention_times s.runtime outcome _ now written).2.1.trans (if_neg hl)
  | finishedBackup _ finishes => exact finish_backup_last_prune finishes
  | resumed | spawnFailed _ | copiedConfig _ | endedBackup _ => rfl

/-- Between two successful backups, the second at least an interval after the first, no prune
succeeds: then the second plans one exactly when the time recorded for the last prune is
an interval ago, and so whenever that time was not in the future at the first. -/
theorem prune_is_due_iff {s₀ s s' t : System} {before between : List Label} {first second : BackupOutcome}
    {t₀ t₁ : DateTime} (h₀ : Starts ext s₀) (hbefore : Run (step ext) (fun _ _ => True) s₀ before s)
    (hfirst : step ext s (.endBackup first t₀) = some s') (hbetween : Run (step ext) (fun s l => s.prunes l = false) s' between t)
    (hsecond : step ext t (.endBackup second t₁) = some u) (hsucceeded : second.kind.succeeded = true)
    (hmode : t.runtime.config.repository.mode = .Standard)
    (hinterval : t₀.nanos + Duration.days t.runtime.config.retention.prune_interval_days ≤ t₁.nanos) :
    ∃ started config plan, u.backup = some ⟨started, .retaining config plan second⟩ ∧
      (plan.prune_due = true ↔ ∀ last_prune ∈ s.runtime.state.service_state.last_prune,
        last_prune.nanos + Duration.days t.runtime.config.retention.prune_interval_days ≤ t₁.nanos) ∧
      ((∀ last_prune ∈ s.runtime.state.service_state.last_prune, last_prune ≤ t₀) → plan.prune_due = true) := by
  have hsound : Sound s' := (hbefore.inv Sound (fun _ _ _ ht _ hstep => ht.step hstep) h₀.sound).step hfirst
  have hkept : t.Sound ∧ t.runtime.state.service_state.last_prune = s.runtime.state.service_state.last_prune := by
    refine hbetween.inv
      (fun v => v.Sound ∧ v.runtime.state.service_state.last_prune = s.runtime.state.service_state.last_prune) ?_ ?_
    · rintro v label w ⟨hv, hlast⟩ hprunes hstep
      exact ⟨hv.step hstep, (step_last_prune hv hstep hprunes).trans hlast⟩
    · refine ⟨hsound, step_last_prune ?_ hfirst rfl⟩
      exact hbefore.inv Sound (fun _ _ _ ht _ hstep => ht.step hstep) h₀.sound
  obtain ⟨plan, hplan, hdue⟩ := begin_retention_eq hmode t₁
  rw [hkept.2] at hdue
  have hbackup : ∃ started config, u.backup = some ⟨started, .retaining config plan second⟩ := by
    obtain ⟨after, hafter, rfl⟩ := Option.map_eq_some_iff.1 hsecond
    obtain ⟨worker, -, hstep⟩ := Option.bind_eq_some_iff.1 hafter
    unfold worker_step at hstep
    dsimp only at hstep
    split at hstep
    · rename_i config _
      obtain rfl := Option.some.inj hstep
      rw [after_backup, if_pos hsucceeded]
      dsimp only
      rw [hplan]
      exact ⟨_, _, rfl⟩
    · cases hstep
  obtain ⟨started, config, hbackup⟩ := hbackup
  refine ⟨started, config, plan, hbackup, hdue, ?_⟩
  intro hpast
  refine hdue.2 fun last_prune hlast => ?_
  have hle := DateTime.le_iff.1 (hpast last_prune hlast)
  omega

namespace PrunedTomorrow

open HomeDevice (loc effective conditions due)

/-- The clock was far ahead when the repository was last pruned. -/
def ahead : DateTime := ⟨10000 * 86400 * 1000000000, by decide, by decide⟩

def recorded (last_prune : DateTime) : ServiceStateSnapshot := { HomeDevice.verified with last_prune := some last_prune }

def started (last_prune : DateTime) : System :=
  ⟨HomeDevice.loaded (recorded last_prune), .UNIX_EPOCH, none, false, false, none⟩

def outcome : BackupOutcome := { BackupOutcome.failed "" with kind := .Succeeded }

/-- Restic forgets what it should, and would prune. -/
def passes : RetentionIo := ⟨.Exited (some 0) "", .Exited (some 0) ""⟩

/-- A year after the first backup. -/
def year_later : DateTime := ⟨366 * 86400 * 1000000000, by decide, by decide⟩

/-- The first backup, up to the end of restic. -/
def before : List Label := [.evaluate due conditions, .copyConfig]

/-- Its retention pass and its end, and the backup a year later. -/
def between : List Label :=
  [.retain ⟨"restic.exe"⟩ passes due true, .finishBackup due true, .evaluate year_later conditions, .copyConfig]

/-- The states up to the two ends of restic, by the recorded last prune. -/
def first (last_prune : DateTime) : Option System :=
  runList (step External.inert) (fun _ _ => True) (started last_prune) before

def ended (last_prune : DateTime) : Option System :=
  (first last_prune).bind (step External.inert · (.endBackup outcome due))

def second (last_prune : DateTime) : Option System :=
  (ended last_prune).bind (runList (step External.inert) (fun s l => s.prunes l = false) · between)

/-- The configuration at the second backup, and what it plans. -/
def plan (last_prune : DateTime) : Option (EffectiveConfig × Bool) :=
  (second last_prune).bind fun t => (step External.inert t (.endBackup outcome year_later)).bind fun u =>
    match u.backup with
    | some ⟨_, .retaining _ plan _⟩ => some (t.runtime.config, plan.prune_due)
    | _ => none

/-- The backups are a run of the service. -/
theorem runs {last_prune : DateTime} {config : EffectiveConfig} {due? : Bool} (h : plan last_prune = some (config, due?)) :
    ∃ s s' t u, first last_prune = some s ∧
    Run (step External.inert) (fun _ _ => True) (started last_prune) before s ∧
    step External.inert s (.endBackup outcome due) = some s' ∧
    Run (step External.inert) (fun s l => s.prunes l = false) s' between t ∧
    step External.inert t (.endBackup outcome year_later) = some u ∧ t.runtime.config = config ∧
    ∃ started copy plan given, u.backup = some ⟨started, .retaining copy plan given⟩ ∧ plan.prune_due = due? := by
  obtain ⟨t, ht, h⟩ := Option.bind_eq_some_iff.1 h
  obtain ⟨u, hu, h⟩ := Option.bind_eq_some_iff.1 h
  obtain ⟨s', hs', hbetween⟩ := Option.bind_eq_some_iff.1 ht
  obtain ⟨s, hs, hended⟩ := Option.bind_eq_some_iff.1 hs'
  split at h
  · rename_i started copy plan given hbackup
    obtain ⟨hconfig, hdue⟩ := Prod.mk.inj (Option.some.inj h)
    exact ⟨s, s', t, u, hs, .of_runList hs, hended, .of_runList hbetween, hu, hconfig, started, copy, plan, given, hbackup, hdue⟩
  · cases h

/-- A last prune in the future: the backup a year later plans none. -/
theorem prune_is_suppressed : Starts External.inert (started ahead) ∧ ∃ s s' t u,
    Run (step External.inert) (fun _ _ => True) (started ahead) before s ∧
    step External.inert s (.endBackup outcome due) = some s' ∧
    Run (step External.inert) (fun s l => s.prunes l = false) s' between t ∧
    step External.inert t (.endBackup outcome year_later) = some u ∧
    t.runtime.config.validate = .ok () ∧ t.runtime.config.repository.mode = .Standard ∧
    due.nanos + Duration.days t.runtime.config.retention.prune_interval_days ≤ year_later.nanos ∧
    ∃ started copy plan given, u.backup = some ⟨started, .retaining copy plan given⟩ ∧ plan.prune_due = false := by
  have hplan : plan ahead = some (effective, false) := by decide
  obtain ⟨s, s', t, u, -, hbefore, hended, hbetween, hplanned, hconfig, hbackup⟩ := runs hplan
  refine ⟨.loaded _ _ _ _ (HomeDevice.loaded_loads _), s, s', t, u, hbefore, hended, hbetween, hplanned, ?_⟩
  rw [hconfig]
  exact ⟨by decide, rfl, by decide, hbackup⟩

/-- The same backups, when the clock was right at the last prune. -/
theorem prune_is_planned : ∃ t u, step External.inert t (.endBackup outcome year_later) = some u ∧
    ∃ started copy plan, u.backup = some ⟨started, .retaining copy plan outcome⟩ ∧ plan.prune_due = true := by
  have hplan : plan .UNIX_EPOCH = some (effective, true) := by decide
  obtain ⟨s, s', t, u, hfirst, hbefore, hended, hbetween, hplanned, hconfig, -⟩ := runs hplan
  have hlast : s.runtime.state.service_state.last_prune = some .UNIX_EPOCH := by
    have hfirst' : (first .UNIX_EPOCH).map (·.runtime.state.service_state.last_prune) = some (some .UNIX_EPOCH) := by decide
    rw [hfirst] at hfirst'
    exact Option.some.inj hfirst'
  obtain ⟨started, copy, plan, hbackup, -, hdue⟩ := prune_is_due_iff (.loaded _ _ _ _ (HomeDevice.loaded_loads _)) hbefore hended
    hbetween hplanned rfl (by rw [hconfig]; rfl) (by rw [hconfig]; decide)
  refine ⟨t, u, hplanned, started, copy, plan, hbackup, hdue ?_⟩
  rw [hlast]
  rintro last_prune ⟨⟩
  decide

end PrunedTomorrow

end System

end ResticPal
