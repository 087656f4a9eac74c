import ResticPal.System.Steps
/-!
# The configuration of a running backup

The worker copies the configuration when its thread starts, and `begin_retention`
and `finish_backup` read it again later. `running_backup_is_frozen` says that
from the evaluation that starts a backup to the completion that ends it they
all see the same settings, whatever requests and policies arrive meanwhile, so
that maintenance is only ever run on a standard repository.
-/

open Lib

namespace ResticPal

/-- Update settings are the only ones validation does not look at. -/
theorem EffectiveConfig.validate_congr {c d : EffectiveConfig} (h : c.settings = d.settings) :
    c.validate = d.validate := by
  obtain ⟨_, _, _, _, _⟩ := c
  obtain ⟨_, _, _, _, _⟩ := d
  simp only [EffectiveConfig.settings, Prod.mk.injEq] at h
  obtain ⟨rfl, rfl, rfl, rfl⟩ := h
  rfl

theorem EffectiveConfig.repository_congr {c d : EffectiveConfig} (h : c.settings = d.settings) :
    c.repository = d.repository :=
  congrArg (fun settings => settings.2.1) h

namespace System

variable {ext : External} {s u : System} {l : Label}

/-- The configuration in force is valid, and is the one every active worker started with. -/
structure Frozen (s : System) : Prop where
  valid : s.runtime.config.validate = .ok ()
  settings : ∀ worker ∈ s.backup, s.runtime.config.settings = worker.started.settings
  copy : ∀ worker ∈ s.backup, ∀ config ∈ worker.phase.config, config.settings = worker.started.settings
  url : ∀ worker ∈ s.backup, worker.started.repository.url.isSome = true
  standard : ∀ worker ∈ s.backup, ∀ config plan outcome, worker.phase = .retaining config plan outcome →
    worker.started.repository.mode = .Standard

/-- A step that moves no worker has only the configuration to answer for. -/
theorem Frozen.of_config (h : Frozen s) (hb : u.backup = s.backup) (hv : u.runtime.config.validate = .ok ())
    (hs : s.backup ≠ none → u.runtime.config.settings = s.runtime.config.settings) : Frozen u where
  valid := hv
  settings worker hw := by
    rw [hb] at hw
    exact (hs (by simp [Option.mem_def.1 hw])).trans (h.settings worker hw)
  copy worker hw := h.copy worker (hb ▸ hw)
  url worker hw := h.url worker (hb ▸ hw)
  standard worker hw := h.standard worker (hb ▸ hw)

theorem Frozen.of_none (hv : u.runtime.config.validate = .ok ()) (hb : u.backup = none) : Frozen u := by
  refine ⟨hv, ?_, ?_, ?_, ?_⟩ <;> simp [hb]

theorem Frozen.of_same (h : Frozen s) (hb : u.backup = s.backup) (hc : SameConfig s.runtime u.runtime) : Frozen u :=
  h.of_config hb (by rw [hc.config]; exact h.valid) fun _ => by rw [hc.config]

theorem Frozen.of_idle (h : Frozen s) (hsound : Sound s) (hr : s.runtime.state.running = false)
    (hb : u.backup = s.backup) (hv : u.runtime.config.validate = .ok ()) : Frozen u := by
  refine h.of_config hb hv fun hsome => ?_
  have : s.backup.isSome = false := hsound.backup.symm.trans hr
  exact absurd (Option.isNone_iff_eq_none.1 (by simpa using this)) hsome

theorem resolve_config_valid {loc : LocalConfig} {policy : Option ManagedPolicy} {resolved : ResolvedConfig}
    (h : resolve_config {} loc policy = .ok resolved) : resolved.effective.validate = .ok () :=
  ((resolve_config_eq_ok _ _ _).1 h).2.2.1

theorem EnrollFinished.valid {parse_url : String → Option Url} {begun after : ServiceRuntime} {io : RequestIo}
    {response : ResponsePayload} (h : EnrollFinished parse_url begun io after response)
    (hv : begun.config.validate = .ok ()) : after.config.validate = .ok () := by
  cases h with
  | failed _ same => exact same.config ▸ hv
  | committed _ _ committed =>
    obtain ⟨resolved, hres, hcfg, -, -⟩ := committed.resolved
    rw [hcfg]
    exact resolve_config_valid hres

theorem Frozen.request {command : RequestCommand} {elevated : Bool} {io : RequestIo}
    {response : ResponsePayload} (h : Frozen s) (hsound : Sound s)
    (he : RequestEffect ext s.runtime command elevated io u.runtime response) (hb : u.backup = s.backup) : Frozen u := by
  cases he with
  | kept same => exact h.of_same hb same
  | began same => exact h.of_same hb same
  | held same => exact h.of_same hb same
  | edited _ edited config _ _ _ _ frozen =>
    refine h.of_config hb (by rw [config]; exact edited.valid h.valid) fun hsome => frozen ?_
    rw [show s.runtime.state.running = s.backup.isSome from hsound.backup]
    exact Option.isSome_iff_ne_none.2 hsome
  | unenrolled _ _ busy _ resolves _ config =>
    exact h.of_idle hsound (busy_eq_false.1 busy).1 hb (by rw [config]; exact resolve_config_valid resolves)
  | enrolled _ begins finished =>
    obtain ⟨hc, hbusy, -, -⟩ := begin_enrollment_activity begins
    exact h.of_idle hsound (busy_eq_false.1 hbusy).1 hb (EnrollFinished.valid finished (hc.config ▸ h.valid))

theorem Frozen.worker (h : Frozen s) (hc : SameConfig s.runtime u.runtime)
    (hw : WorkerStep s.runtime.config s.backup u.backup) : Frozen u := by
  have hv : u.runtime.config.validate = .ok () := by rw [hc.config]; exact h.valid
  generalize hb : s.backup = before, hb' : u.backup = after at hw
  cases hw with
  | same => exact h.of_same (hb'.trans hb.symm) hc
  | copied =>
    have hset := h.settings _ hb
    refine ⟨hv, ?_, ?_, ?_, ?_⟩ <;> simp only [hb', Option.mem_def, Option.some.injEq, forall_eq', WorkerPhase.config]
    · rw [hc.config]
      exact hset
    · exact hset
    · exact h.url _ hb
    · simp
  | retaining standard =>
    have hset := h.settings _ hb
    refine ⟨hv, ?_, ?_, ?_, ?_⟩ <;> simp only [hb', Option.mem_def, Option.some.injEq, forall_eq', WorkerPhase.config]
    · rw [hc.config]
      exact hset
    · exact h.copy _ hb _ rfl
    · exact h.url _ hb
    · intro _ _ _ _
      rw [← EffectiveConfig.repository_congr hset]
      exact standard
  | finished outcome =>
    refine ⟨hv, ?_, ?_, ?_, ?_⟩ <;> simp only [hb', Option.mem_def, Option.some.injEq, forall_eq', WorkerPhase.config]
    · rw [hc.config]
      exact h.settings _ hb
    · simp
    · exact h.url _ hb
    · simp

theorem Frozen.step (h : Frozen s) (hsound : Sound s) (hs : step ext s l = some u) : Frozen u := by
  cases step_effect hsound hs with
  | quiet same _ _ worker => exact h.worker same worker
  | request _ effect => exact h.request hsound effect rfl
  | beganEnroll begins => exact h.of_same rfl (begin_enrollment_activity begins).1
  | finishedEnroll enrolling finished =>
    have hr := hsound.exclusive.not_running_of_management (hsound.enrolling.trans enrolling)
    exact h.of_idle hsound hr rfl (EnrollFinished.valid finished h.valid)
  | appliedPolicy running resolves installed =>
    exact h.of_idle hsound running rfl (by rw [installed.config]; exact resolve_config_valid resolves)
  | evaluated same evaluated _ =>
    cases evaluated with
    | held => exact h.of_same rfl same
    | idle => exact h.of_same rfl same
    | started _ configured =>
      have hc := same.config
      refine ⟨by rw [hc]; exact h.valid, ?_, ?_, ?_, ?_⟩ <;>
        simp only [worker_after, Option.mem_def, Option.some.injEq, forall_eq', WorkerPhase.config]
      · rw [hc]
      · simp
      · exact (Bool.and_eq_true_iff.1 configured).1
      · simp
  | finishedUpdate _ same => exact h.of_same rfl same
  | finishedBackup same => exact .of_none (by rw [same.config]; exact h.valid) rfl
  | finishedRepository _ ended => exact h.of_same rfl ended.same_config

theorem Starts.frozen (h : Starts ext s) : Frozen s := by
  refine .of_none ?_ h.quiet.1
  cases h with
  | loaded config_store credential_store state_store policy_cache load =>
    simp only [load_with_credentials_and_policy, bind_eq_ok, pure_eq_ok, mapError_eq_ok] at load
    obtain ⟨loc, -, resolved, hres, rfl⟩ := load
    exact resolve_config_valid hres
  | configurationError =>
    have : ({} : EffectiveConfig).validate = .ok () := by decide
    exact this

/-- In every run, from the evaluation that starts a backup to its completion:
the backup, repository, schedule and retention settings in force and those of
the worker's copy are the ones the backup started with; and while the worker
applies retention, the repository is a standard one and no command is refused. -/
theorem running_backup_is_frozen {s₀ : System} {ls : List Label} {ok : System → Label → Prop} {worker : BackupWorker}
    (h₀ : Starts ext s₀) (h : Run (step ext) ok s₀ ls s) (hw : s.backup = some worker) :
    s.runtime.config.settings = worker.started.settings ∧
      (∀ config ∈ worker.phase.config, config.settings = worker.started.settings) ∧
      ∀ config plan outcome, worker.phase = .retaining config plan outcome →
        s.runtime.config.repository.mode = .Standard ∧ config.repository.mode = .Standard ∧
        ∀ executable io, (retention executable config plan.prune_due io).1 ≠ .Failed "retention_forbidden" := by
  obtain ⟨-, hf⟩ := run_inv Frozen (fun _ _ _ hsound hi _ hs => hi.step hsound hs) h₀ h₀.frozen h
  have hset := hf.settings worker hw
  refine ⟨hset, hf.copy worker hw, fun config plan outcome hp => ?_⟩
  have hcopy : config.settings = worker.started.settings := hf.copy worker hw config (by rw [hp]; rfl)
  have hmode : worker.started.repository.mode = .Standard := hf.standard worker hw config plan outcome hp
  have hconfig : config.repository.mode = .Standard := by rw [EffectiveConfig.repository_congr hcopy]; exact hmode
  have hvalid : config.validate = .ok () :=
    (EffectiveConfig.validate_congr (hcopy.trans hset.symm)).trans hf.valid
  have hurl : config.repository.url.isSome := by
    rw [EffectiveConfig.repository_congr hcopy]
    exact hf.url worker hw
  refine ⟨by rw [EffectiveConfig.repository_congr hset]; exact hmode, hconfig, fun executable io => ?_⟩
  exact retention_not_forbidden hconfig hvalid hurl

namespace NightlyBackup

open HomeDevice (effective conditions)

/-- What `state.json` says before the first backup. -/
def verified : ServiceStateSnapshot := { HomeDevice.verified with last_success := none }

def started : System := ⟨HomeDevice.loaded verified, .UNIX_EPOCH, none, false, false, none⟩

theorem started_starts : Starts .inert started := .loaded _ _ _ _ (HomeDevice.loaded_loads verified)

def outcome : BackupOutcome := { BackupOutcome.failed "" with kind := .Succeeded }

/-- A backup up to its retention, with an attempt to change the repository mode in between. -/
def labels : List Label :=
  [.evaluate .UNIX_EPOCH conditions, .copyConfig,
    .request (.UpdateRepository none none (some .AppendOnly) none []) true (.quiet .UNIX_EPOCH),
    .endBackup outcome .UNIX_EPOCH]

def retaining : Option System := runList (step .inert) (fun _ _ => True) started labels

theorem retaining_isSome : retaining.isSome := by decide

theorem retaining_backup : (retaining.get retaining_isSome).backup =
    some ⟨effective, .retaining effective ⟨true⟩ outcome⟩ := rfl

theorem retains_on_standard : (retaining.get retaining_isSome).runtime.config.repository.mode = .Standard :=
  ((running_backup_is_frozen started_starts (.of_isSome retaining_isSome) retaining_backup).2.2 _ _ _ rfl).1

end NightlyBackup

end System

end ResticPal
