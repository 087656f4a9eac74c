import ResticPal.System.Model
/-!
# The steps of the service

`step_effect` says what a step of a sound system can do, so that the theorems
about whole runs never look at the handlers again; `run_inv` is the rule they
go by.
-/

open Lib

namespace ResticPal

namespace System

/-- The flags of the runtime agree with the threads, and exclude each other. -/
abbrev Sound (s : System) : Prop := Agrees s.runtime.state.activity s.backup.isSome s.enrolling s.update

/-- What a step makes of the system, handler by handler. -/
inductive Ran (ext : External) (s : System) (clock : DateTime) : Label → System → Prop
  | request {command : RequestCommand} {elevated : Bool} {io : RequestIo} (idle : s.enrolling = false) :
      Ran ext s clock (.request command elevated io) { s with
        clock
        runtime := (s.runtime.handle_request ext command elevated io).1
        update := s.update || command.starts_update (s.runtime.handle_request ext command elevated io).2
        policy := command.policy_after s.runtime io (s.runtime.handle_request ext command elevated io).2 s.policy }
  | beganEnroll {now : DateTime} {runtime : ServiceRuntime} (begins : begin_enrollment s.runtime now = some runtime) :
      Ran ext s clock (.beginEnroll now) { s with runtime, clock, enrolling := true }
  | finishedEnroll {io : RequestIo} (enrolling : s.enrolling = true) :
      Ran ext s clock (.finishEnroll io) { s with
        clock
        runtime := (finish_enrollment ext.parse_url s.runtime io).1
        enrolling := false
        policy := if (finish_enrollment ext.parse_url s.runtime io).2.isAccepted then
          io.enrollment.map (·.initial_manifest.payload.policy) else s.policy }
  | appliedPolicy {policy : ManagedPolicy} {expected : LocalManagementConfig} {now : DateTime} {written : Bool} :
      Ran ext s clock (.applyPolicy policy expected now written) { s with
        clock
        runtime := (s.runtime.apply_managed_policy_if_current policy expected now written).1
        policy := policy_applied policy (s.runtime.apply_managed_policy_if_current policy expected now written).2
          s.policy }
  | evaluated {now : DateTime} {conditions : SystemConditions} {state : RuntimeState} {action : ScheduleAction}
      (evaluates : evaluate_section s.runtime.config s.runtime.state now conditions = some (state, action)) :
      Ran ext s clock (.evaluate now conditions) { s with
        clock
        runtime := { s.runtime with state }
        backup := s.worker_after action }
  | resumed {now : DateTime} : Ran ext s clock (.resume now) { s with runtime := s.runtime.record_resume now, clock }
  | finishedUpdate {outcome : UpdateInstallOutcome} {now : DateTime} (pending : s.update = true) :
      Ran ext s clock (.finishUpdate outcome now) { s with
        clock
        runtime := { s.runtime with state := finish_update_install s.runtime.state now outcome }
        update := false }
  | finishedRepository {operation : RepositoryOperationKind} {outcome : RepositoryOutcomeKind} {now : DateTime}
      {written : Bool} : Ran ext s clock (.finishRepository operation outcome now written) { s with
        clock
        runtime := s.runtime.finish_repository_operation operation outcome now written }
  | spawnFailed {started : EffectiveConfig} (worker : s.backup = some ⟨started, .spawned⟩) :
      Ran ext s clock .spawnFailed { s with
        clock
        backup := some ⟨started, .finished (.failed "executor_start_failed")⟩ }
  | copiedConfig {started : EffectiveConfig} (worker : s.backup = some ⟨started, .spawned⟩) :
      Ran ext s clock .copyConfig { s with clock, backup := some ⟨started, .copied s.runtime.config⟩ }
  | progressed {progress : BackupProgress} (worker : s.backup.isSome = true) :
      Ran ext s clock (.progress progress) { s with
        clock
        runtime := { s.runtime with state := update_progress s.runtime.state progress } }
  /-- The end of a backup, without a retention pass to begin and with one. -/
  | endedBackup {outcome : BackupOutcome} {now : DateTime} {started config : EffectiveConfig}
      (worker : s.backup = some ⟨started, .copied config⟩) :
      Ran ext s clock (.endBackup outcome now) { s with clock, backup := some ⟨started, .finished outcome⟩ }
  | beganRetention {outcome : BackupOutcome} {now : DateTime} {started config : EffectiveConfig}
      (worker : s.backup = some ⟨started, .copied config⟩) :
      Ran ext s clock (.endBackup outcome now) { s with
        clock
        runtime := (s.runtime.begin_retention now).1
        backup := some ⟨started, (s.runtime.begin_retention now).2.elim (.finished outcome)
          (fun plan => .retaining config plan outcome)⟩ }
  | retained {executable : PathBuf} {io : RetentionIo} {now : DateTime} {written : Bool} {started config : EffectiveConfig}
      {plan : RetentionPlan} {outcome : BackupOutcome} {finished : ServiceRuntime × BackupOutcome}
      (worker : s.backup = some ⟨started, .retaining config plan outcome⟩)
      (finishes : s.runtime.finish_retention outcome (retention executable config plan.prune_due io).1 now written =
        finished) :
      Ran ext s clock (.retain executable io now written) { s with
        clock
        runtime := finished.1
        backup := some ⟨started, .finished finished.2⟩ }
  | finishedBackup {now : DateTime} {written : Bool} {started : EffectiveConfig} {outcome : BackupOutcome}
      {runtime : ServiceRuntime} (worker : s.backup = some ⟨started, .finished outcome⟩)
      (finishes : s.runtime.finish_backup_at now outcome written = some runtime) :
      Ran ext s clock (.finishBackup now written) { s with runtime, clock, backup := none }

section Inversion

variable {ext : External} {s u : System} {l : Label}

theorem worker_step_ran {worker : BackupWorker} (hw : s.backup = some worker) (clock : DateTime)
    (hs : s.worker_step worker l = some u) : Ran ext s clock l { u with clock } := by
  obtain ⟨started, phase⟩ := worker
  cases l with
  | spawnFailed =>
    cases phase <;> cases hs
    exact .spawnFailed hw
  | copyConfig =>
    cases phase <;> cases hs
    exact .copiedConfig hw
  | progress progress =>
    cases phase <;> cases hs
    exact .progressed (congrArg Option.isSome hw)
  | endBackup outcome now =>
    cases phase <;> cases hs
    unfold after_backup
    split
    · exact .beganRetention hw
    · exact .endedBackup hw
  | retain executable io now written =>
    cases phase <;> cases hs
    exact .retained hw rfl
  | finishBackup now written =>
    cases phase with
    | finished outcome =>
      obtain ⟨runtime, hr, rfl⟩ := Option.map_eq_some_iff.1 hs
      exact .finishedBackup hw hr
    | _ => cases hs
  | _ => cases hs

theorem step_ran (hs : step ext s l = some u) : Ran ext s (l.now.getD s.clock) l u := by
  obtain ⟨t, ht, rfl⟩ := Option.map_eq_some_iff.1 hs
  cases l with
  | request command elevated io =>
    simp only [advance] at ht
    split at ht
    · cases ht
    · rename_i hidle
      cases ht
      exact .request (by simpa using hidle)
  | beginEnroll now =>
    simp only [advance] at ht
    split at ht
    · cases ht
    · obtain ⟨runtime, hr, rfl⟩ := Option.map_eq_some_iff.1 ht
      exact .beganEnroll hr
  | finishEnroll io =>
    simp only [advance] at ht
    split at ht
    · cases ht
    · rename_i henrolling
      cases ht
      exact .finishedEnroll (by simpa using henrolling)
  | applyPolicy policy expected now written =>
    cases ht
    exact .appliedPolicy
  | evaluate now conditions =>
    obtain ⟨evaluated, he, rfl⟩ := Option.map_eq_some_iff.1 ht
    obtain ⟨⟨state, action⟩, hsec, rfl⟩ := Option.map_eq_some_iff.1 he
    exact .evaluated hsec
  | resume now =>
    cases ht
    exact .resumed
  | finishUpdate outcome now =>
    simp only [advance] at ht
    split at ht
    · rename_i hpending
      cases ht
      exact .finishedUpdate hpending
    · cases ht
  | finishRepository operation outcome now written =>
    cases ht
    exact .finishedRepository
  | spawnFailed | copyConfig | progress _ | endBackup _ _ | retain _ _ _ _ | finishBackup _ _ =>
    obtain ⟨worker, hw, hstep⟩ := Option.bind_eq_some_iff.1 ht
    exact worker_step_ran hw _ hstep

end Inversion

/-- How the backup worker can move on. -/
inductive WorkerStep (config : EffectiveConfig) : Option BackupWorker → Option BackupWorker → Prop
  | same (worker : Option BackupWorker) : WorkerStep config worker worker
  | copied {started : EffectiveConfig} : WorkerStep config (some ⟨started, .spawned⟩) (some ⟨started, .copied config⟩)
  | retaining {started copy : EffectiveConfig} {plan : RetentionPlan} {outcome : BackupOutcome}
      (standard : config.repository.mode = .Standard) :
      WorkerStep config (some ⟨started, .copied copy⟩) (some ⟨started, .retaining copy plan outcome⟩)
  | finished {worker : BackupWorker} (outcome : BackupOutcome) :
      WorkerStep config (some worker) (some { worker with phase := .finished outcome })

/-- What a step does to a sound system. -/
inductive StepEffect (ext : External) (s : System) (clock : DateTime) : Label → System → Prop
  /-- A worker moves on, or nothing that matters happens. -/
  | quiet {l : Label} {runtime : ServiceRuntime} {backup : Option BackupWorker} (same : SameConfig s.runtime runtime)
      (activity : runtime.state.activity = s.runtime.state.activity)
      (verification : runtime.state.service_state.verification = s.runtime.state.service_state.verification)
      (worker : WorkerStep s.runtime.config s.backup backup) :
      StepEffect ext s clock l { s with runtime, backup, clock }
  | request {command : RequestCommand} {elevated : Bool} {io : RequestIo} {runtime : ServiceRuntime}
      {response : ResponsePayload} (idle : s.enrolling = false)
      (effect : RequestEffect ext s.runtime command elevated io runtime response)
      (handled : s.runtime.handle_request ext command elevated io = (runtime, response)) :
      StepEffect ext s clock (.request command elevated io) { s with
        runtime, clock
        update := s.update || command.starts_update response
        policy := command.policy_after s.runtime io response s.policy }
  | beganEnroll {now : DateTime} {runtime : ServiceRuntime} (begins : begin_enrollment s.runtime now = some runtime) :
      StepEffect ext s clock (.beginEnroll now) { s with runtime, clock, enrolling := true }
  | finishedEnroll {io : RequestIo} {runtime : ServiceRuntime} {response : ResponsePayload}
      (enrolling : s.enrolling = true) (finished : EnrollFinished ext.parse_url s.runtime io runtime response)
      (handled : finish_enrollment ext.parse_url s.runtime io = (runtime, response)) :
      StepEffect ext s clock (.finishEnroll io) { s with
        runtime, clock
        enrolling := false
        policy := if response.isAccepted then io.enrollment.map (·.initial_manifest.payload.policy) else s.policy }
  | appliedPolicy {policy : ManagedPolicy} {now : DateTime} {written : Bool} {resolved : ResolvedConfig}
      {runtime : ServiceRuntime} (running : s.runtime.state.running = false)
      (resolves : resolve_config {} s.runtime.local_config (some policy) = .ok resolved)
      (installed : Installed s.runtime runtime resolved)
      (operation : s.runtime.state.repository_operation.isRunning = false) :
      StepEffect ext s clock (.applyPolicy policy s.runtime.local_config.management now written) { s with
        runtime, clock
        policy := some policy }
  | evaluated {now : DateTime} {conditions : SystemConditions} {action : ScheduleAction} {runtime : ServiceRuntime}
      (same : SameConfig s.runtime runtime)
      (evaluated : Evaluated s.runtime.config s.runtime.state now runtime.state action)
      (service_state : runtime.state.service_state = s.runtime.state.service_state) :
      StepEffect ext s clock (.evaluate now conditions) { s with runtime, clock, backup := s.worker_after action }
  | finishedUpdate {outcome : UpdateInstallOutcome} {now : DateTime} {active : Bool} {hold : Option DateTime}
      {runtime : ServiceRuntime} (pending : s.update = true) (same : SameConfig s.runtime runtime)
      (kept : ∀ deadline ∈ hold, s.runtime.state.update_hold_until = some deadline)
      (activity : runtime.state.activity =
        { s.runtime.state.activity with update_install_active := active, update_hold_until := hold })
      (service_state : runtime.state.service_state = s.runtime.state.service_state) :
      StepEffect ext s clock (.finishUpdate outcome now) { s with runtime, clock, update := false }
  | finishedBackup {now : DateTime} {written : Bool} {runtime : ServiceRuntime} (same : SameConfig s.runtime runtime)
      (activity : runtime.state.activity = { s.runtime.state.activity with running := false })
      (verification : runtime.state.service_state.verification = s.runtime.state.service_state.verification) :
      StepEffect ext s clock (.finishBackup now written) { s with runtime, clock, backup := none }
  | finishedRepository {operation : RepositoryOperationKind} {outcome : RepositoryOutcomeKind} {now : DateTime}
      {written : Bool} {runtime : ServiceRuntime} (running : s.runtime.state.repository_operation = .Running operation)
      (ended : OperationEnded s.runtime.config s.runtime runtime) :
      StepEffect ext s clock (.finishRepository operation outcome now written) { s with runtime, clock }

variable {ext : External} {s u : System} {l : Label}

theorem Sound.running_of_worker (h : Sound s) {worker : BackupWorker} (hw : s.backup = some worker) :
    s.runtime.state.running = true :=
  h.backup.trans (congrArg Option.isSome hw)

theorem Sound.no_worker (h : Sound s) (hr : s.runtime.state.running = false) : s.backup = none :=
  Option.isNone_iff_eq_none.1 (Option.isSome_eq_false_iff.1 (h.backup.symm.trans hr))

theorem policy_applied_of_ne {policy : ManagedPolicy} {outcome : Except PolicyError ManagedPolicyApplyOutcome}
    {before : Option ManagedPolicy} (h : outcome ≠ .ok .Applied) : policy_applied policy outcome before = before := by
  unfold policy_applied
  split
  · exact absurd rfl h
  · rfl

theorem step_effect (h : Sound s) (hs : step ext s l = some u) : StepEffect ext s (l.now.getD s.clock) l u := by
  cases step_ran hs with
  | request idle => exact .request idle (handle_request_effect h.exclusive.restores) rfl
  | beganEnroll begins => exact .beganEnroll begins
  | finishedEnroll enrolling =>
    have hr := h.exclusive.not_running_of_management (h.enrolling.trans enrolling)
    exact .finishedEnroll enrolling (finish_enrollment_finished _ _ hr) rfl
  | @appliedPolicy policy expected now written =>
    rcases @apply_managed_policy_applied s.runtime policy expected now written with
      ⟨hr, hne⟩ | ⟨ha, rfl, hr, ho, -, resolved, hres, hi⟩
    · rw [policy_applied_of_ne hne, hr]
      exact .quiet (.refl _) rfl rfl (.same s.backup)
    · rw [ha]
      exact .appliedPolicy hr hres hi ho
  | evaluated evaluates =>
    exact .evaluated ⟨rfl, rfl, rfl, rfl⟩ (evaluate_section_evaluated h.exclusive.restores evaluates)
      (evaluate_section_passedOn evaluates).service_state
  | resumed => exact .quiet ⟨rfl, rfl, rfl, rfl⟩ rfl rfl (.same s.backup)
  | @finishedUpdate outcome now pending =>
    have hr := (h.exclusive.alone_of_install (h.update pending)).1
    obtain ⟨active, hold, hk, ha⟩ := finish_update_install_activity now outcome hr h.exclusive.restores
    exact .finishedUpdate pending ⟨rfl, rfl, rfl, rfl⟩ hk ha (finish_update_install_passedOn _ _ _).service_state
  | @finishedRepository operation outcome now written =>
    have hr (ho : s.runtime.state.repository_operation = .Running operation) : s.runtime.state.running = false :=
      h.exclusive.not_running_of_operation (congrArg RepositoryOperationStatus.isRunning ho)
    unfold ServiceRuntime.finish_repository_operation
    rcases finish_repository_section_ended s.runtime.config operation outcome now written hr with he | ⟨ho, he⟩
    · rw [he]
      exact .quiet (.refl _) rfl rfl (.same s.backup)
    · exact .finishedRepository ho he
  | spawnFailed worker => exact .quiet (.refl _) rfl rfl (worker ▸ .finished _)
  | copiedConfig worker => exact .quiet (.refl _) rfl rfl (worker ▸ .copied)
  | progressed worker =>
    exact .quiet ⟨rfl, rfl, rfl, rfl⟩ (update_progress_activity _ _) (congrArg _ (update_progress_service_state _ _))
      (.same s.backup)
  | endedBackup worker => exact .quiet (.refl _) rfl rfl (worker ▸ .finished _)
  | @beganRetention outcome now started config worker =>
    refine .quiet ⟨rfl, rfl, rfl, rfl⟩ (begin_retention_section_activity _ _ now (h.running_of_worker worker))
      (congrArg _ (begin_retention_service_state s.runtime now)) ?_
    rw [worker]
    cases hplan : (s.runtime.begin_retention now).2 with
    | none => exact .finished outcome
    | some plan => exact .retaining (begin_retention_plan hplan)
  | retained worker finishes =>
    subst finishes
    refine .quiet ?_ ?_ ?_ (worker ▸ .finished _)
    all_goals rw [finish_retention_runtime]
    · exact ⟨rfl, rfl, rfl, rfl⟩
    · rfl
    · exact record_retention_verification _ _ _
  | finishedBackup worker finishes =>
    obtain ⟨hc, ha, hv⟩ := finish_backup_with_ended finishes
    exact .finishedBackup hc ha hv

/-! ## The configuration -/

/-- The step commits an enrollment. -/
def commits (ext : External) (s : System) : Label → Bool
  | .request (.Enroll bootstrap_url) elevated io =>
    (s.runtime.handle_request ext (.Enroll bootstrap_url) elevated io).2.isAccepted
  | .finishEnroll io => (finish_enrollment ext.parse_url s.runtime io).2.isAccepted
  | _ => false

/-- What a step does to the layers of the configuration and to the policy in force. -/
inductive ConfigEffect (ext : External) (s : System) (l : Label) (u : System) : Prop
  | same (same : SameConfig s.runtime u.runtime) (policy : u.policy = s.policy)
  | edited {command : RequestCommand} {elevated : Bool} {io : RequestIo} {candidate : Candidate}
      (references : List String) (label : l = .request command elevated io)
      (edited : Edited s.runtime (command.edits ext references) candidate)
      (config : u.runtime.config = candidate.effective) (local_config : u.runtime.local_config = candidate.loc)
      (field_resolutions : u.runtime.field_resolutions = s.runtime.field_resolutions)
      (config_store : u.runtime.config_store = s.runtime.stored candidate.loc) (policy : u.policy = s.policy)
      (stored : references.length = (stored_secrets command.secret_updates).length)
      (accepted : (s.runtime.handle_request ext command elevated io).2.isAccepted = true)
  | unenrolled {resolved : ResolvedConfig}
      (resolves : resolve_config {} (unmanaged_config s.runtime.local_config) none = .ok resolved)
      (local_config : u.runtime.local_config = unmanaged_config s.runtime.local_config)
      (config : u.runtime.config = resolved.effective) (field_resolutions : u.runtime.field_resolutions = resolved.fields)
      (config_store : u.runtime.config_store = s.runtime.stored (unmanaged_config s.runtime.local_config))
      (policy : u.policy = none)
  | enrolled {begun : ServiceRuntime} {policy : ManagedPolicy} (commits : s.commits ext l = true)
      (begins : SameConfig s.runtime begun) (committed : EnrollCommitted ext.parse_url begun u.runtime policy)
      (policy : u.policy = some policy)
  | applied {policy : ManagedPolicy} {now : DateTime} {written : Bool} {resolved : ResolvedConfig}
      (label : l = .applyPolicy policy s.runtime.local_config.management now written)
      (resolves : resolve_config {} s.runtime.local_config (some policy) = .ok resolved)
      (installed : Installed s.runtime u.runtime resolved) (policy : u.policy = some policy)

theorem ConfigEffect.of_finished {begun : ServiceRuntime} {io : RequestIo} {response : ResponsePayload}
    (hb : SameConfig s.runtime begun) (hf : EnrollFinished ext.parse_url begun io u.runtime response)
    (hc : s.commits ext l = response.isAccepted)
    (hp : u.policy = if response.isAccepted then io.enrollment.map (·.initial_manifest.payload.policy) else s.policy) :
    ConfigEffect ext s l u := by
  cases hf with
  | failed rejected same =>
    rw [rejected] at hp
    exact .same (hb.trans same) hp
  | committed accepted delivered committed =>
    rw [accepted, if_pos rfl, delivered] at hp
    refine .enrolled (hc.trans accepted) ?_ committed hp
    exact ⟨hb.config, hb.local_config, hb.field_resolutions, hb.config_store⟩

theorem config_effect (h : Sound s) (hs : step ext s l = some u) : ConfigEffect ext s l u := by
  cases step_effect h hs with
  | quiet same | evaluated same | finishedBackup same => exact .same same rfl
  | finishedUpdate _ same => exact .same same rfl
  | finishedRepository _ ended => exact .same ended.same_config rfl
  | beganEnroll begins => exact .same (begin_enrollment_activity begins).1 rfl
  | finishedEnroll _ finished handled =>
    exact .of_finished (.refl _) finished (congrArg (·.2.isAccepted) handled) rfl
  | appliedPolicy _ resolves installed => exact .applied rfl resolves installed rfl
  | request _ effect handled =>
    have hr := congrArg (·.2.isAccepted) handled
    cases effect with
    | kept same _ _ _ policy => exact .same same (policy _)
    | began same _ _ _ _ _ policy => exact .same same (policy _)
    | held same _ _ _ _ _ _ _ policy => exact .same same (policy _)
    | edited references edited config local_config field_resolutions config_store _ _ _ _ policy stored accepted =>
      exact .edited references rfl edited config local_config field_resolutions config_store (policy _) stored
        (hr.trans accepted)
    | unenrolled _ _ _ _ resolves local_config config field_resolutions config_store _ _ _ policy =>
      exact .unenrolled resolves local_config config field_resolutions config_store (policy _)
    | enrolled enroll begins finished _ policy =>
      obtain ⟨bootstrap_url, rfl⟩ := enroll
      exact .of_finished (begin_enrollment_activity begins).1 finished hr (policy _)

/-! ## What every step keeps -/

theorem WorkerStep.isSome {config : EffectiveConfig} {before after : Option BackupWorker}
    (h : WorkerStep config before after) : after.isSome = before.isSome := by
  cases h <;> rfl

theorem worker_after_isSome (s : System) (action : ScheduleAction) :
    (s.worker_after action).isSome = (s.backup.isSome || action.isStart) := by
  cases action <;> simp [worker_after, ScheduleAction.isStart]

theorem Sound.step (h : Sound s) (hs : step ext s l = some u) : Sound u := by
  cases step_effect h hs with
  | quiet _ activity _ worker => exact ⟨activity ▸ h.exclusive, by rw [activity, h.backup, worker.isSome],
      by rw [activity]; exact h.enrolling, by rw [activity]; exact h.update⟩
  | request idle effect =>
    have h : Agrees s.runtime.state.activity s.backup.isSome false s.update := idle ▸ h
    have hu := h.request effect
    rw [← idle] at hu
    exact hu
  | beganEnroll begins => exact Agrees.begin_enrollment h begins
  | finishedEnroll enrolling finished =>
    have h : Agrees s.runtime.state.activity s.backup.isSome true s.update := enrolling ▸ h
    exact h.finish_enrollment finished
  | appliedPolicy running _ installed => exact Agrees.install h running installed.revalidated
  | evaluated _ evaluated _ =>
    have hu := Agrees.evaluate h evaluated
    rw [← worker_after_isSome] at hu
    exact hu
  | finishedUpdate pending _ _ activity _ =>
    have h : Agrees s.runtime.state.activity s.backup.isSome s.enrolling true := pending ▸ h
    exact h.finish_update activity
  | finishedBackup _ activity _ => exact Agrees.finish_backup h activity
  | finishedRepository running ended => exact Agrees.finish_repository h running ended

theorem from_resolved_activity (resolved : ResolvedConfig) (loc : LocalConfig) (service_state : ServiceStateSnapshot)
    (config_store : LocalConfigStore) (credential_store : Option CredentialStore)
    (state_store : StoredFile PersistedScheduleState) (policy_cache : ManagedPolicyCache) (now : DateTime) :
    let runtime := from_resolved_with_state resolved loc service_state config_store credential_store state_store
      policy_cache now
    runtime.state.repository_operation.isRunning = false ∧ runtime.state.activity =
      ⟨false, runtime.state.repository_operation, false, none, false, false⟩ := by
  refine ⟨?_, Activity.ext ?_ rfl rfl rfl rfl rfl⟩
  · simp only [from_resolved_with_state]
    split
    · rfl
    · split <;> rfl
  · simp only [from_resolved_with_state, RuntimeState.activity, RuntimeState.running]
    repeat' split
    all_goals rfl

/-- A service starts with nothing under way. -/
theorem Starts.quiet (h : Starts ext s) : s.backup = none ∧ s.enrolling = false ∧ s.update = false ∧
    s.runtime.state.repository_operation.isRunning = false ∧
    s.runtime.state.activity = ⟨false, s.runtime.state.repository_operation, false, none, false, false⟩ := by
  cases h with
  | loaded config_store credential_store state_store policy_cache load =>
    simp only [load_with_credentials_and_policy, bind_eq_ok, pure_eq_ok] at load
    obtain ⟨loc, -, resolved, -, rfl⟩ := load
    exact ⟨rfl, rfl, rfl, from_resolved_activity _ _ _ _ _ _ _ _⟩
  | configurationError => exact ⟨rfl, rfl, rfl, rfl, rfl⟩

theorem Starts.sound (h : Starts ext s) : Sound s := by
  obtain ⟨hb, he, hu, ho, ha⟩ := h.quiet
  refine ⟨?_, by rw [ha, hb]; rfl, by rw [ha, he], by simp [hu]⟩
  rw [ha]
  exact ⟨rfl, nofun, fun _ => ⟨rfl, rfl⟩, nofun⟩

/-- What a service starts with and every step of a sound system keeps, holds in every state it reaches. -/
theorem run_inv {s₀ : System} {ls : List Label} {ok : System → Label → Prop} (I : System → Prop)
    (hs : ∀ t l u, Sound t → I t → ok t l → step ext t l = some u → I u) (h₀ : Starts ext s₀) (hi : I s₀)
    (h : Run (step ext) ok s₀ ls s) : Sound s ∧ I s :=
  h.inv (fun s => Sound s ∧ I s) (fun t l u ht ho hstep => ⟨ht.1.step hstep, hs t l u ht.1 ht.2 ho hstep⟩)
    ⟨h₀.sound, hi⟩

end System

end ResticPal
