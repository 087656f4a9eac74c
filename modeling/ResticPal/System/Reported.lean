import ResticPal.Runtime.Status
import ResticPal.System.Updates
/-!
# The reported status

- `evaluation_reports_accurately`: after an evaluation that no update holds back,
  the status says what the configuration and the repository are, in every run in
  which neither changes between the expiry of an update hold and the evaluation
  that releases it.

A hold puts the status aside that it hides. What is put aside is shown again
when an evaluation finds the hold over, and nothing corrects it in between.
-/

open Lib

namespace ResticPal

/-- The requests that can change whether backups are configured, or the repository is ready. -/
def RequestCommand.resettles : RequestCommand → Bool
  | .UpdateBackupSources _ _ | .UpdateRepository _ _ _ _ _ | .ValidateRepository | .InitializeRepository
  | .Enroll _ | .Unenroll => true
  | _ => false

theorem begin_repository_section_config (config : EffectiveConfig) (runtime : ServiceRuntime)
    (operation : RepositoryOperationKind) (io : RequestIo) :
    (begin_repository_section config runtime operation io).1.config = runtime.config := by
  have hbegun := @begin_repository_section_begun runtime io config operation
  generalize (begin_repository_section config runtime operation io).1 = after at hbegun ⊢
  cases hbegun with
  | refused | begun => rfl

namespace Honest

variable {ext : External} {runtime : ServiceRuntime} {config : EffectiveConfig} {state : RuntimeState} {elevated : Bool}
  {io : RequestIo}

/-- A repository in use has no particular deadline. -/
theorem deferred (h : Honest config state) (hready : state.ready = true) (hr : state.running = false)
    (deadline : DateTime) : Honest config { state with
      manual_requested := false
      not_before := some deadline
      status := { state.status with next_deadline := some deadline } } := by
  have moved {deadline deadline' : Option DateTime} {shown : BackupState}
      (ha : Accurate config.is_configured state.ready (shown, deadline)) :
      Accurate config.is_configured state.ready (shown, deadline') :=
    ⟨ha.unconfigured, fun _ hnot => (by rw [hready] at hnot; cases hnot), ha.not_update⟩
  rcases Option.eq_none_or_eq_some state.update_hold_previous_status with hp | ⟨shown, hp⟩
  · obtain ⟨ha, hh⟩ := h.not_held hp
    exact of_accurate hp hr ha hh (moved (h.current hp hr))
  · obtain ⟨haccurate, hidle, hshown⟩ := h.previous shown hp
    exact of_previous hp hr haccurate hidle (hshown.imp_right moved)

theorem management_flag (h : Honest config state) (active : Bool) :
    Honest config { state with management_operation_active := active } := h.of_same rfl rfl rfl rfl rfl rfl

theorem enrolled {parse_url : String → Option Url} (h : Honest runtime.config runtime.state)
    (hp : (finish_enrollment parse_url runtime io).2.isAccepted = true →
      runtime.state.update_hold_previous_status = none) (hr : runtime.state.running = false) :
    Honest (finish_enrollment parse_url runtime io).1.config (finish_enrollment parse_url runtime io).1.state := by
  unfold finish_enrollment at hp ⊢
  refine management_flag ?_ false
  cases he : io.enrollment with
  | none => exact h
  | some pending =>
    simp only [he, Option.elim] at hp ⊢
    have hcommit := @commit_enrollment_commit runtime io parse_url pending
    generalize commit_enrollment parse_url runtime pending io = after at hcommit hp ⊢
    cases hcommit with
    | abandoned => exact h
    | @committed candidate resolved _ _ policy_cache =>
      exact @installed { runtime with config_store := runtime.stored candidate, policy_cache } runtime.config h (hp rfl)
        hr resolved _ _

theorem repository_edited {display_name url : Option String} {mode : Option RepositoryMode} {options : Option Options}
    {secret_updates : List RepositorySecretUpdate} {candidate : Candidate} (h : Honest runtime.config runtime.state)
    (hp : runtime.state.update_hold_previous_status = none)
    (hcheck : check_repository_edit runtime display_name url mode options secret_updates elevated io.now = .ok candidate)
    (changed : Bool) : Honest (commit_repository runtime candidate changed secret_updates io).1.config
      (commit_repository runtime candidate changed secret_updates io).1.state := by
  obtain ⟨-, hr, -⟩ := check_repository_edit_guards hcheck
  have hcommitted := @commit_repository_committed runtime io candidate changed secret_updates
  generalize commit_repository runtime candidate changed secret_updates io = after at hcommitted ⊢
  cases hcommitted with
  | abandoned | recorded => exact h
  | committed =>
    refine h.configured hp hr ?_ ?_ ?_ ?_ _ _
    all_goals split <;> rfl

theorem operation_begun (h : Honest runtime.config runtime.state)
    (hp : runtime.state.update_hold_previous_status = none) (operation : RepositoryOperationKind) :
    Honest (begin_repository_section runtime.config runtime operation io).1.config
      (begin_repository_section runtime.config runtime operation io).1.state := by
  rw [begin_repository_section_config]
  exact h.operating hp operation

theorem begin_hold (h : Honest config state) (hr : state.running = false)
    (ho : state.repository_operation.isRunning = false) (now deadline : DateTime) (active : Bool) :
    Honest config { ResticPal.begin_hold state now deadline with update_install_active := active } :=
  h.hold hr ho (transition_state_state _ _ _) rfl rfl

/-- A request keeps the status honest, if it does not change what an expired hold still hides. -/
theorem request {command : RequestCommand} (h : Honest runtime.config runtime.state)
    (hrest : runtime.state.activity.restores_running = false)
    (hl : command.resettles = true → runtime.state.update_hold_previous_status = none ∨
      runtime.Untouched (runtime.handle_request ext command elevated io).1) :
    Honest (runtime.handle_request ext command elevated io).1.config
      (runtime.handle_request ext command elevated io).1.state := by
  by_cases hsame : runtime.Untouched (runtime.handle_request ext command elevated io).1
  · rw [hsame.1, hsame.2]
    exact h
  have settled (hc : command.resettles = true) : runtime.state.update_hold_previous_status = none :=
    (hl hc).resolve_right hsame
  clear hl hsame
  have hhandled := handle_request_handled ext runtime command elevated io
  generalize runtime.handle_request ext command elevated io = after at hhandled ⊢
  cases hhandled with
  | unchanged => exact h
  | enrolled begins =>
    obtain ⟨hbusy, rfl⟩ := begin_enrollment_eq_some begins
    exact (h.management_flag true).enrolled (fun _ => settled rfl) (busy_eq_false.1 hbusy).1
  | unenrolled _ _ _ idle =>
    refine h.configured (settled rfl) (busy_eq_false.1 idle).1 ?_ ?_ ?_ ?_ _ _
    all_goals rfl
  | validates => exact h.operation_begun (settled rfl) .Validate
  | initializes => exact h.operation_begun (settled rfl) .Initialize
  | repository check => exact h.repository_edited (settled rfl) check _
  | sources _ _ running => exact h.configured (settled rfl) running rfl rfl rfl rfl _ _
  | schedule edited _ running => exact h.rescheduled running (edited.is_configured rfl rfl) _
  | retention edited | settings edited => exact h.of_same (edited.is_configured rfl rfl) rfl rfl rfl rfl rfl
  | requested => exact h.of_same rfl rfl rfl rfl rfl rfl
  | deferred _ _ ready running => exact h.deferred ready running _
  | held hold => exact h.begin_hold hold.running hold.operation _ _ _
  | installing hold => exact h.begin_hold hold.running hold.operation _ _ true
  | abandoned hold =>
    have ha := begin_install_activity io.now (hold_deadline io.now MAX_UPDATE_HOLD_SECONDS) hold.running
    exact (h.begin_hold hold.running hold.operation _ _ true).restored
      ((congrArg Activity.running ha).trans hold.running) ((congrArg Activity.restores_running ha).trans hrest) _

end Honest

namespace System

variable {ext : External} {s u : System} {l : Label}

/-- Nothing changes what an expired hold still hides: a request that takes
effect, a policy that is applied, or an enrollment that commits. -/
def Settled (ext : External) (s : System) : Label → Prop
  | .request command elevated io => command.resettles = true →
    s.runtime.state.update_hold_previous_status = none ∨
      s.runtime.Untouched (s.runtime.handle_request ext command elevated io).1
  | .applyPolicy policy expected now written =>
    (s.runtime.apply_managed_policy_if_current policy expected now written).2 = .ok .Applied →
      s.runtime.state.update_hold_previous_status = none
  | .finishEnroll io =>
    s.commits ext (.finishEnroll io) = true → s.runtime.state.update_hold_previous_status = none
  | _ => True

/-- The status of the service is honest. -/
abbrev HonestStatus (s : System) : Prop := Honest s.runtime.config s.runtime.state

theorem HonestStatus.step (h : HonestStatus s) (hsound : Sound s) (hl : s.Settled ext l) (hs : step ext s l = some u) :
    HonestStatus u := by
  cases step_ran hs with
  | request _ => exact h.request hsound.exclusive.restores hl
  | beganEnroll begins =>
    obtain ⟨-, rfl⟩ := begin_enrollment_eq_some begins
    exact h.management_flag true
  | finishedEnroll enrolling =>
    exact h.enrolled hl (hsound.exclusive.not_running_of_management (hsound.enrolling.trans enrolling))
  | @appliedPolicy policy expected now written =>
    have hl : (s.runtime.apply_managed_policy_if_current policy expected now written).2 = .ok .Applied →
      s.runtime.state.update_hold_previous_status = none := hl
    unfold HonestStatus
    unfold ServiceRuntime.apply_managed_policy_if_current at hl ⊢
    split
    · exact h
    · split
      · exact h
      · split
        · exact h
        · rename_i hexpected _ resolved hresolved hbusy
          simp only [hexpected, hresolved, hbusy] at hl
          simp only [Bool.or_eq_true, not_or, Bool.not_eq_true] at hbusy
          exact h.installed (hl rfl) hbusy.1.1 _ _ _
  | evaluated evaluates => exact (h.evaluated hsound.exclusive.restores evaluates).1
  | finishedUpdate pending =>
    have hactive := hsound.update pending
    exact h.finished_update hactive (hsound.exclusive.alone_of_install hactive).1 hsound.exclusive.restores _ _
  | @finishedRepository operation outcome now written =>
    have hr (ho : s.runtime.state.repository_operation = .Running operation) : s.runtime.state.running = false :=
      hsound.exclusive.not_running_of_operation (congrArg RepositoryOperationStatus.isRunning ho)
    have hconfig : (s.runtime.finish_repository_operation operation outcome now written).config = s.runtime.config := by
      unfold ServiceRuntime.finish_repository_operation
      rcases finish_repository_section_ended s.runtime.config operation outcome now written hr with he | ⟨-, he⟩
      · rw [he]
      · exact he.same_config.config
    unfold HonestStatus
    dsimp only
    rw [hconfig]
    exact h.operated operation outcome now written hr
  | progressed _ => exact h.progressed _
  | beganRetention worker => exact h.retaining (hsound.running_of_worker worker) _ _ _
  | retained _ finishes =>
    subst finishes
    unfold HonestStatus
    rw [finish_retention_runtime]
    exact h.of_same rfl rfl rfl rfl rfl rfl
  | finishedBackup worker finishes =>
    have hr := hsound.running_of_worker worker
    obtain ⟨state, hsec, rfl⟩ := Option.map_eq_some_iff.1 finishes
    unfold HonestStatus
    dsimp only
    split
    · rw [save_state_getD]
      exact h.backed_up hr hsec
    · exact h.backed_up hr hsec
  | resumed | spawnFailed _ | copiedConfig _ | endedBackup _ => exact h.of_same rfl rfl rfl rfl rfl rfl

/-- After an evaluation at which no install is active and no hold unexpired, in
every run that is settled: unless a backup runs, the status is unconfigured
exactly when the configuration is, waits for the repository when it has to be
validated, and never speaks of an update. -/
theorem evaluation_reports_accurately {runtime : ServiceRuntime} {start now : DateTime} {policy : Option ManagedPolicy}
    {config_store : LocalConfigStore} {credential_store : Option CredentialStore}
    {state_store : StoredFile PersistedScheduleState} {policy_cache : ManagedPolicyCache}
    {conditions : SystemConditions} {ls : List Label}
    (load : load_with_credentials_and_policy ext.parse_url config_store credential_store state_store policy_cache policy
      start = .ok runtime)
    (h : Run (step ext) (Settled ext) ⟨runtime, start, none, false, false, policy⟩ ls s)
    (hs : step ext s (.evaluate now conditions) = some u) (hpending : s.runtime.state.update_pending now = false)
    (hr : u.runtime.state.running = false) :
    (u.runtime.state.status.state = .Unconfigured ↔ u.runtime.config.is_configured = false) ∧
    (u.runtime.config.is_configured = true →
      repository_operation_allows_backup u.runtime.state.repository_operation = false →
      u.runtime.state.status.state = .Waiting .RepositoryValidation ∧ u.runtime.state.status.next_deadline = none) ∧
    u.runtime.state.status.state ≠ .Waiting .Update := by
  have h₀ : HonestStatus ⟨runtime, start, none, false, false, policy⟩ := by
    have hload := load
    simp only [load_with_credentials_and_policy, bind_eq_ok, pure_eq_ok] at hload
    obtain ⟨loc, -, resolved, -, rfl⟩ := hload
    exact .started _ _ _ _ _ _ _ _
  obtain ⟨hsound, hstatus⟩ := run_inv HonestStatus (fun _ _ _ hsound hi hl hs => hi.step hsound hl hs)
    (.loaded config_store credential_store state_store policy_cache load) h₀ h
  cases step_ran hs with
  | evaluated evaluates =>
    obtain ⟨hafter, hreleased⟩ := hstatus.evaluated hsound.exclusive.restores evaluates
    have haccurate := hafter.current (hreleased hpending) hr
    exact ⟨haccurate.unconfigured, fun hc ho => Prod.mk.inj (haccurate.validation hc ho), haccurate.not_update⟩

namespace ExpiredHold

open HomeDevice (verified conditions)

/-- A device whose repository is in use, and that has nothing to back up. -/
def loc : LocalConfig := { HomeDevice.loc with backup := {} }

def effective : EffectiveConfig := { HomeDevice.effective with backup := {} }

def runtime : ServiceRuntime :=
  from_resolved_with_state ⟨effective, none, ((choose_all {} loc none).run ∅).2⟩ loc verified ⟨none, .contents loc⟩ none
    (.contents ⟨STATE_SCHEMA_VERSION, verified⟩) .missing .UNIX_EPOCH

def started : System := ⟨runtime, .UNIX_EPOCH, none, false, false, none⟩

theorem runtime_loads : load_with_credentials_and_policy External.inert.parse_url ⟨none, .contents loc⟩ none
    (.contents ⟨STATE_SCHEMA_VERSION, verified⟩) .missing none .UNIX_EPOCH = .ok runtime := by decide

/-- Two minutes later, when a hold of one minute is over. -/
def later : DateTime := ⟨120 * 1000000000, by decide, by decide⟩

def holds : Label := .request (.PrepareForUpdate 60) true (.quiet .UNIX_EPOCH)

def configures : Label := .request (.UpdateBackupSources (some [⟨"C:\\Users"⟩]) none) true (.quiet later)

theorem unreleased_isSome :
    (runList (step External.inert) (fun _ _ => True) started [holds, configures]).isSome := by decide

def unreleased : System := (runList (step External.inert) (fun _ _ => True) started [holds, configures]).get unreleased_isSome

theorem unreleased_evaluates : (step External.inert unreleased (.evaluate later conditions)).isSome := by decide

/-- Sources are chosen when the hold is over and before an evaluation has released
it: the evaluation shows what the hold hid, and a device that has all it needs
says that it is not configured. -/
theorem configured_device_shows_unconfigured :
    load_with_credentials_and_policy External.inert.parse_url ⟨none, .contents loc⟩ none
      (.contents ⟨STATE_SCHEMA_VERSION, verified⟩) .missing none .UNIX_EPOCH = .ok runtime ∧
    ∃ s u, Run (step External.inert) (fun _ _ => True) started [holds, configures] s ∧
      step External.inert s (.evaluate later conditions) = some u ∧ s.runtime.state.update_pending later = false ∧
      u.runtime.state.running = false ∧ u.runtime.config.is_configured = true ∧
      u.runtime.state.status.state = .Unconfigured :=
  ⟨runtime_loads, unreleased, _, .of_isSome unreleased_isSome, (Option.some_get unreleased_evaluates).symm, by decide,
    by decide, by decide, by decide⟩

/-! An evaluation releases the hold before the sources are chosen. -/

def held : System := (step External.inert started holds).get (by decide)

def released : System := (step External.inert held (.evaluate later conditions)).get (by decide)

def configured : System := (step External.inert released configures).get (by decide)

theorem configured_run : Run (step External.inert) (Settled External.inert) started
    [holds, .evaluate later conditions, configures] configured := by
  have hheld : Run (step External.inert) (Settled External.inert) started [holds] held :=
    .snoc .nil nofun (Option.some_get _).symm
  have hreleased : Run (step External.inert) (Settled External.inert) started [holds, .evaluate later conditions]
      released := .snoc hheld trivial (Option.some_get _).symm
  exact .snoc hreleased (fun _ => .inl (by decide)) (Option.some_get _).symm

theorem configured_evaluates : (step External.inert configured (.evaluate later conditions)).isSome := by decide

theorem released_device_shows_configured : ((step External.inert configured (.evaluate later conditions)).get
    configured_evaluates).runtime.state.status.state ≠ .Unconfigured := by
  have haccurate := evaluation_reports_accurately runtime_loads configured_run
    (Option.some_get configured_evaluates).symm (by decide) (by decide)
  intro hu
  have := haccurate.1.1 hu
  revert this
  decide

end ExpiredHold

end System

end ResticPal
