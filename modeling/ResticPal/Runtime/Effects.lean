import ResticPal.Runtime.Handlers
/-!
# What a request does

`handle_request_effect` sums up the handlers: a request leaves the
configuration and the operations alone, starts a repository operation, holds
backups for an update, edits the configuration, or enters or leaves management.
Each case carries the checks the handler made. The theorems about whole runs
are case analyses over `RequestEffect`.
-/

open Lib

namespace ResticPal

/-- The settings a backup works with. -/
def EffectiveConfig.settings (config : EffectiveConfig) :
    BackupConfig × RepositoryConfig × ScheduleConfig × RetentionConfig :=
  (config.backup, config.repository, config.schedule, config.retention)

/-- The accepted request starts an update worker. -/
def RequestCommand.starts_update (command : RequestCommand) (response : ResponsePayload) : Bool :=
  match command with
  | .InstallUpdate _ => response.isAccepted
  | _ => false

/-- The managed policy in force after a request. -/
def RequestCommand.policy_after (command : RequestCommand) (runtime : ServiceRuntime) (io : RequestIo)
    (response : ResponsePayload) (policy : Option ManagedPolicy) : Option ManagedPolicy :=
  match command with
  | .Enroll _ => if response.isAccepted then io.enrollment.map (·.initial_manifest.payload.policy) else policy
  | .Unenroll => if response.isAccepted && runtime.local_config.management.mode != .Disabled then none else policy
  | _ => policy

/-- The requests that edit the configuration. -/
def RequestCommand.is_edit : RequestCommand → Bool
  | .UpdateBackupSources _ _ | .UpdateRepository _ _ _ _ _ | .UpdateSchedule _ _ _ _ _ | .UpdateRetention _ _ _ _ _
  | .UpdateUpdateSettings _ => true
  | _ => false

/-- The operation a request asks for. -/
def RequestCommand.operation : RequestCommand → Option RepositoryOperationKind
  | .ValidateRepository => some .Validate
  | .InitializeRepository => some .Initialize
  | _ => none

/-- What an enrollment that committed has established. -/
structure EnrollCommitted (parse_url : String → Option Url) (before after : ServiceRuntime) (policy : ManagedPolicy) :
    Prop where
  management : after.local_config.management.validate parse_url = .ok ()
  schema_version : after.local_config.schema_version = before.local_config.schema_version
  no_secret_refs : policy.repository.secret_refs = none
  resolved : ∃ resolved, resolve_config {} after.local_config (some policy) = .ok resolved ∧
    after.config = resolved.effective ∧ after.field_resolutions = resolved.fields ∧
    Revalidated resolved.effective before.state after.state
  config_store : after.config_store = before.stored after.local_config
  names : ∀ policy, names_backup after.local_config policy = names_backup before.local_config policy
  fields : ∀ f, f ≠ .RepositorySecretRefs → after.local_config.get f = before.local_config.get f
  managed : after.local_config.management.mode = .SignedManifest

/-- The end of an enrollment: it committed, or only the flag is gone. -/
inductive EnrollFinished (parse_url : String → Option Url) (begun : ServiceRuntime) (io : RequestIo) :
    ServiceRuntime → ResponsePayload → Prop
  | failed {after : ServiceRuntime} {response : ResponsePayload} (rejected : response.isAccepted = false)
      (same : SameConfig begun after)
      (activity : after.state.activity = { begun.state.activity with management_operation_active := false })
      (service_state : after.state.service_state = begun.state.service_state) :
      EnrollFinished parse_url begun io after response
  | committed {after : ServiceRuntime} {response : ResponsePayload} {policy : ManagedPolicy}
      (accepted : response.isAccepted = true)
      (delivered : io.enrollment.map (·.initial_manifest.payload.policy) = some policy)
      (committed : EnrollCommitted parse_url
        { begun with state := { begun.state with management_operation_active := false } } after policy) :
      EnrollFinished parse_url begun io after response

inductive RequestEffect (ext : External) (runtime : ServiceRuntime) (command : RequestCommand) (elevated : Bool)
    (io : RequestIo) : ServiceRuntime → ResponsePayload → Prop
  /-- Nothing that matters to another operation. -/
  | kept {after : ServiceRuntime} {response : ResponsePayload} (same : SameConfig runtime after)
      (activity : after.state.activity = runtime.state.activity)
      (service_state : after.state.service_state = runtime.state.service_state)
      (update : command.starts_update response = false)
      (policy : ∀ policy, command.policy_after runtime io response policy = policy) :
      RequestEffect ext runtime command elevated io after response
  /-- A repository operation that started, or could not. -/
  | began {after : ServiceRuntime} {response : ResponsePayload} {status : RepositoryOperationStatus}
      (same : SameConfig runtime after) (pending : runtime.state.update_pending io.now = false)
      (running : runtime.state.running = false)
      (allows : repository_operation_allows_backup status = false)
      (activity : after.state.activity = { runtime.state.activity with repository_operation := status })
      (update : command.starts_update response = false)
      (policy : ∀ policy, command.policy_after runtime io response policy = policy)
      (operation : runtime.state.repository_operation.isRunning = false)
      (service_state : after.state.service_state = runtime.state.service_state.require_repository_validation) :
      RequestEffect ext runtime command elevated io after response
  /-- An update hold. -/
  | held {after : ServiceRuntime} {response : ResponsePayload} {active : Bool} {hold : Option DateTime}
      (same : SameConfig runtime after) (inactive : runtime.state.update_install_active = false)
      (running : runtime.state.running = false)
      (operation : runtime.state.repository_operation.isRunning = false)
      (management : runtime.state.management_operation_active = false)
      (activity : after.state.activity = { runtime.state.activity with
        update_install_active := active, update_hold_until := hold })
      (service_state : after.state.service_state = runtime.state.service_state)
      (update : command.starts_update response = true → active = true)
      (policy : ∀ policy, command.policy_after runtime io response policy = policy) :
      RequestEffect ext runtime command elevated io after response
  /-- An edit of the configuration. -/
  | edited {after : ServiceRuntime} {response : ResponsePayload} {candidate : Candidate} (references : List String)
      (edited : Edited runtime (command.edits ext references) candidate)
      (config : after.config = candidate.effective) (local_config : after.local_config = candidate.loc)
      (field_resolutions : after.field_resolutions = runtime.field_resolutions)
      (config_store : after.config_store = runtime.stored candidate.loc)
      (pending : runtime.state.update_pending io.now = false)
      (frozen : runtime.state.running = true → after.config.settings = runtime.config.settings)
      (connection : (RepositoryIdentity.from_config after.config = RepositoryIdentity.from_config runtime.config ∧
          after.state.activity = runtime.state.activity ∧ after.state.service_state = runtime.state.service_state) ∨
        runtime.state.running = false ∧
          after.state.activity = { runtime.state.activity with repository_operation := .ValidationRequired } ∧
          runtime.state.repository_operation.isRunning = false ∧
          after.state.service_state = runtime.state.service_state.require_repository_validation)
      (update : command.starts_update response = false)
      (policy : ∀ policy, command.policy_after runtime io response policy = policy)
      (stored : references.length = (stored_secrets command.secret_updates).length)
      (accepted : response.isAccepted = true) : RequestEffect ext runtime command elevated io after response
  /-- The end of management. -/
  | unenrolled {after : ServiceRuntime} {response : ResponsePayload} {resolved : ResolvedConfig}
      (unenroll : command = .Unenroll) (authorized : elevated = true)
      (busy : runtime.state.busy io.now = false) (managed : runtime.local_config.management.mode ≠ .Disabled)
      (resolves : resolve_config {} (unmanaged_config runtime.local_config) none = .ok resolved)
      (local_config : after.local_config = unmanaged_config runtime.local_config)
      (config : after.config = resolved.effective) (field_resolutions : after.field_resolutions = resolved.fields)
      (config_store : after.config_store = runtime.stored (unmanaged_config runtime.local_config))
      (activity : after.state.activity = runtime.state.activity)
      (service_state : after.state.service_state = runtime.state.service_state)
      (update : command.starts_update response = false)
      (policy : ∀ policy, command.policy_after runtime io response policy = none) :
      RequestEffect ext runtime command elevated io after response
  /-- An enrollment, from its beginning to its end. -/
  | enrolled {begun after : ServiceRuntime} {response : ResponsePayload}
      (enroll : ∃ bootstrap_url, command = .Enroll bootstrap_url)
      (begins : begin_enrollment runtime io.now = some begun)
      (finished : EnrollFinished ext.parse_url begun io after response)
      (update : command.starts_update response = false)
      (policy : ∀ policy, command.policy_after runtime io response policy =
        if response.isAccepted then io.enrollment.map (·.initial_manifest.payload.policy) else policy) :
      RequestEffect ext runtime command elevated io after response

/-! ## The handlers -/

section Handlers

variable {ext : External} {runtime : ServiceRuntime} {command : RequestCommand} {elevated : Bool} {io : RequestIo}

theorem SameConfig.refl (runtime : ServiceRuntime) : SameConfig runtime runtime := ⟨rfl, rfl, rfl, rfl⟩

section Unchanged

variable {response : ResponsePayload} (refusal : response.isAccepted = true →
  command = .CancelBackup ∨ command = .Unenroll ∧ runtime.local_config.management.mode = .Disabled)

include refusal

theorem RequestCommand.starts_update_unchanged : command.starts_update response = false := by
  unfold RequestCommand.starts_update
  split
  · by_contra haccepted
    rcases refusal (Bool.eq_true_of_not_eq_false haccepted) with h | ⟨h, -⟩ <;> cases h
  · rfl

theorem RequestCommand.policy_after_unchanged (policy : Option ManagedPolicy) :
    command.policy_after runtime io response policy = policy := by
  unfold RequestCommand.policy_after
  split
  · refine if_neg fun haccepted => ?_
    rcases refusal haccepted with h | ⟨h, -⟩ <;> cases h
  · refine if_neg fun haccepted => ?_
    rw [Bool.and_eq_true, bne_iff_ne] at haccepted
    rcases refusal haccepted.1 with h | ⟨-, h⟩
    · cases h
    · exact haccepted.2 h
  · rfl

/-- A request that does nothing. -/
theorem RequestEffect.unchanged : RequestEffect ext runtime command elevated io runtime response :=
  .kept (.refl runtime) rfl rfl (RequestCommand.starts_update_unchanged refusal)
    (RequestCommand.policy_after_unchanged refusal)

end Unchanged

theorem run_now_section_kept (state : RuntimeState) (io : RequestIo) :
    (run_now_section state io).1.activity = state.activity ∧
      (run_now_section state io).1.service_state = state.service_state := by
  unfold run_now_section
  repeat' split
  all_goals exact ⟨rfl, rfl⟩

theorem defer_section_kept (state : RuntimeState) (minutes : UInt32) (io : RequestIo) :
    (defer_section state minutes io).1.activity = state.activity ∧
      (defer_section state minutes io).1.service_state = state.service_state := by
  unfold defer_section
  repeat' split
  all_goals exact ⟨rfl, rfl⟩

theorem begin_repository_section_effect {config : EffectiveConfig} {operation : RepositoryOperationKind}
    (hu : ∀ response, command.starts_update response = false)
    (hp : ∀ response policy, command.policy_after runtime io response policy = policy) :
    RequestEffect ext runtime command elevated io (begin_repository_section config runtime operation io).1
      (begin_repository_section config runtime operation io).2 := by
  have hbegun := @begin_repository_section_begun runtime io config operation
  generalize begin_repository_section config runtime operation io = after at hbegun ⊢
  obtain ⟨after, response⟩ := after
  cases hbegun with
  | refused => exact .kept (.refl _) rfl rfl (hu _) (hp _)
  | @begun operation state_store pending running idle allows saved =>
    have hstatus : (if config.is_configured then
        { transition_state runtime.state.status (.Waiting .RepositoryValidation) io.now with
          next_deadline := none } else runtime.state.status).state.isRunning = false := by
      split
      · simp
      · exact running
    exact .began ⟨rfl, rfl, rfl, rfl⟩ pending running allows (Activity.ext (hstatus.trans running.symm) rfl rfl rfl rfl rfl)
      (hu _) (hp _) idle rfl

/-! ### Edits -/

theorem Edited.get_of_none {edits : Edits} {candidate : Candidate} (h : Edited runtime edits candidate) {f : PolicyField}
    (hf : edits f = none) : candidate.effective.get f = runtime.config.get f := by
  have := congrArg Prod.snd (h.fields f)
  rwa [hf] at this

theorem Edited.is_configured {edits : Edits} {candidate : Candidate} (h : Edited runtime edits candidate)
    (hu : edits .RepositoryUrl = none) (hp : edits .BackupPaths = none) :
    candidate.effective.is_configured = runtime.config.is_configured := by
  have hurl : candidate.effective.repository.url = runtime.config.repository.url := h.get_of_none hu
  have hpaths : candidate.effective.backup.paths = runtime.config.backup.paths := h.get_of_none hp
  rw [EffectiveConfig.is_configured, EffectiveConfig.is_configured, hurl, hpaths]

/-- An edit that leaves the connection alone leaves the repository's identity. -/
theorem Edited.identity {edits : Edits} {candidate : Candidate} (h : Edited runtime edits candidate)
    (hu : edits .RepositoryUrl = none) (ho : edits .RepositoryOptions = none)
    (hs : edits .RepositorySecretRefs = none) :
    RepositoryIdentity.from_config candidate.effective = RepositoryIdentity.from_config runtime.config := by
  have hu : candidate.effective.repository.url = runtime.config.repository.url := h.get_of_none hu
  have ho : candidate.effective.repository.options = runtime.config.repository.options := h.get_of_none ho
  have hs : candidate.effective.repository.secret_refs = runtime.config.repository.secret_refs := h.get_of_none hs
  rw [RepositoryIdentity.from_config, RepositoryIdentity.from_config, hu, ho, hs]

/-- An edit that leaves the connection alone. -/
theorem RequestEffect.of_edit {candidate : Candidate} {state : RuntimeState} {message : String}
    (hu : command.starts_update (.Accepted message) = false)
    (hp : ∀ policy, command.policy_after runtime io (.Accepted message) policy = policy)
    (hedited : Edited runtime (command.edits ext []) candidate) (hstored : stored_secrets command.secret_updates = [])
    (hi : RepositoryIdentity.from_config candidate.effective = RepositoryIdentity.from_config runtime.config)
    (hpending : runtime.state.update_pending io.now = false)
    (hfrozen : runtime.state.running = false ∨ candidate.effective.settings = runtime.config.settings)
    (ha : state.activity = runtime.state.activity) (hs : state.service_state = runtime.state.service_state) :
    RequestEffect ext runtime command elevated io (runtime.edited candidate state) (.Accepted message) := by
  refine .edited [] hedited rfl rfl rfl rfl hpending (fun hrunning => ?_) (.inl ⟨hi, ha, hs⟩) hu hp ?_ rfl
  · refine hfrozen.resolve_left fun hr => ?_
    rw [hr] at hrunning
    cases hrunning
  · rw [hstored]
    rfl

theorem commit_repository_effect {display_name url : Option String} {mode : Option RepositoryMode}
    {options : Option Options} {secret_updates : List RepositorySecretUpdate} {candidate : Candidate}
    (hcheck : check_repository_edit runtime display_name url mode options secret_updates elevated io.now = .ok candidate) :
    RequestEffect ext runtime (.UpdateRepository display_name url mode options secret_updates) elevated io
      (commit_repository runtime candidate (url.isSome || options.isSome || !secret_updates.isEmpty) secret_updates io).1
      (commit_repository runtime candidate (url.isSome || options.isSome || !secret_updates.isEmpty) secret_updates io).2 := by
  obtain ⟨⟨-, hpending⟩, hr, ho⟩ := check_repository_edit_guards hcheck
  have hcommitted := @commit_repository_committed runtime io candidate
    (url.isSome || options.isSome || !secret_updates.isEmpty) secret_updates
  generalize commit_repository runtime candidate _ secret_updates io = after at hcommitted ⊢
  obtain ⟨after, response⟩ := after
  cases hcommitted with
  | abandoned => exact .kept ⟨rfl, rfl, rfl, rfl⟩ rfl rfl rfl fun _ => rfl
  | recorded => exact .kept ⟨rfl, rfl, rfl, rfl⟩ rfl rfl rfl fun _ => rfl
  | @committed edited references message credential_store state_store stored edits valid saved =>
    subst edits
    have hedited := check_repository_edit_edited hcheck references valid
    refine .edited references hedited rfl rfl rfl rfl hpending (fun hrunning => ?_) ?_ rfl (fun _ => rfl) stored rfl
    · rw [hr] at hrunning
      cases hrunning
    · cases hchanged : url.isSome || options.isSome || !secret_updates.isEmpty with
      | true =>
        exact .inr ⟨hr, apply_configuration_status_activity _ _ hr, ho, apply_configuration_status_service_state _ _ _⟩
      | false =>
        simp only [Bool.or_eq_false_iff, Option.isSome_eq_false_iff, Option.isNone_iff_eq_none,
          Bool.not_eq_false'] at hchanged
        obtain ⟨⟨rfl, rfl⟩, hempty⟩ := hchanged
        exact .inl ⟨hedited.identity rfl rfl (assign_secrets_of_isEmpty hempty _),
          apply_configuration_status_activity _ _ hr, apply_configuration_status_service_state _ _ _⟩

/-! ### Management -/

theorem begin_enrollment_activity {begun : ServiceRuntime} {now : DateTime}
    (h : begin_enrollment runtime now = some begun) : SameConfig runtime begun ∧ runtime.state.busy now = false ∧
      begun.state.activity = { runtime.state.activity with management_operation_active := true } ∧
      begun.state.service_state = runtime.state.service_state := by
  obtain ⟨hbusy, rfl⟩ := begin_enrollment_eq_some h
  exact ⟨⟨rfl, rfl, rfl, rfl⟩, hbusy, rfl, rfl⟩

theorem check_enrollment_eq_some {parse_url : String → Option Url} {candidate : LocalConfig} {policy : ManagedPolicy}
    {resolved : ResolvedConfig} (h : check_enrollment parse_url candidate policy = some resolved) :
    candidate.management.validate parse_url = .ok () ∧ policy.repository.secret_refs = none ∧
      resolve_config {} candidate (some policy) = .ok resolved := by
  unfold check_enrollment at h
  split at h
  · rename_i hc
    simp only [Bool.and_eq_true, Option.isNone_iff_eq_none] at hc
    obtain ⟨hm, hs⟩ := hc
    refine ⟨?_, hs, ?_⟩
    · cases hv : candidate.management.validate parse_url with
      | ok _ => rfl
      | error e =>
        rw [hv] at hm
        cases hm
    · cases hr : resolve_config {} candidate (some policy) with
      | ok r =>
        rw [hr] at h
        exact congrArg _ (Option.some.inj h)
      | error e =>
        rw [hr] at h
        cases h
  · cases h

theorem enrolled_config_schema_version (loc : LocalConfig) (pending : PendingEnrollment) (references : List String) :
    (enrolled_config loc pending references).schema_version = loc.schema_version := by
  unfold enrolled_config
  split <;> rfl

theorem enrolled_config_names (loc : LocalConfig) (pending : PendingEnrollment) (references : List String)
    (policy : Option ManagedPolicy) :
    names_backup (enrolled_config loc pending references) policy = names_backup loc policy := by
  unfold enrolled_config
  split <;> rfl

theorem enrolled_config_get (loc : LocalConfig) (pending : PendingEnrollment) (references : List String) {f : PolicyField}
    (hf : f ≠ .RepositorySecretRefs) : (enrolled_config loc pending references).get f = loc.get f := by
  unfold enrolled_config
  split
  · cases f with
    | RepositorySecretRefs => exact absurd rfl hf
    | _ => rfl
  · rfl

/-- The references of the token and the key make the device a managed one. -/
theorem enrolled_config_mode {references : List String} (loc : LocalConfig) (pending : PendingEnrollment)
    (h : 2 ≤ references.length) : (enrolled_config loc pending references).management.mode = .SignedManifest := by
  match references, h with
  | _ :: _ :: _, _ => rfl

theorem commit_enrollment_committed (parse_url : String → Option Url) (io : RequestIo) (pending : PendingEnrollment)
    (hr : runtime.state.running = false) :
    ((commit_enrollment parse_url runtime pending io).2 = false ∧
        SameConfig runtime (commit_enrollment parse_url runtime pending io).1 ∧
        (commit_enrollment parse_url runtime pending io).1.state = runtime.state) ∨
      (commit_enrollment parse_url runtime pending io).2 = true ∧
        EnrollCommitted parse_url runtime (commit_enrollment parse_url runtime pending io).1
          pending.initial_manifest.payload.policy := by
  have hcommit := @commit_enrollment_commit runtime io parse_url pending
  generalize commit_enrollment parse_url runtime pending io = after at hcommit ⊢
  cases hcommit with
  | abandoned => exact .inl ⟨rfl, ⟨rfl, rfl, rfl, rfl⟩, rfl⟩
  | @committed candidate resolved references credential_store policy_cache enrolls stored check =>
    obtain ⟨hm, hs, hresolved⟩ := check_enrollment_eq_some check
    have hi := @install_resolved_installed { runtime with config_store := runtime.stored candidate, policy_cache } resolved
      io.now io.state_written hr
    exact .inr ⟨rfl, hm, enrolls ▸ enrolled_config_schema_version _ _ _, hs,
      ⟨resolved, hresolved, hi.config, hi.field_resolutions, hi.revalidated⟩, hi.config_store,
      fun _ => enrolls ▸ enrolled_config_names _ _ _ _, fun _ hne => enrolls ▸ enrolled_config_get _ _ _ hne,
      enrolls ▸ enrolled_config_mode _ _ stored⟩

theorem finish_enrollment_finished (parse_url : String → Option Url) (io : RequestIo) (hr : runtime.state.running = false) :
    EnrollFinished parse_url runtime io (finish_enrollment parse_url runtime io).1
      (finish_enrollment parse_url runtime io).2 := by
  unfold finish_enrollment
  cases hd : io.enrollment with
  | none => exact .failed rfl ⟨rfl, rfl, rfl, rfl⟩ rfl rfl
  | some pending =>
    have hcommit := commit_enrollment_committed parse_url io pending hr
    dsimp only [Option.elim]
    generalize commit_enrollment parse_url runtime pending io = committed at hcommit ⊢
    obtain ⟨after, enrolled⟩ := committed
    dsimp only at hcommit ⊢
    rcases hcommit with ⟨rfl, hc, hs⟩ | ⟨rfl, hm, hv, hn, ⟨resolved, hres, hcfg, hfld, hre⟩, hst, hnames, hfields,
        hmode⟩
    · rw [hs]
      exact .failed rfl ⟨hc.1, hc.2, hc.3, hc.4⟩ rfl rfl
    · exact .committed rfl (by rw [hd]; rfl) ⟨hm, hv, hn, ⟨resolved, hres, hcfg, hfld, hre.end_management⟩, hst,
        hnames, hfields, hmode⟩

theorem finish_enrollment_effect {bootstrap_url : String} {begun : ServiceRuntime}
    (hbegun : begin_enrollment runtime io.now = some begun) :
    RequestEffect ext runtime (.Enroll bootstrap_url) elevated io (finish_enrollment ext.parse_url begun io).1
      (finish_enrollment ext.parse_url begun io).2 := by
  obtain ⟨-, hbusy, ha, -⟩ := begin_enrollment_activity hbegun
  have hr : begun.state.running = false := (congrArg Activity.running ha).trans (busy_eq_false.1 hbusy).1
  exact .enrolled ⟨_, rfl⟩ hbegun (finish_enrollment_finished ext.parse_url io hr) rfl fun _ => rfl

/-- Applying a policy changes nothing, or installs what it resolves to while nothing is under way. -/
theorem apply_managed_policy_applied {policy : ManagedPolicy} {expected : LocalManagementConfig} {now : DateTime}
    {written : Bool} :
    ((runtime.apply_managed_policy_if_current policy expected now written).1 = runtime ∧
        (runtime.apply_managed_policy_if_current policy expected now written).2 ≠ .ok .Applied) ∨
      (runtime.apply_managed_policy_if_current policy expected now written).2 = .ok .Applied ∧
        runtime.local_config.management = expected ∧ runtime.state.running = false ∧
        runtime.state.repository_operation.isRunning = false ∧ runtime.state.update_pending now = false ∧
        ∃ resolved, resolve_config {} runtime.local_config (some policy) = .ok resolved ∧
          Installed runtime (runtime.apply_managed_policy_if_current policy expected now written).1 resolved := by
  unfold ServiceRuntime.apply_managed_policy_if_current
  split
  · exact .inl ⟨rfl, by simp⟩
  · rename_i hm
    split
    · exact .inl ⟨rfl, by simp⟩
    · rename_i resolved hresolved
      split
      · exact .inl ⟨rfl, by simp⟩
      · rename_i hbusy
        simp only [Bool.or_eq_true, not_or, Bool.not_eq_true] at hbusy
        obtain ⟨⟨hr, ho⟩, hu⟩ := hbusy
        exact .inr ⟨rfl, by simpa using hm, hr, ho, hu, resolved, hresolved, install_resolved_installed _ _ _ hr⟩

/-! ## The dispatcher -/

/-- What a request can do. No backup may be waiting behind an update hold. -/
theorem handle_request_effect (hp : runtime.state.activity.restores_running = false) :
    RequestEffect ext runtime command elevated io (runtime.handle_request ext command elevated io).1
      (runtime.handle_request ext command elevated io).2 := by
  have hhandled := handle_request_handled ext runtime command elevated io
  generalize runtime.handle_request ext command elevated io = after at hhandled ⊢
  cases hhandled with
  | unchanged refusal => exact .unchanged refusal
  | enrolled begins => exact finish_enrollment_effect begins
  | unenrolled _ _ authorized idle managed resolves =>
    obtain ⟨hr, -⟩ := busy_eq_false.1 idle
    exact .unenrolled rfl authorized idle managed resolves rfl rfl rfl rfl (apply_configuration_status_activity _ _ hr)
      (apply_configuration_status_service_state _ _ _) rfl
      fun _ => by simp [RequestCommand.policy_after, ResponsePayload.isAccepted, managed]
  | validates | initializes => exact begin_repository_section_effect (fun _ => rfl) fun _ _ => rfl
  | repository check => exact commit_repository_effect check
  | sources edited checked running | schedule edited checked running =>
    exact .of_edit rfl (fun _ => rfl) edited rfl (edited.identity rfl rfl rfl) checked.2 (.inl running)
      (apply_configuration_status_activity _ _ running) (apply_configuration_status_service_state _ _ _)
  | retention edited checked running =>
    exact .of_edit rfl (fun _ => rfl) edited rfl (edited.identity rfl rfl rfl) checked.2 (.inl running) rfl rfl
  | settings edited kept checked =>
    exact .of_edit rfl (fun _ => rfl) edited rfl (edited.identity rfl rfl rfl) checked.2 (.inr (by rw [kept]; rfl)) rfl rfl
  | requested | deferred => exact .kept ⟨rfl, rfl, rfl, rfl⟩ rfl rfl rfl fun _ => rfl
  | held hold =>
    exact .held ⟨rfl, rfl, rfl, rfl⟩ hold.inactive hold.running hold.operation hold.management
      (begin_hold_activity _ _ hold.running) rfl nofun fun _ => rfl
  | installing hold =>
    exact .held ⟨rfl, rfl, rfl, rfl⟩ hold.inactive hold.running hold.operation hold.management
      (begin_install_activity _ _ hold.running) rfl (fun _ => rfl) fun _ => rfl
  | abandoned hold =>
    exact .held ⟨rfl, rfl, rfl, rfl⟩ hold.inactive hold.running hold.operation hold.management
      (abandon_install_activity _ _ hold.running hp) (restore_status_passedOn _ _).service_state nofun fun _ => rfl

/-- An edit without the rights for it, or during an update, does nothing. -/
theorem edit_refused (he : command.is_edit = true)
    (h : (elevated && !runtime.state.update_pending io.now) = false) :
    (runtime.handle_request ext command elevated io).1 = runtime := by
  have hhandled := handle_request_handled ext runtime command elevated io
  generalize runtime.handle_request ext command elevated io = handled at hhandled ⊢
  cases hhandled with
  | unchanged => rfl
  | repository check => simp [(check_repository_edit_guards check).1] at h
  | sources _ checked | schedule _ checked | retention _ checked | settings _ _ checked => simp [checked] at h
  | _ => cases he

end Handlers

end ResticPal
