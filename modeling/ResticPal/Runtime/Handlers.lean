import ResticPal.Runtime.Activity
import ResticPal.Runtime.Edits
/-!
# What the handlers leave

A handler that writes to several stores can end in many places, and most of them
leave almost everything as it was. Here is, for each of the three longest, what
it leaves: `OperationBegun` for the test or creation of a repository,
`RepositoryCommit` for a repository edit, and `EnrollCommit` for an enrollment.
`Handled` has the ends of all requests. What a request keeps is a case analysis
over it, and no other module looks into the checks of a handler again.
-/

open Lib

namespace ResticPal

/-! ## Saves -/

/-- `config.toml` once a configuration has been saved. -/
def ServiceRuntime.stored (runtime : ServiceRuntime) (candidate : LocalConfig) : Option LocalConfigStore :=
  runtime.config_store.map (fun store => { store with file := .contents candidate })

theorem save_config_eq_some {runtime saved : ServiceRuntime} {candidate : LocalConfig} {written : Bool}
    (h : runtime.save_config candidate written = some saved) :
    saved = { runtime with config_store := runtime.stored candidate } := by
  unfold ServiceRuntime.save_config at h
  unfold ServiceRuntime.stored
  split at h
  · rename_i hs
    obtain rfl := Option.some.inj h
    rw [hs, Option.map_none, ← hs]
  · rename_i store hs
    split at h
    · obtain rfl := Option.some.inj h
      rw [hs, Option.map_some]
    · cases h

/-- `state.json` after a save. -/
def saved_file (store : Option (StoredFile PersistedScheduleState)) (snapshot : ServiceStateSnapshot) :
    Option (StoredFile PersistedScheduleState) := store.map (fun _ => .contents ⟨STATE_SCHEMA_VERSION, snapshot⟩)

theorem save_state_succeeds (runtime : ServiceRuntime) (snapshot : ServiceStateSnapshot) :
    runtime.save_state snapshot true = some { runtime with state_store := saved_file runtime.state_store snapshot } := by
  unfold ServiceRuntime.save_state saved_file
  split
  · rename_i hs
    rw [hs, Option.map_none, ← hs]
  · rename_i file hs
    rw [hs]
    rfl

theorem save_config_succeeds (runtime : ServiceRuntime) (candidate : LocalConfig) :
    runtime.save_config candidate true = some { runtime with config_store := runtime.stored candidate } := by
  cases h : runtime.save_config candidate true with
  | none =>
    unfold ServiceRuntime.save_config at h
    split at h
    · cases h
    · cases h
  | some saved => rw [save_config_eq_some h]

/-! ## Repository operations -/

section Handlers

variable {runtime : ServiceRuntime} {io : RequestIo}

/-- A repository operation was refused, or the repository now needs validation. -/
inductive OperationBegun (config : EffectiveConfig) (runtime : ServiceRuntime) (io : RequestIo) : ServiceRuntime → Prop
  | refused : OperationBegun config runtime io runtime
  | begun {operation : RepositoryOperationStatus} {state_store : Option (StoredFile PersistedScheduleState)}
      (pending : runtime.state.update_pending io.now = false) (running : runtime.state.running = false)
      (idle : runtime.state.repository_operation.isRunning = false)
      (allows : repository_operation_allows_backup operation = false)
      (saved : io.state_written = true → state_store =
        saved_file runtime.state_store runtime.state.service_state.require_repository_validation) :
      OperationBegun config runtime io { runtime with
        state := { runtime.state with
          status := if config.is_configured then
            { transition_state runtime.state.status (.Waiting .RepositoryValidation) io.now with next_deadline := none }
            else runtime.state.status
          service_state := runtime.state.service_state.require_repository_validation
          repository_operation := operation }
        state_store }

theorem begin_repository_section_begun (config : EffectiveConfig) (operation : RepositoryOperationKind) :
    OperationBegun config runtime io (begin_repository_section config runtime operation io).1 := by
  unfold begin_repository_section
  simp only
  split
  · exact .refused
  · rename_i hpending
    split
    · exact .refused
    · rename_i hrunning
      split
      · exact .refused
      · rename_i hoperation
        have hp : runtime.state.update_pending io.now = false := by simpa using hpending
        have hr : runtime.state.running = false := by simpa using hrunning
        have ho : runtime.state.repository_operation.isRunning = false := by simpa using hoperation
        split
        · rename_i hsave
          refine .begun hp hr ho rfl fun hw => ?_
          rw [hw, save_state_succeeds] at hsave
          cases hsave
        · rename_i saved hsave
          have hsaved (hw : io.state_written = true) : saved.state_store = saved_file runtime.state_store
              runtime.state.service_state.require_repository_validation := by
            rw [hw, save_state_succeeds] at hsave
            exact (congrArg ServiceRuntime.state_store (Option.some.inj hsave)).symm
          rw [save_state_eq_some hsave]
          split
          · exact .begun hp hr ho rfl hsaved
          · exact .begun hp hr ho rfl hsaved

/-! ## Repository edits -/

/-- A repository edit was given up, before or after it had asked for validation, or it is in force. -/
inductive RepositoryCommit (runtime : ServiceRuntime) (candidate : Candidate) (connection_changed : Bool)
    (secret_updates : List RepositorySecretUpdate) (io : RequestIo) : ServiceRuntime × ResponsePayload → Prop
  | abandoned {code message : String} (credential_store : Option CredentialStore) :
      RepositoryCommit runtime candidate connection_changed secret_updates io
        ({ runtime with credential_store }, rejected code message)
  | recorded {code message : String} (credential_store : Option CredentialStore)
      (state_store : Option (StoredFile PersistedScheduleState)) (refused : io.config_written = false) :
      RepositoryCommit runtime candidate connection_changed secret_updates io
        ({ runtime with credential_store, state_store }, rejected code message)
  | committed {edited : Candidate} {references : List String} {message : String}
      (credential_store : Option CredentialStore) {state_store : Option (StoredFile PersistedScheduleState)}
      (stored : references.length = (stored_secrets secret_updates).length)
      (edits : edited = edit_secrets candidate secret_updates references) (valid : edited.effective.validate = .ok ())
      (saved : io.state_written = true → state_store = if connection_changed then
        saved_file runtime.state_store runtime.state.service_state.require_repository_validation
        else runtime.state_store) :
      RepositoryCommit runtime candidate connection_changed secret_updates io ({ runtime with
        config_store := runtime.stored edited.loc
        local_config := edited.loc
        config := edited.effective
        state := apply_configuration_status (if connection_changed then { runtime.state with
          repository_operation := .ValidationRequired
          service_state := runtime.state.service_state.require_repository_validation } else runtime.state)
          edited.effective io.now
        credential_store
        state_store }, .Accepted message)

theorem commit_repository_committed {candidate : Candidate} {connection_changed : Bool}
    {secret_updates : List RepositorySecretUpdate} : RepositoryCommit runtime candidate connection_changed secret_updates
      io (commit_repository runtime candidate connection_changed secret_updates io) := by
  unfold commit_repository
  simp only
  split
  · exact .abandoned _
  · rename_i hput
    have hlength := CredentialStore.put_all_length (by simpa using hput)
    split
    · exact .abandoned _
    · rename_i _ hvalid
      cases connection_changed with
      | false =>
        simp only [Bool.false_eq_true, if_false]
        split
        · exact .abandoned _
        · rename_i saved hsave
          rw [save_config_eq_some hsave]
          exact .committed _ hlength rfl hvalid fun _ => rfl
      | true =>
        simp only [if_true]
        split
        · exact .abandoned _
        · rename_i recorded hrecorded
          have hsaved (hw : io.state_written = true) : recorded.state_store = saved_file runtime.state_store
              runtime.state.service_state.require_repository_validation := by
            rw [hw, save_state_succeeds] at hrecorded
            exact (congrArg ServiceRuntime.state_store (Option.some.inj hrecorded)).symm
          rw [save_state_eq_some hrecorded]
          split
          · rename_i hsave
            refine .recorded _ _ ?_
            cases hw : io.config_written with
            | false => rfl
            | true =>
              rw [hw, save_config_succeeds] at hsave
              cases hsave
          · rename_i saved hsave
            rw [save_config_eq_some hsave]
            exact .committed _ hlength rfl hvalid hsaved

/-! ## Enrollments -/

/-- An enrollment was given up, with its secrets removed again, or it is in force. -/
inductive EnrollCommit (parse_url : String → Option Url) (runtime : ServiceRuntime) (pending : PendingEnrollment)
    (io : RequestIo) : ServiceRuntime × Bool → Prop
  | abandoned (credential_store : Option CredentialStore) :
      EnrollCommit parse_url runtime pending io ({ runtime with credential_store }, false)
  | committed {candidate : LocalConfig} {resolved : ResolvedConfig} {references : List String}
      (credential_store : Option CredentialStore) (policy_cache : ManagedPolicyCache)
      (enrolls : candidate = enrolled_config runtime.local_config pending references) (stored : 2 ≤ references.length)
      (check : check_enrollment parse_url candidate pending.initial_manifest.payload.policy = some resolved) :
      EnrollCommit parse_url runtime pending io ({ install_resolved
        { runtime with config_store := runtime.stored candidate, policy_cache } resolved io.now io.state_written with
          local_config := candidate
          credential_store }, true)

theorem commit_enrollment_commit {parse_url : String → Option Url} {pending : PendingEnrollment} :
    EnrollCommit parse_url runtime pending io (commit_enrollment parse_url runtime pending io) := by
  unfold commit_enrollment
  split
  · simp only
    split
    · exact .abandoned _
    · rename_i hput
      have hlength := CredentialStore.put_all_length (by simpa using hput)
      split
      · exact .abandoned _
      · rename_i hcheck
        split
        · exact .abandoned _
        · rename_i saved hsave
          rw [save_config_eq_some hsave]
          exact .committed _ _ rfl (hlength.symm.le.trans' (Nat.le_add_left 2 _)) hcheck
  · exact .abandoned runtime.credential_store

/-! ## Management -/

theorem busy_eq_false {state : RuntimeState} {now : DateTime} : state.busy now = false ↔
    state.running = false ∧ state.repository_operation.isRunning = false ∧
      state.management_operation_active = false ∧ state.update_pending now = false := by
  simp only [RuntimeState.busy, Bool.or_eq_false_iff, and_assoc]

/-- An enrollment begins when nothing else is under way, and sets its flag. -/
theorem begin_enrollment_eq_some {begun : ServiceRuntime} {now : DateTime}
    (h : begin_enrollment runtime now = some begun) : runtime.state.busy now = false ∧
      begun = { runtime with state := { runtime.state with management_operation_active := true } } := by
  unfold begin_enrollment at h
  split at h
  · cases h
  · rename_i hbusy
    exact ⟨by simpa using hbusy, (Option.some.inj h).symm⟩

/-- What the writes of an unenrollment leave, up to its status section. -/
structure UnenrollWritten (runtime written : ServiceRuntime) (resolved : ResolvedConfig) : Prop where
  managed : runtime.local_config.management.mode ≠ .Disabled
  resolves : resolve_config {} (unmanaged_config runtime.local_config) none = .ok resolved
  written : written = { runtime with
    policy_cache := written.policy_cache
    config_store := runtime.stored (unmanaged_config runtime.local_config)
    local_config := unmanaged_config runtime.local_config
    config := resolved.effective
    field_resolutions := resolved.fields }

theorem unenroll_writes_eq_ok {written : ServiceRuntime} {resolved : ResolvedConfig}
    (h : unenroll_writes runtime io = .ok (written, resolved)) : UnenrollWritten runtime written resolved := by
  unfold unenroll_writes at h
  split at h
  · cases h
  · split at h
    · cases h
    · rename_i hmode
      simp only at h
      split at h
      · cases h
      · rename_i hresolved
        split at h
        · cases h
        · rename_i hsaved
          rw [save_config_eq_some hsaved] at h
          obtain ⟨rfl, rfl⟩ := Prod.mk.inj (Except.ok.inj h)
          exact ⟨hmode, hresolved, rfl⟩

/-- An unenrollment that writes nothing is refused, or there is no management to leave. -/
theorem unenroll_writes_eq_error {response : ResponsePayload} (h : unenroll_writes runtime io = .error response) :
    response.isAccepted = false ∨ runtime.local_config.management.mode = .Disabled := by
  unfold unenroll_writes at h
  split at h
  · exact .inl (Except.error.inj h ▸ rfl)
  · split at h
    · exact .inr ‹_›
    · simp only at h
      split at h
      · exact .inl (Except.error.inj h ▸ rfl)
      · split at h
        · exact .inl (Except.error.inj h ▸ rfl)
        · cases h

end Handlers

/-! ## Refusals -/

/-- Every way the check can fail is a rejection. -/
def Refuses {α : Type} (check : Except ResponsePayload α) : Prop :=
  ∀ response, check = .error response → response.isAccepted = false

theorem Refuses.rejectIf {bad : Bool} {response : ResponsePayload} (h : response.isAccepted = false) :
    Refuses (rejectIf bad response) := by
  intro r hr
  cases bad with
  | false => cases hr
  | true => exact Except.error.inj hr ▸ h

theorem Refuses.bind {α β : Type} {check : Except ResponsePayload α} {rest : α → Except ResponsePayload β}
    (h : Refuses check) (hr : ∀ a, Refuses (rest a)) : Refuses (check >>= rest) := by
  cases check with
  | error e => exact fun r h' => h r (congrArg Except.error (Except.error.inj h'))
  | ok a => exact hr a

theorem Refuses.mapError {ε : Type} {check : Except ε Unit} {f : ε → ResponsePayload}
    (h : ∀ e, (f e).isAccepted = false) : Refuses (check.mapError f) := by
  intro r hr
  cases check with
  | ok _ => cases hr
  | error e => exact Except.error.inj hr ▸ h e

theorem check_edit_refuses (runtime : ServiceRuntime) (elevated : Bool) (now : DateTime) :
    Refuses (check_edit runtime elevated now) :=
  .bind (.rejectIf rfl) fun _ => .rejectIf rfl

theorem check_sources_edit_refuses (runtime : ServiceRuntime) (ext : External) (paths : Option (List PathBuf))
    (exclusions : Option (List String)) (elevated : Bool) (io : RequestIo) :
    Refuses (check_sources_edit runtime ext paths exclusions elevated io) :=
  .bind (check_edit_refuses _ _ _) fun _ => .bind (.rejectIf rfl) fun _ => .bind (.rejectIf rfl) fun _ =>
    .bind (.mapError fun error => by cases error <;> rfl) fun _ => .bind (.mapError fun _ => rfl) fun _ =>
      .bind (.rejectIf rfl) fun _ _ h => by cases h

theorem check_repository_edit_refuses (runtime : ServiceRuntime) (display_name url : Option String)
    (mode : Option RepositoryMode) (options : Option Options) (secret_updates : List RepositorySecretUpdate)
    (elevated : Bool) (now : DateTime) :
    Refuses (check_repository_edit runtime display_name url mode options secret_updates elevated now) :=
  .bind (check_edit_refuses _ _ _) fun _ => .bind (.rejectIf rfl) fun _ => .bind (.rejectIf rfl) fun _ =>
    .bind (.rejectIf rfl) fun _ => .bind (.rejectIf rfl) fun _ => .bind (.rejectIf rfl) fun _ =>
      .bind (.mapError fun _ => rfl) fun _ => .bind (.rejectIf rfl) fun _ => .bind (.rejectIf rfl) fun _ _ h => by cases h

theorem check_schedule_edit_refuses (runtime : ServiceRuntime) (interval_hours : Option UInt32)
    (wake_grace_seconds wake_lock_timeout_seconds : Option UInt64) (allow_on_battery allow_metered_network : Option Bool)
    (elevated : Bool) (now : DateTime) :
    Refuses (check_schedule_edit runtime interval_hours wake_grace_seconds wake_lock_timeout_seconds allow_on_battery
      allow_metered_network elevated now) :=
  .bind (check_edit_refuses _ _ _) fun _ => .bind (.rejectIf rfl) fun _ => .bind (.rejectIf rfl) fun _ =>
    .bind (.mapError fun _ => rfl) fun _ => .bind (.rejectIf rfl) fun _ => .bind (.rejectIf rfl) fun _ _ h => by cases h

theorem check_retention_edit_refuses (runtime : ServiceRuntime)
    (daily weekly monthly yearly prune_interval_days : Option UInt32) (elevated : Bool) (now : DateTime) :
    Refuses (check_retention_edit runtime daily weekly monthly yearly prune_interval_days elevated now) :=
  .bind (check_edit_refuses _ _ _) fun _ => .bind (.rejectIf rfl) fun _ => .bind (.rejectIf rfl) fun _ =>
    .bind (.rejectIf rfl) fun _ => .bind (.mapError fun _ => rfl) fun _ => .bind (.rejectIf rfl) fun _ =>
      .bind (.rejectIf rfl) fun _ _ h => by cases h

theorem check_repository_operation_refuses (config : EffectiveConfig) (operation : RepositoryOperationKind) :
    Refuses (check_repository_operation config operation) :=
  .bind (.rejectIf rfl) fun _ => .bind (.rejectIf rfl) fun _ => .rejectIf rfl

theorem check_hold_refuses (state : RuntimeState) (now : DateTime) (already pending backup operation : String) :
    Refuses (check_hold state now already pending backup operation) :=
  .bind (.rejectIf rfl) fun _ => .bind (.rejectIf rfl) fun _ => .bind (.rejectIf rfl) fun _ => .rejectIf rfl

/-! ## Requests -/

theorem check_hold_eq_ok {state : RuntimeState} {now : DateTime} {already pending backup operation : String} {u : Unit} :
    check_hold state now already pending backup operation = .ok u ↔
      state.update_install_active = false ∧ state.update_hold_until.any (fun deadline => now < deadline) = false ∧
        state.running = false ∧ state.repository_operation.isRunning = false ∧
        state.management_operation_active = false := by
  simp only [check_hold, check_bind_eq_ok, rejectIf_eq_ok, Bool.or_eq_false_iff]

/-- What the checks of an update hold have found. -/
structure Holdable (state : RuntimeState) (now : DateTime) : Prop where
  inactive : state.update_install_active = false
  expired : state.update_hold_until.any (fun deadline => now < deadline) = false
  running : state.running = false
  operation : state.repository_operation.isRunning = false
  management : state.management_operation_active = false

theorem Holdable.of_check {state : RuntimeState} {now : DateTime} {already pending backup operation : String} {u : Unit}
    (h : check_hold state now already pending backup operation = .ok u) : Holdable state now := by
  obtain ⟨hu, he, hr, ho, hm⟩ := check_hold_eq_ok.1 h
  exact ⟨hu, he, hr, ho, hm⟩

/-- When a hold of so many seconds ends. -/
def hold_deadline (now : DateTime) (seconds : UInt32) : DateTime := (now.checked_add_signed (holdDuration seconds)).getD now

/-- The runtime with an edit saved and in force. -/
def ServiceRuntime.edited (runtime : ServiceRuntime) (candidate : Candidate) (state : RuntimeState) : ServiceRuntime :=
  { runtime with
    config_store := runtime.stored candidate.loc
    local_config := candidate.loc
    config := candidate.effective
    state }

/-- The ends of a request. -/
inductive Handled (ext : External) (runtime : ServiceRuntime) (elevated : Bool) (io : RequestIo) :
    RequestCommand → ServiceRuntime × ResponsePayload → Prop
  /-- It only reads, or was refused. Leaving management twice is accepted, too. -/
  | unchanged {command : RequestCommand} {response : ResponsePayload}
      (refusal : response.isAccepted = true → command = .CancelBackup ∨
        command = .Unenroll ∧ runtime.local_config.management.mode = .Disabled) :
      Handled ext runtime elevated io command (runtime, response)
  | enrolled {bootstrap_url : String} {begun : ServiceRuntime} (begins : begin_enrollment runtime io.now = some begun) :
      Handled ext runtime elevated io (.Enroll bootstrap_url) (finish_enrollment ext.parse_url begun io)
  | unenrolled {resolved : ResolvedConfig} {message : String} (policy_cache : StoredFile CachedManifest)
      (credential_store : Option CredentialStore) (authorized : elevated = true)
      (idle : runtime.state.busy io.now = false) (managed : runtime.local_config.management.mode ≠ .Disabled)
      (resolves : resolve_config {} (unmanaged_config runtime.local_config) none = .ok resolved) :
      Handled ext runtime elevated io .Unenroll ({ runtime with
        policy_cache
        config_store := runtime.stored (unmanaged_config runtime.local_config)
        local_config := unmanaged_config runtime.local_config
        config := resolved.effective
        field_resolutions := resolved.fields
        state := unenroll_status runtime.state resolved io.now
        credential_store }, .Accepted message)
  | validates (authorized : elevated = true) (ready : check_repository_operation runtime.config .Validate = .ok ()) :
      Handled ext runtime elevated io .ValidateRepository (begin_repository_section runtime.config runtime .Validate io)
  | initializes (authorized : elevated = true) (ready : check_repository_operation runtime.config .Initialize = .ok ()) :
      Handled ext runtime elevated io .InitializeRepository
        (begin_repository_section runtime.config runtime .Initialize io)
  | repository {display_name url : Option String} {mode : Option RepositoryMode} {options : Option Options}
      {secret_updates : List RepositorySecretUpdate} {candidate : Candidate}
      (check : check_repository_edit runtime display_name url mode options secret_updates elevated io.now = .ok candidate) :
      Handled ext runtime elevated io (.UpdateRepository display_name url mode options secret_updates)
        (commit_repository runtime candidate (url.isSome || options.isSome || !secret_updates.isEmpty) secret_updates io)
  | sources {paths : Option (List PathBuf)} {exclusions : Option (List String)} {candidate : Candidate} {message : String}
      (edited : Edited runtime (sources_edits ext paths exclusions) candidate)
      (checked : elevated = true ∧ runtime.state.update_pending io.now = false) (running : runtime.state.running = false) :
      Handled ext runtime elevated io (.UpdateBackupSources paths exclusions)
        (runtime.edited candidate (apply_configuration_status runtime.state candidate.effective io.now), .Accepted message)
  | schedule {interval_hours : Option UInt32} {wake_grace_seconds wake_lock_timeout_seconds : Option UInt64}
      {allow_on_battery allow_metered_network : Option Bool} {candidate : Candidate} {message : String}
      (edited : Edited runtime (schedule_edits interval_hours wake_grace_seconds wake_lock_timeout_seconds
        allow_on_battery allow_metered_network) candidate)
      (checked : elevated = true ∧ runtime.state.update_pending io.now = false) (running : runtime.state.running = false) :
      Handled ext runtime elevated io (.UpdateSchedule interval_hours wake_grace_seconds wake_lock_timeout_seconds
          allow_on_battery allow_metered_network)
        (runtime.edited candidate (apply_configuration_status runtime.state candidate.effective io.now), .Accepted message)
  | retention {daily weekly monthly yearly prune_interval_days : Option UInt32} {candidate : Candidate} {message : String}
      (edited : Edited runtime (retention_edits daily weekly monthly yearly prune_interval_days) candidate)
      (checked : elevated = true ∧ runtime.state.update_pending io.now = false) (running : runtime.state.running = false) :
      Handled ext runtime elevated io (.UpdateRetention daily weekly monthly yearly prune_interval_days)
        (runtime.edited candidate runtime.state, .Accepted message)
  /-- The only edit that a running backup does not refuse. -/
  | settings {automatic_install : Bool} {candidate : Candidate} {message : String}
      (edited : Edited runtime (settings_edits automatic_install) candidate)
      (kept : candidate.effective = { runtime.config with updates := { automatic_install } })
      (checked : elevated = true ∧ runtime.state.update_pending io.now = false) :
      Handled ext runtime elevated io (.UpdateUpdateSettings automatic_install)
        (runtime.edited candidate runtime.state, .Accepted message)
  | requested {message : String} (running : runtime.state.running = false)
      (pending : runtime.state.update_pending io.now = false) :
      Handled ext runtime elevated io .RunBackupNow ({ runtime with
        state := { runtime.state with manual_requested := io.receiver_open, not_before := none } }, send_event io message)
  | deferred {minutes : UInt32} {message : String} (range : minutes ≤ 1440)
      (configured : runtime.config.is_configured = true)
      (ready : repository_operation_allows_backup runtime.state.repository_operation = true)
      (running : runtime.state.running = false) :
      Handled ext runtime elevated io (.DeferBackup minutes) ({ runtime with
        state := { runtime.state with
          manual_requested := false
          not_before := some ((io.now.checked_add_signed (Duration.minutes minutes)).getD io.now)
          status := { runtime.state.status with
            next_deadline := some ((io.now.checked_add_signed (Duration.minutes minutes)).getD io.now) } } },
        send_event io message)
  | held {hold_seconds : UInt32} {message : String} (hold : Holdable runtime.state io.now) :
      Handled ext runtime elevated io (.PrepareForUpdate hold_seconds) ({ runtime with
        state := begin_hold runtime.state io.now (hold_deadline io.now hold_seconds) }, .Accepted message)
  | installing {package : UpdatePackage} {message : String} (hold : Holdable runtime.state io.now) :
      Handled ext runtime elevated io (.InstallUpdate package) ({ runtime with
        state := { begin_hold runtime.state io.now (hold_deadline io.now MAX_UPDATE_HOLD_SECONDS) with
          update_install_active := true } }, .Accepted message)
  /-- The event loop has stopped, and the hold is given up at once. -/
  | abandoned {package : UpdatePackage} {code message : String} (hold : Holdable runtime.state io.now) :
      Handled ext runtime elevated io (.InstallUpdate package) ({ runtime with
        state := restore_status { begin_hold runtime.state io.now (hold_deadline io.now MAX_UPDATE_HOLD_SECONDS) with
          update_install_active := true } io.now }, rejected code message)

namespace Handled

variable {ext : External} {runtime : ServiceRuntime} {elevated : Bool} {io : RequestIo} {command : RequestCommand}

theorem refused {response : ResponsePayload} (h : response.isAccepted = false) :
    Handled ext runtime elevated io command (runtime, response) := by
  refine .unchanged fun haccepted => ?_
  rw [h] at haccepted
  cases haccepted

theorem of_reading {response : ResponsePayload} (h : response.isAccepted = false) :
    Handled ext runtime elevated io command (runtime, for_administrator elevated response) := by
  refine .refused ?_
  unfold for_administrator
  split
  · exact h
  · rfl

/-- An edit that passed its checks is saved, or refused after all. -/
theorem of_commit {candidate : Candidate} {state : RuntimeState} {message : String}
    (h : Handled ext runtime elevated io command (runtime.edited candidate state, .Accepted message)) :
    Handled ext runtime elevated io command (commit_candidate runtime candidate state io message) := by
  unfold commit_candidate
  split
  · exact .refused rfl
  · rename_i saved hsaved
    rw [save_config_eq_some hsaved]
    exact h

theorem of_enroll (bootstrap_url : String) : Handled ext runtime elevated io (.Enroll bootstrap_url)
    (runtime.enroll ext.parse_url (Text.as_bytes bootstrap_url) elevated io) := by
  unfold ServiceRuntime.enroll
  split
  · exact .refused rfl
  · split
    · exact .refused rfl
    · split
      · exact .refused rfl
      · exact .enrolled ‹_›

theorem of_unenroll : Handled ext runtime elevated io .Unenroll (runtime.unenroll elevated io) := by
  unfold ServiceRuntime.unenroll
  split
  · exact .refused rfl
  · rename_i helevated
    split
    · exact .refused rfl
    · rename_i hbusy
      split
      · rename_i response hwrites
        refine .unchanged fun haccepted => .inr ⟨rfl, ?_⟩
        refine (unenroll_writes_eq_error hwrites).resolve_left fun hrefused => ?_
        rw [haccepted] at hrefused
        cases hrefused
      · rename_i written resolved hwrites
        obtain ⟨hmanaged, hresolves, hwritten⟩ := unenroll_writes_eq_ok hwrites
        rw [hwritten]
        exact .unenrolled _ _ (by simpa using helevated) (by simpa [unenroll_check] using hbusy) hmanaged hresolves

theorem of_operation {operation : RepositoryOperationKind}
    (h : elevated = true → check_repository_operation runtime.config operation = .ok () →
      Handled ext runtime elevated io command (begin_repository_section runtime.config runtime operation io)) :
    Handled ext runtime elevated io command (runtime.begin_repository_operation operation elevated io) := by
  unfold ServiceRuntime.begin_repository_operation
  split
  · exact .refused rfl
  · rename_i helevated
    split
    · exact .refused (check_repository_operation_refuses _ _ _ ‹_›)
    · exact h (by simpa using helevated) ‹_›

theorem of_update_backup_sources (paths : Option (List PathBuf)) (exclusions : Option (List String)) :
    Handled ext runtime elevated io (.UpdateBackupSources paths exclusions)
      (runtime.update_backup_sources ext paths exclusions elevated io) := by
  unfold ServiceRuntime.update_backup_sources
  split
  · exact .refused (check_sources_edit_refuses _ _ _ _ _ _ _ ‹_›)
  · rename_i hcheck
    obtain ⟨hedited, hchecked, hrunning⟩ := check_sources_edit_edited hcheck
    exact .of_commit (.sources hedited hchecked hrunning)

theorem of_update_schedule (interval_hours : Option UInt32) (wake_grace_seconds wake_lock_timeout_seconds : Option UInt64)
    (allow_on_battery allow_metered_network : Option Bool) :
    Handled ext runtime elevated io (.UpdateSchedule interval_hours wake_grace_seconds wake_lock_timeout_seconds
        allow_on_battery allow_metered_network)
      (runtime.update_schedule interval_hours wake_grace_seconds wake_lock_timeout_seconds allow_on_battery
        allow_metered_network elevated io) := by
  unfold ServiceRuntime.update_schedule
  split
  · exact .refused (check_schedule_edit_refuses _ _ _ _ _ _ _ _ _ ‹_›)
  · rename_i hcheck
    obtain ⟨hedited, hchecked, hrunning⟩ := check_schedule_edit_edited hcheck
    exact .of_commit (.schedule hedited hchecked hrunning)

theorem of_update_retention (daily weekly monthly yearly prune_interval_days : Option UInt32) :
    Handled ext runtime elevated io (.UpdateRetention daily weekly monthly yearly prune_interval_days)
      (runtime.update_retention daily weekly monthly yearly prune_interval_days elevated io) := by
  unfold ServiceRuntime.update_retention
  split
  · exact .refused (check_retention_edit_refuses _ _ _ _ _ _ _ _ _ ‹_›)
  · rename_i hcheck
    obtain ⟨hedited, hchecked, hrunning⟩ := check_retention_edit_edited hcheck
    exact .of_commit (.retention hedited hchecked hrunning)

theorem of_update_repository (display_name url : Option String) (mode : Option RepositoryMode) (options : Option Options)
    (secret_updates : List RepositorySecretUpdate) :
    Handled ext runtime elevated io (.UpdateRepository display_name url mode options secret_updates)
      (runtime.update_repository display_name url mode options secret_updates elevated io) := by
  unfold ServiceRuntime.update_repository
  split
  · exact .refused (check_repository_edit_refuses _ _ _ _ _ _ _ _ _ ‹_›)
  · exact .repository ‹_›

theorem of_settings (automatic_install : Bool) : Handled ext runtime elevated io (.UpdateUpdateSettings automatic_install)
    (runtime.update_update_settings automatic_install elevated io) := by
  unfold ServiceRuntime.update_update_settings
  split
  · exact .refused rfl
  · rename_i helevated
    split
    · exact .refused rfl
    · rename_i hlocked
      split
      · exact .refused rfl
      · rename_i hpending
        simp only
        split
        · exact .refused rfl
        · rename_i saved hsaved
          rw [save_config_eq_some hsaved]
          exact .settings (settings_edited (by simpa using hlocked) automatic_install) rfl
            ⟨by simpa using helevated, by simpa using hpending⟩

theorem of_run_backup_now : Handled ext runtime elevated io .RunBackupNow (runtime.run_backup_now io) := by
  unfold ServiceRuntime.run_backup_now run_now_section
  split
  · exact .refused rfl
  · split
    · exact .refused rfl
    · split
      · exact .refused rfl
      · rename_i hrunning
        split
        · exact .refused rfl
        · rename_i hpending
          exact .requested (by simpa using hrunning) (by simpa using hpending)

theorem of_defer_backup (minutes : UInt32) : Handled ext runtime elevated io (.DeferBackup minutes)
    (runtime.defer_backup minutes io) := by
  unfold ServiceRuntime.defer_backup defer_section
  split
  · exact .refused rfl
  · rename_i hrange
    split
    · exact .refused rfl
    · rename_i hconfigured
      split
      · exact .refused rfl
      · rename_i hready
        split
        · exact .refused rfl
        · rename_i hrunning
          simp only [Bool.not_eq_true', Bool.not_eq_false, Bool.and_eq_true, decide_eq_true_eq] at hrange
          exact .deferred hrange.2 (by simpa using hconfigured) (by simpa using hready) (by simpa using hrunning)

theorem of_prepare_for_update (hold_seconds : UInt32) : Handled ext runtime elevated io (.PrepareForUpdate hold_seconds)
    (runtime.prepare_for_update hold_seconds elevated io) := by
  unfold ServiceRuntime.prepare_for_update
  simp only
  split
  · rename_i response hcheck
    exact .refused (Refuses.bind (.rejectIf rfl) (fun _ => Refuses.bind (.rejectIf rfl) fun _ =>
      Refuses.bind (.rejectIf rfl) fun _ => check_hold_refuses _ _ _ _ _ _) response hcheck)
  · rename_i hcheck
    obtain ⟨-, -, -, hhold⟩ := by simpa only [check_bind_eq_ok] using hcheck
    exact .held (.of_check hhold)

theorem of_begin_update_install (package : UpdatePackage) : Handled ext runtime elevated io (.InstallUpdate package)
    (ServiceRuntime.begin_update_install ext runtime package io) := by
  unfold ServiceRuntime.begin_update_install
  simp only
  split
  · rename_i response hcheck
    exact .refused (Refuses.bind (.rejectIf rfl) (fun _ => Refuses.bind (.mapError fun _ => rfl) fun _ =>
      check_hold_refuses _ _ _ _ _ _) response hcheck)
  · rename_i hcheck
    obtain ⟨-, -, hhold⟩ := by simpa only [check_bind_eq_ok] using hcheck
    split
    · exact .installing (.of_check hhold)
    · exact .abandoned (.of_check hhold)

theorem of_get_run_history (limit : UInt16) : Handled ext runtime elevated io (.GetRunHistory limit)
    (runtime, runtime.get_run_history limit io) := by
  refine .refused ?_
  unfold ServiceRuntime.get_run_history
  split
  · rfl
  · split
    · rfl
    · split <;> rfl

theorem of_get_run_failure_details (run_id : UInt64) : Handled ext runtime elevated io (.GetRunFailureDetails run_id)
    (runtime, for_administrator elevated (runtime.get_run_failure_details run_id io)) := by
  refine .of_reading ?_
  unfold ServiceRuntime.get_run_failure_details
  split
  · rfl
  · split <;> rfl

theorem of_get_diagnostics (limit : UInt16) : Handled ext runtime elevated io (.GetDiagnostics limit)
    (runtime, for_administrator elevated (runtime.get_diagnostics limit io)) := by
  refine .of_reading ?_
  unfold ServiceRuntime.get_diagnostics
  split
  · rfl
  · split
    · rfl
    · split <;> rfl

end Handled

/-- Every request ends in one of these ways. -/
theorem handle_request_handled (ext : External) (runtime : ServiceRuntime) (command : RequestCommand) (elevated : Bool)
    (io : RequestIo) : Handled ext runtime elevated io command (runtime.handle_request ext command elevated io) := by
  cases command with
  | GetStatus | GetUpdateSettings => exact .refused rfl
  | GetManagement | GetBackupSources | GetRepository | GetSchedule | GetRetention => exact .of_reading rfl
  | Enroll bootstrap_url => exact .of_enroll bootstrap_url
  | Unenroll => exact .of_unenroll
  | GetRunHistory limit => exact .of_get_run_history limit
  | GetRunFailureDetails run_id => exact .of_get_run_failure_details run_id
  | GetDiagnostics limit => exact .of_get_diagnostics limit
  | DiscoverBackupSources =>
    refine .of_reading ?_
    unfold discover_backup_sources
    split <;> rfl
  | UpdateBackupSources paths exclusions => exact .of_update_backup_sources paths exclusions
  | UpdateRepository display_name url mode options secret_updates =>
    exact .of_update_repository display_name url mode options secret_updates
  | ValidateRepository => exact .of_operation .validates
  | InitializeRepository => exact .of_operation .initializes
  | UpdateSchedule interval_hours wake_grace_seconds wake_lock_timeout_seconds allow_on_battery allow_metered_network =>
    exact .of_update_schedule interval_hours wake_grace_seconds wake_lock_timeout_seconds allow_on_battery
      allow_metered_network
  | UpdateRetention daily weekly monthly yearly prune_interval_days =>
    exact .of_update_retention daily weekly monthly yearly prune_interval_days
  | RunBackupNow => exact .of_run_backup_now
  | CancelBackup => exact .unchanged fun _ => .inl rfl
  | DeferBackup minutes => exact .of_defer_backup minutes
  | PrepareForUpdate hold_seconds => exact .of_prepare_for_update hold_seconds
  | UpdateUpdateSettings automatic_install => exact .of_settings automatic_install
  | InstallUpdate package => exact .of_begin_update_install package

end ResticPal
