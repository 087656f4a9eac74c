import ResticPal.Lib.Journal
import ResticPal.Runtime.Effects
/-!
# What a handler writes

The durable writes of each handler, in the order the source makes them, so that
a crash inside a handler can be told from its outcome. Every file is replaced
in one piece.

- `request_replays`: the files after a request are those before it, with the
  writes of its journal.
-/

open Lib

namespace ResticPal

open Text (Bytes)

/-- The files of the service. -/
structure Disk where
  config_store : Option LocalConfigStore
  state_store : Option (StoredFile PersistedScheduleState)
  policy_cache : ManagedPolicyCache
  credential_store : Option CredentialStore
  deriving DecidableEq

def ServiceRuntime.disk (runtime : ServiceRuntime) : Disk where
  config_store := runtime.config_store
  state_store := runtime.state_store
  policy_cache := runtime.policy_cache
  credential_store := runtime.credential_store

inductive DiskWrite where
  | config (candidate : LocalConfig)
  | state (snapshot : ServiceStateSnapshot)
  | cache (file : ManagedPolicyCache)
  /-- The credential directory with one secret more, or one less. -/
  | credentials (store : CredentialStore)

/-- One write. A store that is absent takes no part. -/
def Disk.write (disk : Disk) : DiskWrite → Disk
  | .config candidate => { disk with
      config_store := disk.config_store.map (fun store => { store with file := .contents candidate }) }
  | .state snapshot => { disk with
      state_store := disk.state_store.map (fun _ => .contents ⟨STATE_SCHEMA_VERSION, snapshot⟩) }
  | .cache file => { disk with policy_cache := file }
  | .credentials store => { disk with credential_store := disk.credential_store.map (fun _ => store) }

/-! ## The journals -/

def config_journal (candidate : LocalConfig) (written : Bool) : List DiskWrite :=
  if written then [.config candidate] else []

def state_journal (snapshot : ServiceStateSnapshot) (written : Bool) : List DiskWrite :=
  if written then [.state snapshot] else []

namespace CredentialStore

/-- One write for each `put_new`. -/
def put_all_journal (io : Nat → PutNewIo) : Nat → CredentialStore → List (String × Bytes) → List DiskWrite
  | _, _, [] => []
  | i, store, (stem, secret) :: rest =>
    match put_new store stem secret (io i) with
    | (store, .error _) => [.credentials store]
    | (store, .ok _) => .credentials store :: put_all_journal io (i + 1) store rest

/-- One write for each `remove`. -/
def remove_all_journal (removed : String → Bool) : CredentialStore → List String → List DiskWrite
  | _, [] => []
  | store, reference :: references =>
    let store := remove_all removed store [reference]
    .credentials store :: remove_all_journal removed store references

end CredentialStore

section Journals

variable (runtime : ServiceRuntime)

def install_journal (resolved : ResolvedConfig) (written : Bool) : List DiskWrite :=
  if runtime.state.service_state.repository_requires_validation resolved.effective then
    state_journal runtime.state.service_state.require_repository_validation written
  else []

def policy_journal (policy : ManagedPolicy) (expected_management : LocalManagementConfig) (now : DateTime)
    (written : Bool) : List DiskWrite :=
  if runtime.local_config.management ≠ expected_management then []
  else match resolve_config {} runtime.local_config (some policy) with
    | .error _ => []
    | .ok resolved =>
      if runtime.state.running || runtime.state.repository_operation.isRunning ||
          runtime.state.update_pending now then []
      else install_journal runtime resolved written

def commit_enrollment_journal (parse_url : String → Option Url) (pending : PendingEnrollment) (io : RequestIo) :
    List DiskWrite :=
  match runtime.credential_store, runtime.config_store with
  | some credential_store, some _ =>
    let put := CredentialStore.put_all io.secrets 0 credential_store pending.secrets
    let abandon := CredentialStore.remove_all_journal io.removed put.1 put.2.1
    let candidate := enrolled_config runtime.local_config pending put.2.1
    CredentialStore.put_all_journal io.secrets 0 credential_store pending.secrets ++
      if !put.2.2 then abandon
      else match check_enrollment parse_url candidate pending.initial_manifest.payload.policy with
        | none => abandon
        | some resolved =>
          match runtime.save_config candidate io.config_written with
          | none => abandon
          | some saved =>
            let policy_cache := (saved.policy_cache.save candidate.management pending.initial_manifest_document
              io.now io.cache_written).1
            .config candidate :: .cache policy_cache :: (install_journal runtime resolved io.state_written ++
              CredentialStore.remove_all_journal io.removed put.1
                (retired_by_enrollment runtime.local_config candidate pending))
  | _, _ => []

def finish_enrollment_journal (parse_url : String → Option Url) (io : RequestIo) : List DiskWrite :=
  io.enrollment.elim [] (fun pending => commit_enrollment_journal runtime parse_url pending io)

def enroll_journal (parse_url : String → Option Url) (bootstrap_url : Bytes) (elevated : Bool) (io : RequestIo) :
    List DiskWrite :=
  if !elevated then []
  else match Text.from_utf8 bootstrap_url with
    | none => []
    | some _ =>
      match begin_enrollment runtime io.now with
      | none => []
      | some runtime => finish_enrollment_journal runtime parse_url io

def unenroll_journal (elevated : Bool) (io : RequestIo) : List DiskWrite :=
  if !elevated then []
  else if unenroll_check runtime io.now then []
  else match unenroll_writes runtime io with
    | .error _ => []
    | .ok (written, _) =>
      let management := runtime.local_config.management
      .config written.local_config :: .cache written.policy_cache ::
        CredentialStore.remove_all_journal io.removed (runtime.credential_store.getD ∅)
          (management.status_token_ref.toList ++ management.enrollment_key_ref.toList)

def begin_repository_journal (operation : RepositoryOperationKind) (elevated : Bool) (io : RequestIo) :
    List DiskWrite :=
  if !elevated then []
  else match check_repository_operation runtime.config operation with
    | .error _ => []
    | .ok () =>
      if runtime.state.update_pending io.now then []
      else if runtime.state.running then []
      else if runtime.state.repository_operation.isRunning then []
      else state_journal runtime.state.service_state.require_repository_validation io.state_written

/-- The secrets, `state.json`, `config.toml`, and then the secrets that are no longer needed. -/
def commit_repository_journal (candidate : Candidate) (connection_changed : Bool)
    (secret_updates : List RepositorySecretUpdate) (io : RequestIo) : List DiskWrite :=
  let store := runtime.credential_store.getD ∅
  let put := CredentialStore.put_all io.secrets 0 store (stored_secrets secret_updates)
  let abandon := CredentialStore.remove_all_journal io.removed put.1 put.2.1
  CredentialStore.put_all_journal io.secrets 0 store (stored_secrets secret_updates) ++
    if !put.2.2 then abandon
    else
      let edited := edit_secrets candidate secret_updates put.2.1
      match edited.effective.validate with
      | .error _ => abandon
      | .ok () =>
        let service_state := runtime.state.service_state.require_repository_validation
        match if connection_changed then runtime.save_state service_state io.state_written else some runtime with
        | none => abandon
        | some recorded => (if connection_changed then [.state service_state] else []) ++
          match recorded.save_config edited.loc io.config_written with
          | none => abandon
          | some _ => .config edited.loc :: CredentialStore.remove_all_journal io.removed put.1
              (retired_refs runtime.config.repository.secret_refs secret_updates
                edited.effective.repository.secret_refs)

/-- The journal of an edit that only writes `config.toml`. -/
def edit_journal (check : Except ResponsePayload Candidate) (io : RequestIo) : List DiskWrite :=
  match check with
  | .error _ => []
  | .ok candidate => config_journal candidate.loc io.config_written

def update_settings_journal (automatic_install elevated : Bool) (io : RequestIo) : List DiskWrite :=
  if !elevated then []
  else if runtime.field_locked .UpdateAutomaticInstall then []
  else if runtime.state.update_pending io.now then []
  else config_journal { runtime.local_config with updates := { automatic_install := some automatic_install } }
    io.config_written

end Journals

def ServiceRuntime.request_journal (ext : External) (runtime : ServiceRuntime) (command : RequestCommand)
    (elevated : Bool) (io : RequestIo) : List DiskWrite :=
  match command with
  | .Enroll bootstrap_url => enroll_journal runtime ext.parse_url (Text.as_bytes bootstrap_url) elevated io
  | .Unenroll => unenroll_journal runtime elevated io
  | .UpdateBackupSources paths exclusions =>
    edit_journal (check_sources_edit runtime ext paths exclusions elevated io) io
  | .UpdateRepository display_name url mode options secret_updates =>
    match check_repository_edit runtime display_name url mode options secret_updates elevated io.now with
    | .error _ => []
    | .ok candidate => commit_repository_journal runtime candidate
        (url.isSome || options.isSome || !secret_updates.isEmpty) secret_updates io
  | .ValidateRepository => begin_repository_journal runtime .Validate elevated io
  | .InitializeRepository => begin_repository_journal runtime .Initialize elevated io
  | .UpdateSchedule interval_hours wake_grace_seconds wake_lock_timeout_seconds allow_on_battery
      allow_metered_network => edit_journal (check_schedule_edit runtime interval_hours wake_grace_seconds
        wake_lock_timeout_seconds allow_on_battery allow_metered_network elevated io.now) io
  | .UpdateRetention daily weekly monthly yearly prune_interval_days =>
    edit_journal (check_retention_edit runtime daily weekly monthly yearly prune_interval_days elevated io.now) io
  | .UpdateUpdateSettings automatic_install => update_settings_journal runtime automatic_install elevated io
  | _ => []

/-- Nothing is written when a backup that did not succeed ends. -/
def finish_backup_journal (state : RuntimeState) (now : DateTime) (outcome : BackupOutcome) (written : Bool) :
    List DiskWrite :=
  if outcome.kind.succeeded then state_journal { state.service_state with last_success := some now } written else []

def finish_retention_journal (state : RuntimeState) (retention : RetentionOutcomeKind) (now : DateTime)
    (written : Bool) : List DiskWrite :=
  state_journal (record_retention state.service_state now retention).1 written

def finish_repository_journal (runtime : ServiceRuntime) (operation : RepositoryOperationKind)
    (outcome : RepositoryOutcomeKind) (completed_at : DateTime) (written : Bool) : List DiskWrite :=
  if runtime.state.repository_operation ≠ .Running operation then []
  else match outcome with
    | .Succeeded => state_journal (runtime.state.service_state.mark_repository_verified runtime.config completed_at) written
    | _ => []

/-! ## The journals replay the handlers -/

section Replays

variable {ext : External} {runtime saved : ServiceRuntime} {elevated : Bool} {io : RequestIo}

theorem save_config_replays (candidate : LocalConfig) (written : Bool) :
    ((runtime.save_config candidate written).getD runtime).disk =
      replay Disk.write runtime.disk (config_journal candidate written) := by
  unfold config_journal ServiceRuntime.save_config
  rcases Option.eq_none_or_eq_some runtime.config_store with hs | ⟨store, hs⟩
  · cases written <;> simp [Disk.write, ServiceRuntime.disk, hs]
  · cases written <;> simp [Disk.write, ServiceRuntime.disk, hs]

theorem save_state_disk {snapshot : ServiceStateSnapshot} {written : Bool}
    (h : runtime.save_state snapshot written = some saved) : saved.disk = runtime.disk.write (.state snapshot) := by
  unfold ServiceRuntime.save_state at h
  split at h
  · rename_i hs
    obtain rfl := Option.some.inj h
    simp [Disk.write, ServiceRuntime.disk, hs]
  · rename_i hs
    split at h
    · obtain rfl := Option.some.inj h
      simp [Disk.write, ServiceRuntime.disk, hs]
    · cases h

theorem save_state_replays (snapshot : ServiceStateSnapshot) (written : Bool) :
    ((runtime.save_state snapshot written).getD runtime).disk =
      replay Disk.write runtime.disk (state_journal snapshot written) := by
  unfold state_journal ServiceRuntime.save_state
  rcases Option.eq_none_or_eq_some runtime.state_store with hs | ⟨file, hs⟩
  · cases written <;> simp [Disk.write, ServiceRuntime.disk, hs]
  · cases written <;> simp [Disk.write, ServiceRuntime.disk, hs]

theorem write_config_credentials (disk : Disk) (store : CredentialStore) (candidate : LocalConfig) :
    (disk.write (.credentials store)).write (.config candidate) =
      (disk.write (.config candidate)).write (.credentials store) := rfl

theorem write_cache_credentials (disk : Disk) (store : CredentialStore) (file : ManagedPolicyCache) :
    (disk.write (.credentials store)).write (.cache file) = (disk.write (.cache file)).write (.credentials store) := rfl

@[simp] theorem write_credentials_twice (disk : Disk) (store after : CredentialStore) :
    (disk.write (.credentials store)).write (.credentials after) = disk.write (.credentials after) := by
  simp [Disk.write, Function.comp_def]

theorem put_all_replays (io : Nat → PutNewIo) (i : Nat) (store : CredentialStore) (secrets : List (String × Bytes))
    (disk : Disk) :
    replay Disk.write (disk.write (.credentials store)) (CredentialStore.put_all_journal io i store secrets) =
      disk.write (.credentials (CredentialStore.put_all io i store secrets).1) := by
  induction secrets generalizing i store with
  | nil => rfl
  | cons entry rest ih =>
    obtain ⟨stem, secret⟩ := entry
    unfold CredentialStore.put_all_journal CredentialStore.put_all
    rcases CredentialStore.put_new store stem secret (io i) with ⟨after, e | reference⟩
    · simp
    · simp [ih]

theorem remove_all_replays (removed : String → Bool) (store : CredentialStore) (references : List String) (disk : Disk) :
    replay Disk.write (disk.write (.credentials store)) (CredentialStore.remove_all_journal removed store references) =
      disk.write (.credentials (CredentialStore.remove_all removed store references)) := by
  induction references generalizing store with
  | nil => rfl
  | cons reference references ih =>
    simp only [CredentialStore.remove_all_journal, replay_cons, write_credentials_twice, ih]
    rfl

/-- The store a handler works on is the one on disk. -/
theorem disk_credentials (runtime : ServiceRuntime) :
    runtime.disk.write (.credentials (runtime.credential_store.getD ∅)) = runtime.disk := by
  cases hs : runtime.credential_store <;> simp [Disk.write, ServiceRuntime.disk, hs]

theorem commit_candidate_replays {candidate : Candidate} {state : RuntimeState} {message : String} :
    (commit_candidate runtime candidate state io message).1.disk =
      replay Disk.write runtime.disk (config_journal candidate.loc io.config_written) := by
  unfold commit_candidate
  rw [← save_config_replays]
  cases runtime.save_config candidate.loc io.config_written <;> rfl

theorem update_settings_replays {automatic_install : Bool} :
    (runtime.update_update_settings automatic_install elevated io).1.disk =
      replay Disk.write runtime.disk (update_settings_journal runtime automatic_install elevated io) := by
  unfold ServiceRuntime.update_update_settings update_settings_journal
  split
  · rfl
  · split
    · rfl
    · split
      · rfl
      · rw [← save_config_replays]
        dsimp only
        cases runtime.save_config _ io.config_written <;> rfl

theorem begin_repository_replays {operation : RepositoryOperationKind} :
    (runtime.begin_repository_operation operation elevated io).1.disk =
      replay Disk.write runtime.disk (begin_repository_journal runtime operation elevated io) := by
  unfold ServiceRuntime.begin_repository_operation begin_repository_journal begin_repository_section
  split
  · rfl
  · cases check_repository_operation runtime.config operation with
    | error response => rfl
    | ok u =>
      simp only
      split
      · rfl
      · split
        · rfl
        · split
          · rfl
          · rw [← show _ = replay Disk.write runtime.disk _ from
              @save_state_replays { runtime with state := { runtime.state with
                status := if runtime.config.is_configured then
                  { transition_state runtime.state.status (.Waiting .RepositoryValidation) io.now with
                    next_deadline := none } else runtime.state.status
                service_state := runtime.state.service_state.require_repository_validation
                repository_operation := .Running operation } } _ io.state_written]
            split
            · rename_i hsave
              rw [hsave]
              rfl
            · rename_i saved hsave
              rw [hsave]
              split <;> rfl

theorem commit_repository_replays {candidate : Candidate} {connection_changed : Bool}
    {secret_updates : List RepositorySecretUpdate} :
    (commit_repository runtime candidate connection_changed secret_updates io).1.disk =
      replay Disk.write runtime.disk
        (commit_repository_journal runtime candidate connection_changed secret_updates io) := by
  have hput := put_all_replays io.secrets 0 (runtime.credential_store.getD ∅) (stored_secrets secret_updates)
    runtime.disk
  rw [disk_credentials] at hput
  unfold commit_repository commit_repository_journal
  simp only [replay_append, hput]
  generalize CredentialStore.put_all io.secrets 0 (runtime.credential_store.getD ∅) (stored_secrets secret_updates) =
    put
  have habandon := remove_all_replays io.removed put.1 put.2.1
  cases put.2.2 with
  | false => exact (habandon runtime.disk).symm
  | true =>
    simp only [Bool.not_true, Bool.false_eq_true, if_false]
    cases (edit_secrets candidate secret_updates put.2.1).effective.validate with
    | error e => exact (habandon runtime.disk).symm
    | ok u =>
      have hretire := remove_all_replays io.removed put.1 (retired_refs runtime.config.repository.secret_refs
        secret_updates (edit_secrets candidate secret_updates put.2.1).effective.repository.secret_refs)
      cases connection_changed with
      | false =>
        simp only [Bool.false_eq_true, if_false, List.nil_append]
        cases hsave : runtime.save_config _ io.config_written with
        | none => exact (habandon runtime.disk).symm
        | some saved =>
          rw [save_config_eq_some hsave]
          exact (hretire (runtime.disk.write (.config _))).symm
      | true =>
        simp only [if_true, List.cons_append, List.nil_append]
        cases hstate : runtime.save_state _ io.state_written with
        | none => exact (habandon runtime.disk).symm
        | some recorded =>
          dsimp only
          have hdisk := save_state_disk hstate
          have hstore : recorded.credential_store = runtime.credential_store := congrArg Disk.credential_store hdisk
          cases hsave : recorded.save_config _ io.config_written with
          | none =>
            refine Eq.trans ?_ (habandon (runtime.disk.write (.state _))).symm
            rw [← hdisk, ServiceRuntime.disk, ← hstore]
            rfl
          | some saved =>
            rw [save_config_eq_some hsave]
            refine Eq.trans ?_ (hretire ((runtime.disk.write (.state _)).write (.config _))).symm
            rw [← hdisk, ServiceRuntime.disk, ← hstore]
            rfl

theorem install_replays {resolved : ResolvedConfig} {now : DateTime} {written : Bool} :
    (install_resolved runtime resolved now written).disk =
      replay Disk.write runtime.disk (install_journal runtime resolved written) := by
  unfold install_resolved install_journal
  split
  · rw [← save_state_replays]
    rfl
  · rfl

theorem install_resolved_credential_store (resolved : ResolvedConfig) (now : DateTime) (written : Bool) :
    (install_resolved runtime resolved now written).credential_store = runtime.credential_store := by
  unfold install_resolved
  split
  · dsimp only
    rw [save_state_getD]
  · rfl

theorem install_journal_credentials (resolved : ResolvedConfig) (written : Bool) (disk : Disk) (store : CredentialStore) :
    replay Disk.write (disk.write (.credentials store)) (install_journal runtime resolved written) =
      (replay Disk.write disk (install_journal runtime resolved written)).write (.credentials store) := by
  unfold install_journal state_journal
  split
  · split <;> rfl
  · rfl

theorem policy_replays {policy : ManagedPolicy} {expected : LocalManagementConfig} {now : DateTime} {written : Bool} :
    (runtime.apply_managed_policy_if_current policy expected now written).1.disk =
      replay Disk.write runtime.disk (policy_journal runtime policy expected now written) := by
  unfold ServiceRuntime.apply_managed_policy_if_current policy_journal
  split
  · rfl
  · cases resolve_config {} runtime.local_config (some policy) with
    | error e => rfl
    | ok resolved =>
      simp only
      split
      · rfl
      · exact install_replays

theorem commit_enrollment_replays {parse_url : String → Option Url} {pending : PendingEnrollment} :
    (commit_enrollment parse_url runtime pending io).1.disk =
      replay Disk.write runtime.disk (commit_enrollment_journal runtime parse_url pending io) := by
  unfold commit_enrollment
  split
  · rename_i store config hstore hconfig
    conv_rhs =>
      unfold commit_enrollment_journal
      rw [hstore, hconfig]
    have hdisk : runtime.disk.write (.credentials store) = runtime.disk := by
      have := disk_credentials runtime
      rwa [hstore] at this
    have hput (secrets : List (String × Bytes)) := put_all_replays io.secrets 0 store secrets runtime.disk
    rw [hdisk] at hput
    simp only [replay_append, hput]
    generalize CredentialStore.put_all io.secrets 0 store _ = put
    have hremove := remove_all_replays io.removed put.1
    have habandon : ({ runtime with credential_store := some (CredentialStore.remove_all io.removed put.1 put.2.1) } :
        ServiceRuntime).disk = replay Disk.write (runtime.disk.write (.credentials put.1))
          (CredentialStore.remove_all_journal io.removed put.1 put.2.1) := by
      rw [hremove, Disk.write, ServiceRuntime.disk, ServiceRuntime.disk, hstore]
      rfl
    cases put.2.2 with
    | false => exact habandon
    | true =>
      simp only [Bool.not_true, Bool.false_eq_true, if_false]
      cases check_enrollment parse_url (enrolled_config runtime.local_config pending put.2.1)
        pending.initial_manifest.payload.policy with
      | none => exact habandon
      | some resolved =>
        simp only
        cases hsave : runtime.save_config _ io.config_written with
        | none => exact habandon
        | some saved =>
          obtain rfl := save_config_eq_some hsave
          simp only [replay_cons, replay_append, write_config_credentials, write_cache_credentials,
            install_journal_credentials, hremove]
          generalize ManagedPolicyCache.save _ _ _ _ _ = cache
          have hinstalled := @install_replays { runtime with
            config_store := runtime.stored (enrolled_config runtime.local_config pending put.2.1)
            policy_cache := cache.1 } resolved io.now io.state_written
          have hkept := (@install_resolved_credential_store { runtime with
            config_store := runtime.stored (enrolled_config runtime.local_config pending put.2.1)
            policy_cache := cache.1 } resolved io.now io.state_written).trans hstore
          refine Eq.trans ?_ (congrArg (fun disk => Disk.write disk (.credentials _)) hinstalled)
          rw [Disk.write, ServiceRuntime.disk, ServiceRuntime.disk, hkept]
          rfl
  · rename_i hnone
    unfold commit_enrollment_journal
    split
    · rename_i store config hstore hconfig
      exact absurd hconfig (hnone store config hstore)
    · rfl

theorem finish_enrollment_replays {parse_url : String → Option Url} :
    (finish_enrollment parse_url runtime io).1.disk =
      replay Disk.write runtime.disk (finish_enrollment_journal runtime parse_url io) := by
  unfold finish_enrollment finish_enrollment_journal
  cases io.enrollment with
  | none => rfl
  | some pending => exact commit_enrollment_replays

theorem enroll_replays {parse_url : String → Option Url} {bootstrap_url : Bytes} :
    (runtime.enroll parse_url bootstrap_url elevated io).1.disk =
      replay Disk.write runtime.disk (enroll_journal runtime parse_url bootstrap_url elevated io) := by
  unfold ServiceRuntime.enroll enroll_journal
  split
  · rfl
  · cases Text.from_utf8 bootstrap_url with
    | none => rfl
    | some url =>
      cases hb : begin_enrollment runtime io.now with
      | none => rfl
      | some begun =>
        have hdisk : begun.disk = runtime.disk := by
          obtain ⟨-, rfl⟩ := begin_enrollment_eq_some hb
          rfl
        rw [← hdisk]
        exact finish_enrollment_replays

theorem unenroll_replays : (runtime.unenroll elevated io).1.disk =
    replay Disk.write runtime.disk (unenroll_journal runtime elevated io) := by
  unfold ServiceRuntime.unenroll unenroll_journal
  split
  · rfl
  · split
    · rfl
    · cases hw : unenroll_writes runtime io with
      | error response => rfl
      | ok result =>
        obtain ⟨written, resolved⟩ := result
        obtain ⟨-, -, hwritten⟩ := unenroll_writes_eq_ok hw
        rw [← disk_credentials runtime]
        simp only [replay_cons, write_config_credentials, write_cache_credentials, remove_all_replays]
        have hstore (f : CredentialStore → CredentialStore) : runtime.credential_store.map f =
            runtime.credential_store.map (fun _ => f (runtime.credential_store.getD ∅)) := by
          cases runtime.credential_store <;> rfl
        rw [hwritten]
        dsimp only
        rw [hstore]
        rfl

theorem request_replays {command : RequestCommand} : (runtime.handle_request ext command elevated io).1.disk =
    replay Disk.write runtime.disk (runtime.request_journal ext command elevated io) := by
  cases command with
  | Enroll bootstrap_url => exact enroll_replays
  | Unenroll => exact unenroll_replays
  | ValidateRepository | InitializeRepository => exact begin_repository_replays
  | UpdateUpdateSettings automatic_install => exact update_settings_replays
  | UpdateRepository display_name url mode options secret_updates =>
    simp only [ServiceRuntime.handle_request, ServiceRuntime.update_repository, ServiceRuntime.request_journal]
    cases check_repository_edit runtime display_name url mode options secret_updates elevated io.now with
    | error response => rfl
    | ok candidate => exact commit_repository_replays
  | UpdateBackupSources paths exclusions =>
    simp only [ServiceRuntime.handle_request, ServiceRuntime.update_backup_sources, ServiceRuntime.request_journal]
    cases check_sources_edit runtime ext paths exclusions elevated io with
    | error response => rfl
    | ok candidate => exact commit_candidate_replays
  | UpdateSchedule interval_hours wake_grace_seconds wake_lock_timeout_seconds allow_on_battery allow_metered_network =>
    simp only [ServiceRuntime.handle_request, ServiceRuntime.update_schedule, ServiceRuntime.request_journal]
    cases check_schedule_edit runtime interval_hours wake_grace_seconds wake_lock_timeout_seconds allow_on_battery
      allow_metered_network elevated io.now with
    | error response => rfl
    | ok candidate => exact commit_candidate_replays
  | UpdateRetention daily weekly monthly yearly prune_interval_days =>
    simp only [ServiceRuntime.handle_request, ServiceRuntime.update_retention, ServiceRuntime.request_journal]
    cases check_retention_edit runtime daily weekly monthly yearly prune_interval_days elevated io.now with
    | error response => rfl
    | ok candidate => exact commit_candidate_replays
  | InstallUpdate package =>
    simp only [ServiceRuntime.handle_request, ServiceRuntime.begin_update_install]
    split
    · rfl
    · split <;> rfl
  | PrepareForUpdate hold_seconds =>
    simp only [ServiceRuntime.handle_request, ServiceRuntime.prepare_for_update]
    split <;> rfl
  | RunBackupNow =>
    simp only [ServiceRuntime.handle_request, ServiceRuntime.run_backup_now]
    split
    · rfl
    · split <;> rfl
  | DeferBackup minutes =>
    simp only [ServiceRuntime.handle_request, ServiceRuntime.defer_backup]
    split
    · rfl
    · split <;> rfl
  | _ => rfl

theorem finish_retention_replays {backup : BackupOutcome} {retention : RetentionOutcomeKind} {now : DateTime}
    {written : Bool} : (runtime.finish_retention backup retention now written).1.disk =
      replay Disk.write runtime.disk (finish_retention_journal runtime.state retention now written) := by
  unfold finish_retention_journal ServiceRuntime.finish_retention
  exact save_state_replays _ _

theorem finish_backup_replays {after : ServiceRuntime} {now : DateTime} {outcome : BackupOutcome} {written : Bool}
    (h : runtime.finish_backup_at now outcome written = some after) : after.disk =
      replay Disk.write runtime.disk (finish_backup_journal runtime.state now outcome written) := by
  obtain ⟨state, hs, rfl⟩ := Option.map_eq_some_iff.1 h
  unfold finish_backup_journal
  unfold finish_backup_section finish_backup_by at hs
  cases hk : outcome.kind.succeeded with
  | false => rfl
  | true =>
    simp only [hk, if_true] at hs ⊢
    obtain rfl := Option.some.inj hs
    exact save_state_replays _ _

theorem finish_repository_replays {operation : RepositoryOperationKind} {outcome : RepositoryOutcomeKind}
    {completed_at : DateTime} {written : Bool} :
    (runtime.finish_repository_operation operation outcome completed_at written).disk =
      replay Disk.write runtime.disk (finish_repository_journal runtime operation outcome completed_at written) := by
  unfold ServiceRuntime.finish_repository_operation finish_repository_section finish_repository_journal
  split
  · rfl
  · cases outcome with
    | Failed code => rfl
    | Cancelled => rfl
    | Succeeded =>
      rw [← show _ = replay Disk.write runtime.disk _ from
        @save_state_replays { runtime with state := { runtime.state with
          service_state := runtime.state.service_state.mark_repository_verified runtime.config completed_at } } _ written]
      simp only [record_repository_outcome]
      cases hsave : ServiceRuntime.save_state _ _ written with
      | none => rfl
      | some saved => rfl

end Replays

/-! ## What the journals write to `state.json` -/

section Snapshots

variable {ext : External} {runtime : ServiceRuntime} {elevated : Bool} {io : RequestIo} {snapshot : ServiceStateSnapshot}

@[simp] theorem mem_state_journal {recorded : ServiceStateSnapshot} {written : Bool} :
    DiskWrite.state snapshot ∈ state_journal recorded written ↔ written = true ∧ snapshot = recorded := by
  cases written <;> simp [state_journal]

@[simp] theorem state_not_mem_config_journal (candidate : LocalConfig) (written : Bool) :
    DiskWrite.state snapshot ∉ config_journal candidate written := by
  cases written <;> simp [config_journal]

@[simp] theorem state_not_mem_put_all_journal (io : Nat → PutNewIo) (i : Nat) (store : CredentialStore)
    (secrets : List (String × Bytes)) : DiskWrite.state snapshot ∉ CredentialStore.put_all_journal io i store secrets := by
  induction secrets generalizing i store with
  | nil => exact List.not_mem_nil
  | cons entry rest ih =>
    obtain ⟨stem, secret⟩ := entry
    unfold CredentialStore.put_all_journal
    split
    · simp
    · simp [ih]

@[simp] theorem state_not_mem_remove_all_journal (removed : String → Bool) (store : CredentialStore)
    (references : List String) :
    DiskWrite.state snapshot ∉ CredentialStore.remove_all_journal removed store references := by
  induction references generalizing store with
  | nil => exact List.not_mem_nil
  | cons reference references ih => simp [CredentialStore.remove_all_journal, ih]

theorem install_journal_state {resolved : ResolvedConfig} {written : Bool}
    (h : DiskWrite.state snapshot ∈ install_journal runtime resolved written) :
    snapshot = runtime.state.service_state.require_repository_validation := by
  unfold install_journal at h
  split at h
  · exact (mem_state_journal.1 h).2
  · cases h

theorem policy_journal_state {policy : ManagedPolicy} {expected : LocalManagementConfig} {now : DateTime} {written : Bool}
    (h : DiskWrite.state snapshot ∈ policy_journal runtime policy expected now written) :
    snapshot = runtime.state.service_state.require_repository_validation := by
  unfold policy_journal at h
  split at h
  · cases h
  · split at h
    · cases h
    · split at h
      · cases h
      · exact install_journal_state h

theorem finish_enrollment_journal_state {parse_url : String → Option Url}
    (h : DiskWrite.state snapshot ∈ finish_enrollment_journal runtime parse_url io) :
    snapshot = runtime.state.service_state.require_repository_validation := by
  unfold finish_enrollment_journal at h
  cases he : io.enrollment with
  | none =>
    rw [he] at h
    cases h
  | some pending =>
    rw [he] at h
    simp only [Option.elim, commit_enrollment_journal] at h
    split at h
    · simp only [List.mem_append, state_not_mem_put_all_journal, false_or] at h
      split at h
      · simp at h
      · split at h
        · simp at h
        · split at h
          · simp at h
          · simp only [List.mem_cons, reduceCtorEq, List.mem_append, state_not_mem_remove_all_journal, false_or,
              or_false] at h
            exact install_journal_state h
    · cases h

theorem commit_repository_journal_state {candidate : Candidate} {connection_changed : Bool}
    {secret_updates : List RepositorySecretUpdate}
    (h : DiskWrite.state snapshot ∈ commit_repository_journal runtime candidate connection_changed secret_updates io) :
    snapshot = runtime.state.service_state.require_repository_validation := by
  simp only [commit_repository_journal, List.mem_append, state_not_mem_put_all_journal, false_or] at h
  split at h
  · simp at h
  · split at h
    · simp at h
    · split at h
      · simp at h
      · rcases List.mem_append.1 h with h | h
        · split at h
          · simpa using h
          · cases h
        · split at h
          · simp at h
          · simp at h

/-- All that a request writes to `state.json` is that validation is required. -/
theorem request_journal_state {command : RequestCommand}
    (h : DiskWrite.state snapshot ∈ runtime.request_journal ext command elevated io) :
    snapshot = runtime.state.service_state.require_repository_validation := by
  have edits {check : Except ResponsePayload Candidate} (h : DiskWrite.state snapshot ∈ edit_journal check io) :
      snapshot = runtime.state.service_state.require_repository_validation := by
    unfold edit_journal at h
    split at h
    · cases h
    · simp at h
  have begins {operation : RepositoryOperationKind}
      (h : DiskWrite.state snapshot ∈ begin_repository_journal runtime operation elevated io) :
      snapshot = runtime.state.service_state.require_repository_validation := by
    unfold begin_repository_journal at h
    repeat' split at h
    all_goals first | exact (mem_state_journal.1 h).2 | cases h
  cases command with
  | Enroll bootstrap_url =>
    simp only [ServiceRuntime.request_journal, enroll_journal] at h
    split at h
    · cases h
    · split at h
      · cases h
      · split at h
        · cases h
        · rename_i begun hb
          obtain ⟨-, -, -, hs⟩ := begin_enrollment_activity hb
          rw [← hs]
          exact finish_enrollment_journal_state h
  | Unenroll =>
    simp only [ServiceRuntime.request_journal, unenroll_journal] at h
    repeat' split at h
    all_goals simp at h
  | ValidateRepository | InitializeRepository => exact begins h
  | UpdateBackupSources | UpdateSchedule | UpdateRetention => exact edits h
  | UpdateRepository display_name url mode options secret_updates =>
    simp only [ServiceRuntime.request_journal] at h
    split at h
    · cases h
    · exact commit_repository_journal_state h
  | UpdateUpdateSettings automatic_install =>
    simp only [ServiceRuntime.request_journal, update_settings_journal] at h
    repeat' split at h
    all_goals simp at h
  | _ => cases h

end Snapshots

end ResticPal
