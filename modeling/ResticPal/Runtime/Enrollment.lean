import ResticPal.Runtime.State
import ResticPal.Service.Executor
/-!
# Enrollment and policy

`resticpal-service/src/runtime/enrollment.rs`: enrolling a device, removing it
from management, and applying a managed policy. Enrolling sets a flag, talks to
the server and commits, so it is a `begin` and a `finish`.
-/

open Lib

namespace ResticPal

open Text (Bytes)

/-- `PendingEnrollment`: what the server delivered, verified and decrypted. -/
structure PendingEnrollment where
  device_id : String
  manifest_url : String
  status_url : String
  refresh_interval_minutes : UInt32
  initial_manifest_document : String
  initial_manifest : VerifiedManifest
  status_token : String
  repository_secrets : BTreeMap SecretEnvironmentVariable String
  private_key : Bytes
  public_key : String
  deriving DecidableEq

/-- What happens outside the process during one request: the clock reading, the
outcomes of writes and removals, whether the event loop still listens, the file
system, what the server delivered to an enrollment, and what the stores that
are only read return. -/
structure RequestIo where
  now : DateTime
  config_written : Bool
  state_written : Bool
  cache_written : Except ManagementError Unit
  cache_removed : Bool
  secrets : Nat → PutNewIo
  removed : String → Bool
  receiver_open : Bool
  fs : FileSystem
  enrollment : Option PendingEnrollment
  /-- By the limit of the request. -/
  history : Nat → Option (List BackupRunRecord)
  failure_details : Option (Option (List String × UInt64))
  diagnostics : Option (List DiagnosticEntry)
  discovered : Option (List DiscoveredBackupSource)

/-- Every write succeeds, and nothing comes from outside. -/
def RequestIo.quiet (now : DateTime) : RequestIo where
  now
  config_written := true
  state_written := true
  cache_written := .ok ()
  cache_removed := true
  secrets _ := ⟨[], .stored⟩
  removed _ := true
  receiver_open := true
  fs := ⟨fun _ => none, fun _ => false⟩
  enrollment := none
  history _ := none
  failure_details := none
  diagnostics := none
  discovered := none

inductive ManagedPolicyApplyOutcome where
  | Applied
  | RuntimeBusy
  | SourceChanged
  deriving DecidableEq

/-- The device reports to the server that enrolled it. -/
def LocalManagementConfig.enrolled (management : LocalManagementConfig) : Bool :=
  management.mode == .SignedManifest && management.status_token_ref.isSome && management.enrollment_key_ref.isSome

def ServiceRuntime.management_view (runtime : ServiceRuntime) : ManagementView :=
  let management := runtime.local_config.management
  { mode := management.mode
    enrolled := management.enrolled
    device_id := management.device_id
    manifest_url := management.manifest_url }

/-! ## Installing a resolved configuration -/

/-- The state section that both a policy and an enrollment commit end with: a
repository that is not the verified one needs validation again. -/
def install_resolved (runtime : ServiceRuntime) (resolved : ResolvedConfig) (now : DateTime) (written : Bool) :
    ServiceRuntime :=
  let runtime :=
    if runtime.state.service_state.repository_requires_validation resolved.effective then
      let service_state := runtime.state.service_state.require_repository_validation
      let runtime := (runtime.save_state service_state written).getD runtime
      { runtime with state := { runtime.state with service_state, repository_operation := .ValidationRequired } }
    else runtime
  let status := { runtime.state.status with managed_revision := resolved.managed_revision }
  { runtime with
    config := resolved.effective
    field_resolutions := resolved.fields
    state := apply_configuration_status { runtime.state with status } resolved.effective now }

/-- `apply_managed_policy_if_current`. -/
def ServiceRuntime.apply_managed_policy_if_current (runtime : ServiceRuntime) (policy : ManagedPolicy)
    (expected_management : LocalManagementConfig) (now : DateTime) (written : Bool) :
    ServiceRuntime × Except PolicyError ManagedPolicyApplyOutcome :=
  if runtime.local_config.management ≠ expected_management then (runtime, .ok .SourceChanged)
  else match resolve_config {} runtime.local_config (some policy) with
    | .error e => (runtime, .error e)
    | .ok resolved =>
      if runtime.state.running || runtime.state.repository_operation.isRunning ||
          runtime.state.update_pending now then (runtime, .ok .RuntimeBusy)
      else (install_resolved runtime resolved now written, .ok .Applied)

/-! ## Enrolling -/

/-- Enter an enrollment, unless another operation is active. -/
def begin_enrollment (runtime : ServiceRuntime) (now : DateTime) : Option ServiceRuntime :=
  if runtime.state.busy now then none
  else some { runtime with state := { runtime.state with management_operation_active := true } }

/-- The local configuration an enrollment writes, given the references its secrets were stored under. -/
def enrolled_config (loc : LocalConfig) (pending : PendingEnrollment) : List String → LocalConfig
  | status_ref :: key_ref :: references => { loc with
      repository := { loc.repository with
        secret_refs := some ((pending.repository_secrets.keys.zip references).foldl
          (fun refs entry => refs.insert entry.1 entry.2) (loc.repository.secret_refs.getD ∅)) }
      management := {
        mode := .SignedManifest
        manifest_url := some pending.manifest_url
        signing_public_key := some pending.public_key
        refresh_interval_minutes := some pending.refresh_interval_minutes
        status_url := some pending.status_url
        device_id := some pending.device_id
        status_token_ref := some status_ref
        enrollment_key_ref := some key_ref } }
  | _ => loc

/-- The checks a commit makes before it writes. -/
def check_enrollment (parse_url : String → Option Url) (candidate : LocalConfig) (policy : ManagedPolicy) :
    Option ResolvedConfig :=
  if (candidate.management.validate parse_url).isOk && policy.repository.secret_refs.isNone then
    (resolve_config {} candidate (some policy)).toOption
  else none

/-- References the previous configuration used and the new one does not. -/
def retired_by_enrollment (old new : LocalConfig) (pending : PendingEnrollment) : List String :=
  old.management.status_token_ref.toList ++ old.management.enrollment_key_ref.toList ++
    pending.repository_secrets.keys.flatMap (fun key =>
      let before := old.repository.secret_refs.bind (·.get? key)
      if (new.repository.secret_refs.bind (·.get? key)) ≠ before then before.toList else [])

/-- The secrets `commit_enrollment` stores, with the stems of their references. -/
def PendingEnrollment.secrets (pending : PendingEnrollment) : List (String × Bytes) :=
  ("management-token", Text.as_bytes pending.status_token) :: ("management-key", pending.private_key) ::
    pending.repository_secrets.entries.map (Prod.map SecretEnvironmentVariable.reference_prefix Text.as_bytes)

/-- `commit_enrollment`; the flag says whether the device is now enrolled. -/
def commit_enrollment (parse_url : String → Option Url) (runtime : ServiceRuntime) (pending : PendingEnrollment)
    (io : RequestIo) : ServiceRuntime × Bool :=
  match runtime.credential_store, runtime.config_store with
  | some credential_store, some _ =>
    let policy := pending.initial_manifest.payload.policy
    let put := CredentialStore.put_all io.secrets 0 credential_store pending.secrets
    let abandoned := { runtime with
      credential_store := some (CredentialStore.remove_all io.removed put.1 put.2.1) }
    let candidate := enrolled_config runtime.local_config pending put.2.1
    if !put.2.2 then (abandoned, false)
    else match check_enrollment parse_url candidate policy with
      | none => (abandoned, false)
      | some resolved =>
        match runtime.save_config candidate io.config_written with
        | none => (abandoned, false)
        | some saved =>
          let policy_cache := (saved.policy_cache.save candidate.management pending.initial_manifest_document
            io.now io.cache_written).1
          let retired := retired_by_enrollment runtime.local_config candidate pending
          let installed := install_resolved { saved with policy_cache } resolved io.now io.state_written
          ({ installed with
            local_config := candidate
            credential_store := some (CredentialStore.remove_all io.removed put.1 retired) }, true)
  | _, _ => (runtime, false)

/-- `perform_enrollment` and the end of the management operation. -/
def finish_enrollment (parse_url : String → Option Url) (runtime : ServiceRuntime) (io : RequestIo) :
    ServiceRuntime × ResponsePayload :=
  let committed := io.enrollment.elim (runtime, false) (fun pending => commit_enrollment parse_url runtime pending io)
  ({ committed.1 with state := { committed.1.state with management_operation_active := false } },
    if committed.2 then .Accepted "This device is now enrolled and its signed policy is active."
    else rejected "enrollment_failed" "Enrollment failed. Check that the one-time URL is current and try again.")

def ServiceRuntime.enroll (parse_url : String → Option Url) (runtime : ServiceRuntime) (bootstrap_url : Bytes)
    (elevated : Bool) (io : RequestIo) : ServiceRuntime × ResponsePayload :=
  if !elevated then (runtime, administrator_required)
  else match Text.from_utf8 bootstrap_url with
    | none => (runtime, rejected "invalid_bootstrap_url" "The bootstrap URL is not valid UTF-8.")
    | some _ =>
      match begin_enrollment runtime io.now with
      | none => (runtime, rejected "operation_running"
          "Wait for the current backup, repository, or enrollment operation to finish.")
      | some runtime => finish_enrollment parse_url runtime io

/-! ## Leaving management -/

/-- Unenroll's busy check. -/
def unenroll_check (runtime : ServiceRuntime) (now : DateTime) : Bool := runtime.state.busy now

/-- The configuration that remains without management. -/
def unmanaged_config (loc : LocalConfig) : LocalConfig := { loc with management := {} }

/-- Unenroll's writes, up to its status section: the answer, or the runtime and
the resolved configuration the rest works with. -/
def unenroll_writes (runtime : ServiceRuntime) (io : RequestIo) :
    Except ResponsePayload (ServiceRuntime × ResolvedConfig) :=
  match runtime.config_store with
  | none => .error (rejected "configuration_unavailable" "Local configuration storage is unavailable.")
  | some _ =>
    if runtime.local_config.management.mode = .Disabled then .error (.Accepted "This device is already unmanaged.")
    else
      let candidate := unmanaged_config runtime.local_config
      match resolve_config {} candidate none with
      | .error _ => .error (rejected "configuration_invalid" "The remaining local configuration is invalid.")
      | .ok resolved =>
        match runtime.save_config candidate io.config_written with
        | none => .error (rejected "configuration_save_failed" "The unmanaged configuration could not be saved.")
        | some saved => .ok ({ saved with
            policy_cache := if io.cache_removed then .missing else saved.policy_cache
            local_config := candidate
            config := resolved.effective
            field_resolutions := resolved.fields }, resolved)

/-- Unenroll's status section. -/
def unenroll_status (state : RuntimeState) (resolved : ResolvedConfig) (now : DateTime) : RuntimeState :=
  let status := { state.status with managed_revision := none }
  apply_configuration_status { state with status } resolved.effective now

def ServiceRuntime.unenroll (runtime : ServiceRuntime) (elevated : Bool) (io : RequestIo) :
    ServiceRuntime × ResponsePayload :=
  if !elevated then (runtime, administrator_required)
  else if unenroll_check runtime io.now then (runtime, rejected "operation_running"
    "Wait for the current backup, repository, or enrollment operation to finish.")
  else match unenroll_writes runtime io with
    | .error response => (runtime, response)
    | .ok (written, resolved) =>
      let management := runtime.local_config.management
      ({ written with
        state := unenroll_status written.state resolved io.now
        credential_store := written.credential_store.map (fun store => CredentialStore.remove_all io.removed store
          (management.status_token_ref.toList ++ management.enrollment_key_ref.toList)) },
        .Accepted ("Managed policy and reporting were removed; " ++
          "repository credentials remain protected locally."))

end ResticPal
