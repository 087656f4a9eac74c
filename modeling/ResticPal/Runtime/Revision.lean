import ResticPal.Runtime.Effects
/-!
# The reported revision

The status names the revision of the managed policy in force. Only three
handlers write it: a policy application, an enrollment that commits and an
unenrollment; all others pass it on. `Reports` ties it to the policy itself.
-/

open Lib

namespace ResticPal

/-- The reported revision is that of the policy. -/
def Reports (state : RuntimeState) (policy : Option ManagedPolicy) : Prop :=
  state.status.managed_revision = policy.map (·.revision)

/-! ## The parts of a handler -/

@[simp] theorem apply_configuration_status_revision (state : RuntimeState) (config : EffectiveConfig) (now : DateTime) :
    (apply_configuration_status state config now).status.managed_revision = state.status.managed_revision := by
  unfold apply_configuration_status configuration_status
  simp only
  repeat' split
  all_goals simp

@[simp] theorem begin_hold_revision (state : RuntimeState) (now deadline : DateTime) :
    (begin_hold state now deadline).status.managed_revision = state.status.managed_revision := by
  simp [begin_hold]

theorem update_progress_revision (state : RuntimeState) (progress : BackupProgress) :
    (update_progress state progress).status.managed_revision = state.status.managed_revision := by
  unfold update_progress
  split <;> rfl

theorem begin_retention_revision (runtime : ServiceRuntime) (now : DateTime) :
    (runtime.begin_retention now).1.state.status.managed_revision = runtime.state.status.managed_revision := by
  unfold ServiceRuntime.begin_retention begin_retention_section
  simp only
  split <;> rfl

theorem finish_backup_revision {runtime after : ServiceRuntime} {now : DateTime} {outcome : BackupOutcome}
    {written : Bool} (h : runtime.finish_backup_at now outcome written = some after) :
    after.state.status.managed_revision = runtime.state.status.managed_revision := by
  obtain ⟨state, hs, rfl⟩ := Option.map_eq_some_iff.1 h
  have hstate : state.status.managed_revision = runtime.state.status.managed_revision := by
    unfold finish_backup_section finish_backup_by at hs
    simp only at hs
    split at hs
    · obtain rfl := Option.some.inj hs
      rfl
    · obtain ⟨retry_at, -, rfl⟩ := Option.map_eq_some_iff.1 hs
      rfl
  split
  · rw [save_state_getD]
    exact hstate
  · exact hstate

theorem finish_repository_revision (runtime : ServiceRuntime) (operation : RepositoryOperationKind)
    (outcome : RepositoryOutcomeKind) (now : DateTime) (written : Bool) :
    (runtime.finish_repository_operation operation outcome now written).state.status.managed_revision =
      runtime.state.status.managed_revision := by
  unfold ServiceRuntime.finish_repository_operation finish_repository_section
  split
  · rfl
  · rw [apply_configuration_status_revision]
    cases outcome with
    | Succeeded =>
      unfold record_repository_outcome
      simp only
      split
      · rfl
      · rename_i saved hs
        rw [save_state_eq_some hs]
    | _ => rfl

/-! ## Requests -/

section Requests

variable {ext : External} {runtime : ServiceRuntime} {elevated : Bool} {io : RequestIo} {policy : Option ManagedPolicy}

theorem begin_repository_revision (operation : RepositoryOperationKind) :
    (begin_repository_section runtime.config runtime operation io).1.state.status.managed_revision =
      runtime.state.status.managed_revision := by
  have hbegun := @begin_repository_section_begun runtime io runtime.config operation
  generalize (begin_repository_section runtime.config runtime operation io).1 = after at hbegun ⊢
  cases hbegun with
  | refused => rfl
  | begun =>
    dsimp only
    split <;> simp

theorem commit_repository_revision {candidate : Candidate} {connection_changed : Bool}
    {secret_updates : List RepositorySecretUpdate} :
    (commit_repository runtime candidate connection_changed secret_updates io).1.state.status.managed_revision =
      runtime.state.status.managed_revision := by
  have hcommitted := @commit_repository_committed runtime io candidate connection_changed secret_updates
  generalize commit_repository runtime candidate connection_changed secret_updates io = after at hcommitted ⊢
  cases hcommitted with
  | abandoned | recorded => rfl
  | committed =>
    rw [apply_configuration_status_revision]
    split <;> rfl

/-- What installs a resolved configuration reports its revision. -/
theorem install_resolved_revision (resolved : ResolvedConfig) (now : DateTime) (written : Bool) :
    (install_resolved runtime resolved now written).state.status.managed_revision = resolved.managed_revision := by
  simp [install_resolved]

theorem commit_enrollment_reports {parse_url : String → Option Url} {pending : PendingEnrollment}
    (h : Reports runtime.state policy) : Reports (commit_enrollment parse_url runtime pending io).1.state
      (if (commit_enrollment parse_url runtime pending io).2 then some pending.initial_manifest.payload.policy
        else policy) := by
  have hcommit := @commit_enrollment_commit runtime io parse_url pending
  generalize commit_enrollment parse_url runtime pending io = after at hcommit ⊢
  cases hcommit with
  | abandoned => exact h
  | committed _ _ _ _ check =>
    obtain ⟨-, -, hres⟩ := check_enrollment_eq_some check
    obtain ⟨-, -, -, hrevision, -⟩ := (resolve_config_eq_ok _ _ _).1 hres
    exact (install_resolved_revision _ _ _).trans hrevision

theorem finish_enrollment_reports {parse_url : String → Option Url} (h : Reports runtime.state policy) :
    Reports (finish_enrollment parse_url runtime io).1.state
      (if (finish_enrollment parse_url runtime io).2.isAccepted then
        io.enrollment.map (·.initial_manifest.payload.policy) else policy) := by
  unfold finish_enrollment
  cases io.enrollment with
  | none => exact h
  | some pending =>
    have hcommit := @commit_enrollment_reports runtime io policy parse_url pending h
    by_cases hc : (commit_enrollment parse_url runtime pending io).2 = true
    · simpa [Reports, hc, ResponsePayload.isAccepted] using hcommit
    · simpa [Reports, hc, ResponsePayload.isAccepted, rejected] using hcommit

/-- A request reports the policy that is in force after it. -/
theorem request_reports {command : RequestCommand} (h : Reports runtime.state policy) :
    Reports (runtime.handle_request ext command elevated io).1.state
      (command.policy_after runtime io (runtime.handle_request ext command elevated io).2 policy) := by
  have kept {after : RuntimeState} (hs : after.status.managed_revision = runtime.state.status.managed_revision) :
      Reports after policy := hs.trans h
  have hhandled := handle_request_handled ext runtime command elevated io
  generalize runtime.handle_request ext command elevated io = after at hhandled ⊢
  cases hhandled with
  | unchanged refusal =>
    rw [RequestCommand.policy_after_unchanged refusal]
    exact h
  | enrolled begins =>
    obtain ⟨-, rfl⟩ := begin_enrollment_eq_some begins
    exact finish_enrollment_reports h
  | unenrolled _ _ _ _ managed =>
    simp [RequestCommand.policy_after, ResponsePayload.isAccepted, managed, Reports, unenroll_status]
  | validates | initializes => exact kept (begin_repository_revision _)
  | repository => exact kept commit_repository_revision
  | sources | schedule => exact kept (apply_configuration_status_revision _ _ _)
  | retention | settings | requested | deferred => exact h
  | held | installing => exact kept (begin_hold_revision _ _ _)
  | abandoned => exact kept (by simp [(restore_status_passedOn _ _).revision])

end Requests

end ResticPal
