import ResticPal.Runtime.Effects
/-!
# What is saved of the service state

A handler that changes the service state saves it in the same step. `Recorded`
is what this leaves when every file can be written: the state and its file as
they were, or a file that holds the new state.
-/

open Lib

namespace ResticPal

/-- A step that kept the service state and its file, or saved a new one while no backup was running. -/
inductive Recorded (before after : ServiceRuntime) : Prop
  | kept (service_state : after.state.service_state = before.state.service_state)
      (state_store : after.state_store = before.state_store)
  | saved (idle : before.state.running = false)
      (state_store : after.state_store = saved_file before.state_store after.state.service_state)

namespace Recorded

variable {ext : External} {runtime : ServiceRuntime} {elevated : Bool} {io : RequestIo}

theorem refl (runtime : ServiceRuntime) : Recorded runtime runtime := .kept rfl rfl

/-- Nothing else of the runtime matters. -/
theorem congr {before after before' after' : ServiceRuntime} (h : Recorded before after)
    (hr : before'.state.running = before.state.running) (hb : before'.state.service_state = before.state.service_state)
    (hbs : before'.state_store = before.state_store)
    (ha : after'.state.service_state = after.state.service_state) (has : after'.state_store = after.state_store) :
    Recorded before' after' := by
  cases h with
  | kept service_state state_store =>
    exact .kept (by rw [ha, hb, service_state]) (by rw [has, hbs, state_store])
  | saved idle state_store => exact .saved (hr.trans idle) (by rw [has, hbs, ha, state_store])

/-- A configuration that asks for validation has it saved. -/
theorem installed (hr : runtime.state.running = false) (resolved : ResolvedConfig) (now : DateTime) :
    Recorded runtime (install_resolved runtime resolved now true) := by
  unfold install_resolved
  simp only
  split
  · simp only [save_state_succeeds, Option.getD_some]
    exact .saved hr (by simp)
  · exact .kept (by simp) rfl

theorem applied_policy (policy : ManagedPolicy) (expected : LocalManagementConfig) (now : DateTime) :
    Recorded runtime (runtime.apply_managed_policy_if_current policy expected now true).1 := by
  unfold ServiceRuntime.apply_managed_policy_if_current
  split
  · exact .refl runtime
  · split
    · exact .refl runtime
    · split
      · exact .refl runtime
      · rename_i hbusy
        simp only [Bool.or_eq_true, not_or, Bool.not_eq_true] at hbusy
        exact installed hbusy.1.1 _ now

theorem enrolled {parse_url : String → Option Url} (hr : runtime.state.running = false)
    (hw : io.state_written = true) : Recorded runtime (finish_enrollment parse_url runtime io).1 := by
  unfold finish_enrollment
  cases io.enrollment with
  | none => exact .kept rfl rfl
  | some pending =>
    simp only [Option.elim]
    have hcommit := @commit_enrollment_commit runtime io parse_url pending
    generalize commit_enrollment parse_url runtime pending io = after at hcommit ⊢
    cases hcommit with
    | abandoned => exact .kept rfl rfl
    | @committed candidate resolved _ _ policy_cache =>
      rw [hw]
      exact (@installed { runtime with config_store := runtime.stored candidate, policy_cache } hr resolved
        io.now).congr rfl rfl rfl rfl rfl

theorem enroll {parse_url : String → Option Url} {begun : ServiceRuntime}
    (hbegun : begin_enrollment runtime io.now = some begun) (hw : io.state_written = true) :
    Recorded runtime (finish_enrollment parse_url begun io).1 := by
  obtain ⟨hbusy, rfl⟩ := begin_enrollment_eq_some hbegun
  have hr : runtime.state.running = false := (busy_eq_false.1 hbusy).1
  exact (@enrolled { runtime with state := { runtime.state with management_operation_active := true } } io
    parse_url hr hw).congr rfl rfl rfl rfl rfl

/-- An operation on the repository withdraws its verification, whether or not it can start. -/
theorem operation_begun {operation : RepositoryOperationKind} (hw : io.state_written = true) :
    Recorded runtime (begin_repository_section runtime.config runtime operation io).1 := by
  have hbegun := @begin_repository_section_begun runtime io runtime.config operation
  generalize (begin_repository_section runtime.config runtime operation io).1 = after at hbegun ⊢
  cases hbegun with
  | refused => exact .refl runtime
  | begun _ running _ _ saved => exact .saved running (saved hw)

theorem repository_edited {display_name url : Option String} {mode : Option RepositoryMode} {options : Option Options}
    {secret_updates : List RepositorySecretUpdate} {candidate : Candidate}
    (hcheck : check_repository_edit runtime display_name url mode options secret_updates elevated io.now = .ok candidate)
    (changed : Bool) (hw : io.state_written = true) (hc : io.config_written = true) :
    Recorded runtime (commit_repository runtime candidate changed secret_updates io).1 := by
  obtain ⟨-, hr, -⟩ := check_repository_edit_guards hcheck
  have hcommitted := @commit_repository_committed runtime io candidate changed secret_updates
  generalize commit_repository runtime candidate changed secret_updates io = after at hcommitted ⊢
  cases hcommitted with
  | abandoned => exact .kept rfl rfl
  | recorded _ _ refused => cases refused.symm.trans hc
  | committed _ _ _ _ saved =>
    have hsaved := saved hw
    cases changed with
    | false => exact .kept (by simp) hsaved
    | true => exact .saved hr (by simpa using hsaved)

/-- What a request saves, when every file can be written. -/
theorem request {command : RequestCommand} (hw : io.state_written = true) (hc : io.config_written = true) :
    Recorded runtime (runtime.handle_request ext command elevated io).1 := by
  have hhandled := handle_request_handled ext runtime command elevated io
  generalize runtime.handle_request ext command elevated io = after at hhandled ⊢
  cases hhandled with
  | unchanged => exact .refl runtime
  | enrolled begins => exact enroll begins hw
  | unenrolled => exact .kept (by simp [unenroll_status]) rfl
  | validates | initializes => exact operation_begun hw
  | repository check => exact repository_edited check _ hw hc
  | sources | schedule => exact .kept (apply_configuration_status_service_state _ _ _) rfl
  | retention | settings | requested | deferred | held | installing => exact .kept rfl rfl
  | abandoned => exact .kept (restore_status_passedOn _ _).service_state rfl

/-- A finished operation saves what it found out. -/
theorem operation_finished (operation : RepositoryOperationKind) (outcome : RepositoryOutcomeKind)
    (completed_at : DateTime)
    (hr : runtime.state.repository_operation = .Running operation → runtime.state.running = false) :
    Recorded runtime (runtime.finish_repository_operation operation outcome completed_at true) := by
  unfold ServiceRuntime.finish_repository_operation finish_repository_section
  split
  · exact .refl runtime
  · rename_i hop
    have hr := hr (by simpa using hop)
    cases outcome with
    | Succeeded =>
      simp only [record_repository_outcome, save_state_succeeds]
      exact .saved hr (by simp)
    | _ => exact .kept (by simp [record_repository_outcome]) rfl

end Recorded

end ResticPal
