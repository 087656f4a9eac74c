import ResticPal.Runtime.Ipc
import ResticPal.Runtime.Scheduler
/-!
# Requests without administrator rights

Authorization is checked in each handler. `handle_request_unprivileged` is what
the checks add up to: of all the runtime holds, a client that is not an elevated
administrator reaches the deadline and the two flags of a requested run, and
where updates install automatically also what an update hold sets.
-/

open Lib

namespace ResticPal

/-- The state differs at most in a requested run: its flag, its deferral and the reported deadline. -/
structure OnlyRunRequested (before after : RuntimeState) : Prop where
  eq : after = { before with
    manual_requested := after.manual_requested
    not_before := after.not_before
    status := { before.status with next_deadline := after.status.next_deadline } }

/-- The state differs at most in a requested run and an update hold. A hold also forgets a resume. -/
structure OnlyHeld (before after : RuntimeState) : Prop where
  eq : after = { before with
    manual_requested := after.manual_requested
    not_before := after.not_before
    update_install_active := after.update_install_active
    update_hold_until := after.update_hold_until
    update_hold_previous_status := after.update_hold_previous_status
    resumed_at := after.resumed_at
    status := { before.status with
      state := after.status.state
      state_since := after.status.state_since
      next_deadline := after.status.next_deadline } }

/-- What an unprivileged request leaves of the runtime. -/
structure UnprivilegedFrame (before after : ServiceRuntime) : Prop where
  stores : after = { before with state := after.state }
  state : OnlyRunRequested before.state after.state ∨
    before.config.updates.automatic_install ∧ OnlyHeld before.state after.state

theorem UnprivilegedFrame.refl (runtime : ServiceRuntime) : UnprivilegedFrame runtime runtime :=
  ⟨rfl, .inl ⟨rfl⟩⟩

theorem transition_state_eq (status : ServiceStatus) (next : BackupState) (now : DateTime) :
    transition_state status next now = { status with
      state := (transition_state status next now).state
      state_since := (transition_state status next now).state_since } := by
  unfold transition_state
  split <;> rfl

theorem begin_hold_only (state : RuntimeState) (now deadline : DateTime) :
    OnlyHeld state (begin_hold state now deadline) := by
  constructor
  unfold begin_hold
  rw [transition_state_eq]

theorem restore_status_only {before state : RuntimeState} (now : DateTime) (h : OnlyHeld before state) :
    OnlyHeld before (restore_status state now) := by
  obtain ⟨h⟩ := h
  constructor
  unfold restore_status
  rw [h]
  cases state.update_hold_previous_status <;> rfl

theorem run_backup_now_frame (runtime : ServiceRuntime) (io : RequestIo) :
    UnprivilegedFrame runtime (runtime.run_backup_now io).1 := by
  unfold ServiceRuntime.run_backup_now run_now_section
  repeat' split
  all_goals exact ⟨rfl, .inl ⟨rfl⟩⟩

theorem defer_backup_frame (runtime : ServiceRuntime) (minutes : UInt32) (io : RequestIo) :
    UnprivilegedFrame runtime (runtime.defer_backup minutes io).1 := by
  unfold ServiceRuntime.defer_backup defer_section
  repeat' split
  all_goals exact ⟨rfl, .inl ⟨rfl⟩⟩

theorem begin_update_install_frame (ext : External) (runtime : ServiceRuntime) (package : UpdatePackage)
    (io : RequestIo) : UnprivilegedFrame runtime (ServiceRuntime.begin_update_install ext runtime package io).1 := by
  unfold ServiceRuntime.begin_update_install
  simp only
  split
  · exact .refl runtime
  · rename_i h
    obtain ⟨automatic, -⟩ := check_bind_eq_ok.1 h
    have automatic : runtime.config.updates.automatic_install = true := by simpa using automatic
    have held (deadline : DateTime) : OnlyHeld runtime.state
        { begin_hold runtime.state io.now deadline with update_install_active := true } := by
      obtain ⟨h⟩ := begin_hold_only runtime.state io.now deadline
      constructor
      rw [h]
    split
    · exact ⟨rfl, .inr ⟨automatic, held _⟩⟩
    · exact ⟨rfl, .inr ⟨automatic, restore_status_only _ (held _)⟩⟩

/-- A request from a client that is not an elevated administrator changes no
configuration, lock, file, credential, operation or recorded verification. -/
theorem handle_request_unprivileged (ext : External) (runtime : ServiceRuntime) (command : RequestCommand)
    (io : RequestIo) : UnprivilegedFrame runtime (runtime.handle_request ext command false io).1 := by
  cases command with
  | RunBackupNow => exact run_backup_now_frame runtime io
  | DeferBackup minutes => exact defer_backup_frame runtime minutes io
  | InstallUpdate package => exact begin_update_install_frame ext runtime package io
  | _ => exact .refl runtime

namespace SilentUpdate

/-- A machine that installs updates silently and has just resumed. -/
def resumed : ServiceRuntime :=
  (from_resolved_with_state ⟨{ updates := { automatic_install := true } }, none, ∅⟩
    { updates := { automatic_install := some true } } {} ⟨none, .missing⟩ none .missing .missing
    .UNIX_EPOCH).record_resume .UNIX_EPOCH

def package : UpdatePackage where
  version := "1.0.9"
  url := "https://updates.resticpal.com/releases/v1.0.9/resticpal-1.0.9-x64.msi"
  signature := String.ofList (List.replicate 86 'A') ++ "=="
  length := 4096

def ext : External := { External.inert with base64_standard_decode := fun value => base64Decode value.toList }

/-- The resume that delays the next backup is forgotten on anyone's request, though it is no part of the hold. -/
theorem install_forgets_resume : resumed.state.resumed_at = some .UNIX_EPOCH ∧
    (resumed.handle_request ext (.InstallUpdate package) false (.quiet .UNIX_EPOCH)).1.state.resumed_at = none := by
  decide

end SilentUpdate

end ResticPal
