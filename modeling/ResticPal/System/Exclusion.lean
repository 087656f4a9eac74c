import ResticPal.System.Steps
/-!
# One operation at a time

- `at_most_one_operation`: with a clock that does not run backwards, at most one
  of a backup, a repository operation, an update and an enrollment is under way.

An operation checks for an update hold by the clock reading of its own request,
so the flags alone do not exclude each other: `Timely` says that the clock is
past any hold an operation has ignored.
-/

open Lib

namespace ResticPal

namespace System

variable {ext : External} {s u : System} {l : Label}

/-- The clock is past any update hold that an operation or an enrollment ignores. -/
def Timely (a : Activity) (clock : DateTime) : Prop :=
  a.repository_operation.isRunning = true ∨ a.management_operation_active = true →
    ∀ deadline ∈ a.update_hold_until, deadline ≤ clock

section Timely

variable {a : Activity} {clock : DateTime}

theorem Timely.set_operation (h : Timely a clock) {status : RepositoryOperationStatus} (hs : status.isRunning = false) :
    Timely { a with repository_operation := status } clock :=
  fun hu => h (.inr (hu.resolve_left (by simp [hs])))

theorem Timely.end_management (h : Timely a clock) : Timely { a with management_operation_active := false } clock :=
  fun hu => h (.inl (hu.resolve_right (by simp)))

theorem Timely.of_idle (ho : a.repository_operation.isRunning = false) (hm : a.management_operation_active = false) :
    Timely a clock := by
  intro hu
  simp [ho, hm] at hu

end Timely

/-- The clock does not run backwards. -/
def Forward (s : System) (l : Label) : Prop := s.clock ≤ l.now.getD s.clock

theorem Timely.finish_enrollment {runtime after : ServiceRuntime} {parse_url : String → Option Url} {io : RequestIo}
    {response : ResponsePayload} {clock : DateTime} (h : Timely runtime.state.activity clock)
    (hf : EnrollFinished parse_url runtime io after response) : Timely after.state.activity clock := by
  cases hf with
  | failed _ _ activity _ =>
    rw [activity]
    exact h.end_management
  | committed _ _ committed =>
    obtain ⟨resolved, -, -, -, hre⟩ := committed.resolved
    rcases hre.activity_eq with ha | ha
    · rw [ha]
      exact h.end_management
    · rw [ha]
      exact h.end_management.set_operation rfl

theorem Timely.begin_enrollment {runtime begun : ServiceRuntime} {now : DateTime}
    (h : begin_enrollment runtime now = some begun) : Timely begun.state.activity now := by
  obtain ⟨-, hbusy, ha, -⟩ := begin_enrollment_activity h
  intro _
  rw [ha]
  exact (update_pending_eq_false.1 (busy_eq_false.1 hbusy).2.2.2).2

theorem Timely.request {command : RequestCommand} {elevated : Bool} {io : RequestIo} {runtime : ServiceRuntime}
    {response : ResponsePayload} (h : Timely s.runtime.state.activity io.now)
    (he : RequestEffect ext s.runtime command elevated io runtime response) : Timely runtime.state.activity io.now := by
  cases he with
  | kept _ activity => exact activity ▸ h
  | began _ pending _ _ activity =>
    intro _
    rw [activity]
    exact (update_pending_eq_false.1 pending).2
  | held _ _ _ operation management activity =>
    rw [activity]
    exact .of_idle operation management
  | edited _ _ _ _ _ _ _ _ connection =>
    rcases connection with ⟨-, ha, -⟩ | ⟨-, ha, -⟩
    · exact ha ▸ h
    · rw [ha]
      exact h.set_operation rfl
  | unenrolled _ _ _ _ _ _ _ _ _ activity => exact activity ▸ h
  | enrolled _ begins finished => exact (Timely.begin_enrollment begins).finish_enrollment finished

theorem Timely.step (h : Timely s.runtime.state.activity s.clock) (hsound : Sound s) (hf : Forward s l)
    (hs : step ext s l = some u) : Timely u.runtime.state.activity u.clock := by
  have h : Timely s.runtime.state.activity (l.now.getD s.clock) := fun hu d hd => (h hu d hd).trans hf
  cases step_effect hsound hs with
  | quiet _ activity _ _ => exact activity ▸ h
  | request _ effect => exact h.request effect
  | beganEnroll begins => exact .begin_enrollment begins
  | finishedEnroll _ finished => exact h.finish_enrollment finished
  | appliedPolicy _ _ installed =>
    rcases installed.revalidated.activity_eq with ha | ha
    · exact ha ▸ h
    · rw [ha]
      exact h.set_operation rfl
  | evaluated _ evaluated _ =>
    cases evaluated with
    | held _ ha => exact ha ▸ h
    | idle _ ha => exact fun _ => by simp [ha]
    | started _ _ _ _ _ ha => exact fun _ => by simp [ha]
  | finishedUpdate pending _ _ activity _ =>
    obtain ⟨-, ho, hm⟩ := hsound.exclusive.alone_of_install (hsound.update pending)
    rw [activity]
    exact .of_idle ho hm
  | finishedBackup _ activity _ => exact activity ▸ h
  | finishedRepository _ ended =>
    obtain ⟨status, hs, activity⟩ := ended.activity
    rw [activity]
    exact h.set_operation hs

/-- The four activities of which at most one may be under way at `now`. -/
def operations (s : System) (now : DateTime) : List Bool :=
  [s.runtime.state.running, s.runtime.state.repository_operation.isRunning, s.runtime.state.update_pending now,
    s.runtime.state.management_operation_active]

theorem count_operations_le_one (hsound : Sound s) {now : DateTime} (ht : Timely s.runtime.state.activity now) :
    (s.operations now).count true ≤ 1 := by
  have hr : s.runtime.state.running = true → s.runtime.state.repository_operation.isRunning = false ∧
      s.runtime.state.update_pending now = false ∧ s.runtime.state.management_operation_active = false := by
    intro hr
    obtain ⟨ho, hu, hh, hm⟩ := hsound.exclusive.running hr
    exact ⟨allows_backup_not_running ho, update_pending_eq_false.2 ⟨hu, by simp [hh]⟩, hm⟩
  have ho : s.runtime.state.repository_operation.isRunning = true → s.runtime.state.update_pending now = false ∧
      s.runtime.state.management_operation_active = false := by
    intro ho
    obtain ⟨hu, hm⟩ := hsound.exclusive.operation ho
    exact ⟨update_pending_eq_false.2 ⟨hu, ht (.inl ho)⟩, hm⟩
  have hm : s.runtime.state.management_operation_active = true → s.runtime.state.update_pending now = false := by
    intro hm
    exact update_pending_eq_false.2 ⟨hsound.exclusive.management hm, ht (.inr hm)⟩
  unfold operations
  generalize s.runtime.state.running = r, s.runtime.state.repository_operation.isRunning = o,
    s.runtime.state.update_pending now = u, s.runtime.state.management_operation_active = m at *
  revert r o u m
  decide

/-- In every run whose clock does not go back, at most one of a backup, a
repository operation, an update and an enrollment is under way, at the last
clock reading and at any later time. -/
theorem at_most_one_operation {s₀ : System} {ls : List Label} (h₀ : Starts ext s₀)
    (h : Run (step ext) Forward s₀ ls s) {now : DateTime} (hn : s.clock ≤ now) : (s.operations now).count true ≤ 1 := by
  obtain ⟨hsound, htimely⟩ : Sound s ∧ Timely s.runtime.state.activity s.clock := by
    refine run_inv (fun s => Timely s.runtime.state.activity s.clock) ?_ h₀ ?_ h
    · exact fun _ _ _ hsound hi hf hs => hi.step hsound hf hs
    · obtain ⟨-, -, -, ho, ha⟩ := h₀.quiet
      rw [ha]
      exact .of_idle ho rfl
  exact count_operations_le_one hsound fun hu deadline hd => (htimely hu deadline hd).trans hn

instance (s : System) (l : Label) : Decidable (Forward s l) := inferInstanceAs (Decidable (_ ≤ _))

namespace FreshInstall

open HomeDevice (conditions)

def minuteLater : DateTime := ⟨61000000000, by decide, by decide⟩

/-- A service that found no files. -/
def started : System :=
  ⟨from_resolved_with_state ⟨{}, none, ((choose_all {} {} none).run ∅).2⟩ {} {} ⟨none, .missing⟩ none .missing .missing
    .UNIX_EPOCH, .UNIX_EPOCH, none, false, false, none⟩

theorem started_starts : Starts .inert started :=
  .loaded ⟨none, .missing⟩ none .missing .missing (by decide)

/-- A hold for an update, and an enrollment once it has expired. -/
def labels : List Label :=
  [.request (.PrepareForUpdate 60) true (.quiet .UNIX_EPOCH), .evaluate .UNIX_EPOCH conditions,
    .beginEnroll minuteLater, .evaluate minuteLater conditions]

def enrolling : Option System := runList (step .inert) Forward started labels

theorem enrolling_isSome : enrolling.isSome := by decide

theorem enrolls_after_hold : ∃ s ∈ enrolling, s.enrolling = true ∧ (s.operations minuteLater).count true ≤ 1 :=
  ⟨enrolling.get enrolling_isSome, Option.get_mem enrolling_isSome, by decide,
    at_most_one_operation started_starts (.of_isSome enrolling_isSome) (by decide)⟩

end FreshInstall

end System

end ResticPal
