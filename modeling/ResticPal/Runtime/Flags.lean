import ResticPal.Runtime.Effects
/-!
# The flags and the threads

No lock covers the service's operations: each handler checks some of the flags
the others set. `Exclusive` is what these checks add up to, and `Agrees` says
that the flags also tell which threads are active. There is one lemma for each
thing that can happen to the flags; both the system whose handlers are single
steps and the one whose critical sections are use them.
-/

open Lib

namespace ResticPal

/-- What holds of the operations under way, at any clock reading. -/
structure Exclusive (a : Activity) : Prop where
  restores : a.restores_running = false
  running : a.running = true → repository_operation_allows_backup a.repository_operation = true ∧
    a.update_install_active = false ∧ a.update_hold_until = none ∧ a.management_operation_active = false
  operation : a.repository_operation.isRunning = true →
    a.update_install_active = false ∧ a.management_operation_active = false
  management : a.management_operation_active = true → a.update_install_active = false

namespace Exclusive

variable {a : Activity}

theorem not_running_of_management (h : Exclusive a) (hm : a.management_operation_active = true) :
    a.running = false := by
  by_contra hr
  have := (h.running (by simpa using hr)).2.2.2
  simp [hm] at this

theorem not_running_of_operation (h : Exclusive a) (ho : a.repository_operation.isRunning = true) :
    a.running = false := by
  by_contra hr
  have := allows_backup_not_running (h.running (by simpa using hr)).1
  simp [ho] at this

/-- While an update is being installed nothing else is under way. -/
theorem alone_of_install (h : Exclusive a) (hu : a.update_install_active = true) : a.running = false ∧
    a.repository_operation.isRunning = false ∧ a.management_operation_active = false := by
  refine ⟨?_, ?_, ?_⟩ <;> by_contra hc
  · have := (h.running (by simpa using hc)).2.1
    simp [hu] at this
  · have := (h.operation (by simpa using hc)).1
    simp [hu] at this
  · have := h.management (by simpa using hc)
    simp [hu] at this

theorem not_running_of_pending {state : RuntimeState} {now : DateTime} (h : Exclusive state.activity)
    (hp : state.update_pending now = true) : state.activity.running = false := by
  by_contra hr
  obtain ⟨-, hu, hh, -⟩ := h.running (by simpa using hr)
  have : state.update_pending now = false := update_pending_eq_false.2 ⟨hu, by simp [hh]⟩
  simp [hp] at this

theorem set_operation (h : Exclusive a) (hr : a.running = false) {status : RepositoryOperationStatus}
    (hs : status.isRunning = true → a.update_install_active = false ∧ a.management_operation_active = false) :
    Exclusive { a with repository_operation := status } :=
  ⟨h.restores, fun hr' => absurd hr' (by simp [hr]), hs, h.management⟩

theorem begin_management (h : Exclusive a) (hr : a.running = false) (ho : a.repository_operation.isRunning = false)
    (hu : a.update_install_active = false) : Exclusive { a with management_operation_active := true } :=
  ⟨h.restores, fun hr' => absurd hr' (by simp [hr]), fun ho' => absurd ho' (by simp [ho]), fun _ => hu⟩

theorem end_management (h : Exclusive a) : Exclusive { a with management_operation_active := false } :=
  ⟨h.restores, fun hr => ⟨(h.running hr).1, (h.running hr).2.1, (h.running hr).2.2.1, rfl⟩,
    fun ho => ⟨(h.operation ho).1, rfl⟩, nofun⟩

theorem set_update (h : Exclusive a) {active : Bool} {hold : Option DateTime} (hr : a.running = false)
    (ho : a.repository_operation.isRunning = false) (hm : a.management_operation_active = false) :
    Exclusive { a with update_install_active := active, update_hold_until := hold } :=
  ⟨h.restores, fun hr' => absurd hr' (by simp [hr]), fun ho' => absurd ho' (by simp [ho]),
    fun hm' => absurd hm' (by simp [hm])⟩

theorem stop (h : Exclusive a) : Exclusive { a with running := false } :=
  ⟨h.restores, nofun, h.operation, h.management⟩

theorem release (h : Exclusive a) : Exclusive { a with update_hold_until := none } :=
  ⟨h.restores, fun hr => ⟨(h.running hr).1, (h.running hr).2.1, rfl, (h.running hr).2.2.2⟩, h.operation, h.management⟩

theorem start (h : Exclusive a) (ho : repository_operation_allows_backup a.repository_operation = true)
    (hu : a.update_install_active = false) (hm : a.management_operation_active = false) :
    Exclusive { a with update_hold_until := none, running := true } :=
  ⟨h.restores, fun _ => ⟨ho, hu, rfl, hm⟩, h.operation, h.management⟩

end Exclusive

/-- The flags exclude each other, and agree with the threads: whether there is a
backup worker, an enrollment under way and an update worker. -/
structure Agrees (a : Activity) (backup enrolling update : Bool) : Prop where
  exclusive : Exclusive a
  backup : a.running = backup
  enrolling : a.management_operation_active = enrolling
  update : update = true → a.update_install_active = true

namespace Agrees

variable {a b : Activity} {backup enrolling update : Bool} {ext : External} {before after : ServiceRuntime}

theorem not_running_of_enrolling (h : Agrees a backup true update) : a.running = false :=
  h.exclusive.not_running_of_management h.enrolling

theorem set_operation (h : Agrees a backup enrolling update) (hr : a.running = false)
    {status : RepositoryOperationStatus}
    (hs : status.isRunning = true → a.update_install_active = false ∧ a.management_operation_active = false)
    (hb : b = { a with repository_operation := status }) : Agrees b backup enrolling update := by
  subst hb
  exact ⟨h.exclusive.set_operation hr hs, h.backup, h.enrolling, h.update⟩

/-- A configuration is installed while no backup runs. -/
theorem install {state state' : RuntimeState} {effective : EffectiveConfig}
    (h : Agrees state.activity backup enrolling update) (hr : state.running = false)
    (hre : Revalidated effective state state') : Agrees state'.activity backup enrolling update := by
  rcases hre.activity_eq with ha | ha
  · exact ha ▸ h
  · exact h.set_operation hr (by nofun) ha

theorem begin_enrollment {now : DateTime} (h : Agrees before.state.activity backup enrolling update)
    (hb : begin_enrollment before now = some after) : Agrees after.state.activity backup true update := by
  obtain ⟨-, hbusy, ha, -⟩ := begin_enrollment_activity hb
  obtain ⟨hr, ho, hm, hu⟩ := busy_eq_false.1 hbusy
  rw [ha]
  exact ⟨h.exclusive.begin_management hr ho (update_pending_eq_false.1 hu).1, h.backup, rfl, h.update⟩

theorem end_management (h : Agrees a backup enrolling update) :
    Agrees { a with management_operation_active := false } backup false update :=
  ⟨h.exclusive.end_management, h.backup, rfl, h.update⟩

theorem finish_enrollment {parse_url : String → Option Url} {io : RequestIo} {response : ResponsePayload}
    (h : Agrees before.state.activity backup true update)
    (hf : EnrollFinished parse_url before io after response) : Agrees after.state.activity backup false update := by
  cases hf with
  | failed _ _ activity _ =>
    rw [activity]
    exact h.end_management
  | committed _ _ committed =>
    obtain ⟨resolved, -, -, -, hre⟩ := committed.resolved
    have hended : Agrees ({ before.state with management_operation_active := false } : RuntimeState).activity backup
        false update := h.end_management
    exact hended.install h.not_running_of_enrolling hre

theorem request {command : RequestCommand} {elevated : Bool} {io : RequestIo} {response : ResponsePayload}
    (h : Agrees before.state.activity backup false update)
    (he : RequestEffect ext before command elevated io after response) :
    Agrees after.state.activity backup false (update || command.starts_update response) := by
  cases he with
  | kept _ activity _ hu => rw [activity, hu, Bool.or_false]; exact h
  | began _ pending running _ activity hu =>
    rw [hu, Bool.or_false]
    exact h.set_operation running (fun _ => ⟨(update_pending_eq_false.1 pending).1, h.enrolling⟩) activity
  | held _ inactive running operation management activity _ hu =>
    rw [activity]
    refine ⟨h.exclusive.set_update running operation management, h.backup, h.enrolling, fun hupdate => ?_⟩
    rcases Bool.or_eq_true_iff.1 hupdate with hupdate | hupdate
    · exact absurd (h.update hupdate) (by simp [RuntimeState.activity, inactive])
    · exact hu hupdate
  | edited _ _ _ _ _ _ _ _ connection hu =>
    rw [hu, Bool.or_false]
    rcases connection with ⟨-, ha, -⟩ | ⟨hr, ha, -⟩
    · exact ha ▸ h
    · exact h.set_operation hr (fun hs => by cases hs) ha
  | unenrolled _ _ _ _ _ _ _ _ _ activity _ hu => rw [activity, hu, Bool.or_false]; exact h
  | enrolled _ begins finished hu =>
    rw [hu, Bool.or_false]
    exact (h.begin_enrollment begins).finish_enrollment finished

theorem evaluate {config : EffectiveConfig} {state state' : RuntimeState} {now : DateTime} {action : ScheduleAction}
    (h : Agrees state.activity backup enrolling update) (he : Evaluated config state now state' action) :
    Agrees state'.activity (backup || action.isStart) enrolling update := by
  cases he with
  | held pending ha =>
    have hr : state.activity.running = false := h.exclusive.not_running_of_pending pending
    have hsame : state'.activity = state.activity := by rw [ha, ← hr]
    rw [hsame, ScheduleAction.isStart, Bool.or_false]
    exact h
  | idle _ ha =>
    rw [ha, ScheduleAction.isStart, Bool.or_false]
    exact ⟨h.exclusive.release, h.backup, h.enrolling, h.update⟩
  | started pending _ management allows _ ha =>
    rw [ha, ScheduleAction.isStart, Bool.or_true]
    exact ⟨h.exclusive.start allows (update_pending_eq_false.1 pending).1 management, rfl, h.enrolling, h.update⟩

theorem finish_update {active : Bool} {hold : Option DateTime} (h : Agrees a backup enrolling true)
    (hb : b = { a with update_install_active := active, update_hold_until := hold }) :
    Agrees b backup enrolling false := by
  obtain ⟨hr, ho, hm⟩ := h.exclusive.alone_of_install (h.update rfl)
  subst hb
  exact ⟨h.exclusive.set_update hr ho hm, h.backup, h.enrolling, nofun⟩

theorem finish_backup (h : Agrees a backup enrolling update) (hb : b = { a with running := false }) :
    Agrees b false enrolling update := by
  subst hb
  exact ⟨h.exclusive.stop, rfl, h.enrolling, h.update⟩

theorem finish_repository {config : EffectiveConfig} {operation : RepositoryOperationKind}
    (h : Agrees before.state.activity backup enrolling update)
    (ho : before.state.repository_operation = .Running operation) (he : OperationEnded config before after) :
    Agrees after.state.activity backup enrolling update := by
  obtain ⟨status, hs, ha⟩ := he.activity
  have hrunning : before.state.activity.repository_operation.isRunning = true :=
    congrArg RepositoryOperationStatus.isRunning ho
  exact h.set_operation (h.exclusive.not_running_of_operation hrunning) (by simp [hs]) ha

end Agrees

end ResticPal
