import ResticPal.Runtime.Authorization
/-!
# What an unprivileged client can tell apart

- `unprivileged_answers_agree`: two devices that agree in what the service shows,
  and in whether a repository or management operation is under way, give a
  client without administrator rights the same answers to any sequence of
  requests, whatever else they hold.

`Alike` is what the two agree in. The operation has to be among it: a request to
install an update is answered by it, and `UnderEnrollment` has two devices that
differ in nothing else. Each of the requests that such a client gets an
answer to is looked at once, in `answer_alike`; the induction is over requests.
-/

open Lib

namespace ResticPal

/-! ## Runtimes -/

/-- The states show the same, and an operation is under way in both or in none. It
can be another one, and so can what was verified and how often backups have failed. -/
structure RuntimeState.Alike (x y : RuntimeState) : Prop where
  status : x.status = y.status
  ready : repository_operation_allows_backup x.repository_operation = repository_operation_allows_backup y.repository_operation
  operating : (x.repository_operation.isRunning || x.management_operation_active) =
    (y.repository_operation.isRunning || y.management_operation_active)
  resumed_at : x.resumed_at = y.resumed_at
  not_before : x.not_before = y.not_before
  manual_requested : x.manual_requested = y.manual_requested
  update_hold_until : x.update_hold_until = y.update_hold_until
  update_hold_previous_status : x.update_hold_previous_status = y.update_hold_previous_status
  update_install_active : x.update_install_active = y.update_install_active

structure ServiceRuntime.Alike (a b : ServiceRuntime) : Prop where
  state : a.state.Alike b.state
  configured : a.config.is_configured = b.config.is_configured
  automatic_install : a.config.updates.automatic_install = b.config.updates.automatic_install
  automatic_install_locked : a.field_locked .UpdateAutomaticInstall = b.field_locked .UpdateAutomaticInstall
  history_store : a.history_store = b.history_store

/-- The requests are made at the same time, and find the same history. -/
structure RequestIo.Alike (i j : RequestIo) : Prop where
  now : i.now = j.now
  receiver_open : i.receiver_open = j.receiver_open
  history : i.history = j.history

namespace RuntimeState.Alike

variable {x y : RuntimeState}

theorem running (h : x.Alike y) : x.running = y.running := congrArg (fun status => status.state.isRunning) h.status

theorem update_pending (h : x.Alike y) (now : DateTime) : x.update_pending now = y.update_pending now := by
  unfold RuntimeState.update_pending
  rw [h.update_install_active, h.update_hold_until]

theorem begin_hold (h : x.Alike y) (now deadline : DateTime) :
    (ResticPal.begin_hold x now deadline).Alike (ResticPal.begin_hold y now deadline) := by
  constructor
  · simp only [ResticPal.begin_hold, h.status]
  · exact h.ready
  · exact h.operating
  · rfl
  · exact h.not_before
  · rfl
  · rfl
  · simp only [ResticPal.begin_hold, h.status, h.update_hold_previous_status]
  · exact h.update_install_active

theorem restore_status (h : x.Alike y) (now : DateTime) :
    (ResticPal.restore_status x now).Alike (ResticPal.restore_status y now) := by
  have hprevious := h.update_hold_previous_status
  unfold ResticPal.restore_status
  rw [hprevious]
  rcases Option.eq_none_or_eq_some y.update_hold_previous_status with hnone | ⟨⟨state, deadline⟩, hsome⟩
  · rw [hnone]
    exact ⟨h.status, h.ready, h.operating, h.resumed_at, h.not_before, h.manual_requested, rfl, rfl, rfl⟩
  · rw [hsome]
    refine ⟨?_, h.ready, h.operating, h.resumed_at, h.not_before, h.manual_requested, rfl, rfl, rfl⟩
    simp only [h.status]

end RuntimeState.Alike

/-! ## Requests -/

section Requests

variable {ext : External} {a b : ServiceRuntime} {i j : RequestIo}

/-- Two answers are the same, and leave the runtimes alike. -/
def SameAnswer (a b : ServiceRuntime × ResponsePayload) : Prop := a.1.Alike b.1 ∧ a.2 = b.2

theorem send_event_alike (hio : i.Alike j) (message : String) : send_event i message = send_event j message := by
  unfold send_event
  rw [hio.receiver_open]

/-- The runtimes take over states that are alike. -/
theorem ServiceRuntime.Alike.with_state (h : a.Alike b) {x y : RuntimeState} (hs : x.Alike y) :
    ServiceRuntime.Alike { a with state := x } { b with state := y } :=
  ⟨hs, h.configured, h.automatic_install, h.automatic_install_locked, h.history_store⟩

theorem get_run_history_alike (h : a.Alike b) (hio : i.Alike j) (limit : UInt16) :
    a.get_run_history limit i = b.get_run_history limit j := by
  unfold ServiceRuntime.get_run_history
  rw [h.history_store, hio.history]

theorem cancel_backup_alike (h : a.Alike b) (hio : i.Alike j) : a.cancel_backup i = b.cancel_backup j := by
  unfold ServiceRuntime.cancel_backup
  rw [h.state.running, send_event_alike hio]

theorem run_backup_now_alike (h : a.Alike b) (hio : i.Alike j) :
    SameAnswer (a.run_backup_now i) (b.run_backup_now j) := by
  unfold ServiceRuntime.run_backup_now run_now_section
  rw [h.configured, h.state.ready, h.state.running, hio.now, h.state.update_pending, hio.receiver_open,
    send_event_alike hio]
  split
  · exact ⟨h, rfl⟩
  · split
    · exact ⟨h, rfl⟩
    · split
      · exact ⟨h, rfl⟩
      · split
        · exact ⟨h, rfl⟩
        · refine ⟨h.with_state ?_, rfl⟩
          exact ⟨h.state.status, h.state.ready, h.state.operating, h.state.resumed_at, rfl, rfl,
            h.state.update_hold_until, h.state.update_hold_previous_status, h.state.update_install_active⟩

theorem defer_backup_alike (h : a.Alike b) (hio : i.Alike j) (minutes : UInt32) :
    SameAnswer (a.defer_backup minutes i) (b.defer_backup minutes j) := by
  unfold ServiceRuntime.defer_backup defer_section
  rw [h.configured, h.state.ready, h.state.running, hio.now, send_event_alike hio]
  split
  · exact ⟨h, rfl⟩
  · split
    · exact ⟨h, rfl⟩
    · split
      · exact ⟨h, rfl⟩
      · split
        · exact ⟨h, rfl⟩
        · refine ⟨h.with_state ?_, rfl⟩
          refine ⟨?_, h.state.ready, h.state.operating, h.state.resumed_at, rfl, rfl, h.state.update_hold_until,
            h.state.update_hold_previous_status, h.state.update_install_active⟩
          simp only [h.state.status]

theorem check_hold_alike {x y : RuntimeState} (h : x.Alike y) (now : DateTime)
    (already pending backup operation : String) :
    check_hold x now already pending backup operation = check_hold y now already pending backup operation := by
  unfold check_hold
  rw [h.update_install_active, h.update_hold_until, h.running, h.operating]

theorem begin_update_install_alike (h : a.Alike b) (hio : i.Alike j) (package : UpdatePackage) :
    SameAnswer (ServiceRuntime.begin_update_install ext a package i)
      (ServiceRuntime.begin_update_install ext b package j) := by
  unfold ServiceRuntime.begin_update_install
  rw [h.automatic_install, hio.now, hio.receiver_open, check_hold_alike h.state]
  dsimp only
  split
  · exact ⟨h, rfl⟩
  · have hheld (deadline : DateTime) := h.state.begin_hold j.now deadline
    have hinstalls (deadline : DateTime) : RuntimeState.Alike
        { begin_hold a.state j.now deadline with update_install_active := true }
        { begin_hold b.state j.now deadline with update_install_active := true } := by
      obtain ⟨status, ready, operating, resumed_at, not_before, manual, hold, previous, -⟩ := hheld deadline
      exact ⟨status, ready, operating, resumed_at, not_before, manual, hold, previous, rfl⟩
    split
    · exact ⟨h.with_state (hinstalls _), rfl⟩
    · exact ⟨h.with_state ((hinstalls _).restore_status _), rfl⟩

/-- Every request of a client that is not an elevated administrator. -/
theorem answer_alike (h : a.Alike b) (hio : i.Alike j) (command : RequestCommand) :
    SameAnswer (a.handle_request ext command false i) (b.handle_request ext command false j) := by
  cases command with
  | GetStatus => exact ⟨h, congrArg ResponsePayload.Status h.state.status⟩
  | GetRunHistory limit => exact ⟨h, get_run_history_alike h hio limit⟩
  | RunBackupNow => exact run_backup_now_alike h hio
  | CancelBackup => exact ⟨h, cancel_backup_alike h hio⟩
  | DeferBackup minutes => exact defer_backup_alike h hio minutes
  | GetUpdateSettings =>
    refine ⟨h, congrArg ResponsePayload.UpdateSettings ?_⟩
    unfold ServiceRuntime.update_settings_view
    rw [h.automatic_install, h.automatic_install_locked]
  | InstallUpdate package => exact begin_update_install_alike h hio package
  | _ => exact ⟨h, rfl⟩

end Requests

/-! ## Devices -/

/-- A service, with the history it keeps. -/
structure Device where
  runtime : ServiceRuntime
  history : HistoryFile

/-- A request of a client that is not an elevated administrator, with the clock
reading and whether the event loop still listens. -/
structure Inquiry where
  command : RequestCommand
  now : DateTime
  receiver_open : Bool

namespace Device

/-- The devices show the same: in the status, the summaries of the runs, the
setting for updates and the scheduling of backups. -/
structure Alike (a b : Device) : Prop where
  runtime : a.runtime.Alike b.runtime
  summary : a.history.summary = b.history.summary

/-- What a device meets during a request. All that is not in the request is its own. -/
def io (d : Device) (inquiry : Inquiry) (own : RequestIo) : RequestIo := { own with
  now := inquiry.now
  receiver_open := inquiry.receiver_open
  history := fun limit => (d.history.recent limit).toOption }

/-- The device after a sequence of requests, and its answers. -/
def serve (ext : External) : Device → List (Inquiry × RequestIo) → Device × List ResponsePayload
  | d, [] => (d, [])
  | d, (inquiry, own) :: rest =>
    let answered := d.runtime.handle_request ext inquiry.command false (d.io inquiry own)
    let served := serve ext { d with runtime := answered.1 } rest
    (served.1, answered.2 :: served.2)

variable {ext : External} {a b : Device}

theorem Alike.io (h : a.Alike b) (inquiry : Inquiry) (own other : RequestIo) :
    (a.io inquiry own).Alike (b.io inquiry other) := by
  refine ⟨rfl, rfl, funext fun limit => ?_⟩
  exact congrArg Except.toOption (recent_eq_of_summary h.summary limit)

/-- A client without administrator rights cannot tell two devices apart that
show the same. Their answers to a sequence of requests are equal, and they still
show the same after it. The configuration, the stores and everything that the
devices meet outside of the requests can differ. -/
theorem unprivileged_answers_agree (h : a.Alike b) (first second : List (Inquiry × RequestIo))
    (hcommon : first.map Prod.fst = second.map Prod.fst) :
    (a.serve ext first).2 = (b.serve ext second).2 ∧ (a.serve ext first).1.Alike (b.serve ext second).1 := by
  induction first generalizing a b second with
  | nil =>
    cases second with
    | nil => exact ⟨rfl, h⟩
    | cons _ _ => cases hcommon
  | cons asked first ih =>
    obtain ⟨inquiry, own⟩ := asked
    cases second with
    | nil => cases hcommon
    | cons asked second =>
      obtain ⟨inquiry', other⟩ := asked
      obtain ⟨hinquiry, hrest⟩ := List.cons.inj hcommon
      obtain rfl : inquiry = inquiry' := hinquiry
      obtain ⟨hruntime, hanswer⟩ := @answer_alike ext _ _ _ _ h.runtime (h.io inquiry own other) inquiry.command
      obtain ⟨hanswers, halike⟩ := @ih { a with runtime := _ } { b with runtime := _ } ⟨hruntime, h.summary⟩ second hrest
      exact ⟨List.cons_eq_cons.2 ⟨hanswer, hanswers⟩, halike⟩

namespace TwoOffices

/-- A device that backs one folder up to a repository it has verified. -/
def runtime (folder repository : String) : ServiceRuntime :=
  let effective : EffectiveConfig := { backup := { paths := [⟨folder⟩] }, repository := { url := some repository } }
  let verified := ServiceStateSnapshot.mark_repository_verified {} effective .UNIX_EPOCH
  let loc : LocalConfig := { backup := { paths := some [⟨folder⟩] }, repository := { url := some repository } }
  from_resolved_with_state ⟨effective, none, ∅⟩ loc verified ⟨none, .contents loc⟩ none .missing .missing .UNIX_EPOCH

/-- One run, which could not read one item. -/
def history (item : String) : HistoryFile := .database {
  backup_runs := (∅ : BTreeMap Int StoredRun).insert 1 ⟨0, 60000, "succeeded_with_warnings", some "restic_partial_source",
    none, none, none, none, 0⟩
  failed_items := [⟨1, 0, item⟩] }

def first : Device := ⟨runtime "C:\\Users" "D:\\home", history "C:\\Users\\notes.txt"⟩

def second : Device := ⟨runtime "E:\\Clients" "F:\\vault", history "E:\\Clients\\offer.docx"⟩

theorem first_alike_second : first.Alike second := by
  refine ⟨⟨⟨rfl, rfl, rfl, rfl, rfl, rfl, rfl, rfl, rfl⟩, rfl, rfl, rfl, rfl⟩, ?_⟩
  have hselect (id : Int) : (HistoryTables.select ⟨∅, [⟨1, 0, "C:\\Users\\notes.txt"⟩]⟩ id) =
      HistoryTables.select ⟨∅, [⟨1, 0, "E:\\Clients\\offer.docx"⟩]⟩ id := rfl
  exact congrArg some (funext fun id => congrArg (Option.map · _) (hselect id))

def asked : List (Inquiry × RequestIo) :=
  [.GetStatus, .GetRunHistory 10, .GetBackupSources, .RunBackupNow, .GetRunFailureDetails 1].map
    (fun command => (⟨command, .UNIX_EPOCH, true⟩, .quiet .UNIX_EPOCH))

theorem offices_answer_alike :
    first.runtime.config.backup.paths ≠ second.runtime.config.backup.paths ∧
    (first.serve .inert asked).2.length = 5 ∧ (first.serve .inert asked).2 = (second.serve .inert asked).2 :=
  ⟨by decide, rfl, (unprivileged_answers_agree first_alike_second asked asked rfl).1⟩

end TwoOffices

namespace UnderEnrollment

/-- A device that installs updates silently. -/
def idle : Device := ⟨SilentUpdate.resumed, TwoOffices.history "C:\\Users\\notes.txt"⟩

/-- The same device while an administrator enrolls it. -/
def enrolling : Device := { idle with
  runtime := { idle.runtime with state := { idle.runtime.state with management_operation_active := true } } }

def asked : List (Inquiry × RequestIo) :=
  [(⟨.InstallUpdate SilentUpdate.package, .UNIX_EPOCH, true⟩, .quiet .UNIX_EPOCH)]

/-- A client without administrator rights is told of the enrollment, which nothing else that is shown gives away. -/
theorem enrollment_is_told : begin_enrollment idle.runtime .UNIX_EPOCH = some enrolling.runtime ∧
    (idle.serve SilentUpdate.ext asked).2 =
      [.Accepted "resticpal 1.0.9 will download and install silently after signature verification."] ∧
    (enrolling.serve SilentUpdate.ext asked).2 = [rejected "operation_running"
      "The update will be retried after the current service operation finishes."] :=
  ⟨rfl, by decide, by decide⟩

end UnderEnrollment

end Device

end ResticPal
