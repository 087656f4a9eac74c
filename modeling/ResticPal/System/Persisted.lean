import ResticPal.Runtime.Saved
import ResticPal.System.Steps
/-!
# Saves that come late

`finish_backup_at` and `finish_retention` change the service state under its
lock, copy it, and save the copy once the lock is free. `Savers` is the running
service with these two saves as steps of their own; all others are part of their
handler.

- `state_file_is_current`: with no save outstanding, `state.json` holds the state
  in memory, in every run in which no handler changes that state while the save of
  a finished backup is outstanding.

The save of a retention pass is harmless: the backup still counts as running, and
every handler that would change the state waits for its end.
-/

open Lib

namespace ResticPal

/-- Every file the step writes can be written. -/
def Label.written : Label → Bool
  | .request _ _ io | .finishEnroll io => io.state_written && io.config_written
  | .applyPolicy _ _ _ written | .retain _ _ _ written | .finishBackup _ written | .finishRepository _ _ _ written =>
    written
  | _ => true

namespace System

/-- The outcome the event loop is about to record is a success. -/
def succeeded (s : System) : Bool :=
  match s.backup with
  | some ⟨_, .finished outcome⟩ => outcome.kind.succeeded
  | _ => false

/-- What a step left, with `state.json` still as it was before. -/
def hold_back (before after : System) : System :=
  { after with runtime := { after.runtime with state_store := before.runtime.state_store } }

/-- Save a copy of the service state. -/
def save (s : System) (copy : ServiceStateSnapshot) : System :=
  { s with runtime := (s.runtime.save_state copy true).getD s.runtime }

end System

/-- The service, with the copies that are still to be saved: the backup worker's, of the
state after its retention pass, and the event loop's, of the state after the backup. -/
structure Savers where
  system : System
  retention : Option ServiceStateSnapshot
  completion : Option ServiceStateSnapshot

inductive SaverLabel where
  | handler (l : Label)
  | saveRetention
  | saveCompletion

namespace Savers

def handle (ext : External) (w : Savers) (l : Label) : Option Savers :=
  (w.system.step ext l).bind fun after =>
    match l with
    | .retain _ _ _ _ => some { w with
        system := w.system.hold_back after
        retention := some after.runtime.state.service_state }
    | .finishBackup _ _ =>
      if w.retention.isSome then none
      else some { w with
        system := w.system.hold_back after
        completion := if w.system.succeeded then some after.runtime.state.service_state else none }
    | _ => some { w with system := after }

def step (ext : External) (w : Savers) : SaverLabel → Option Savers
  | .handler l => if w.completion.isSome && l.on_event_loop then none else w.handle ext l
  | .saveRetention => w.retention.map fun copy => { w with system := w.system.save copy, retention := none }
  | .saveCompletion => w.completion.map fun copy => { w with system := w.system.save copy, completion := none }

/-- Every save succeeds, and no handler changes the service state while a finished backup is being saved. -/
def Ordered (ext : External) (w : Savers) : SaverLabel → Bool
  | .handler l => l.written && (w.completion.isNone || (w.system.step ext l).all fun after =>
      after.runtime.state.service_state = w.system.runtime.state.service_state)
  | _ => true

end Savers

namespace System

variable {ext : External} {s u : System} {l : Label}

/-- A handler saves what it changes, apart from the two that do so later. -/
theorem step_recorded (h : Sound s) (hs : step ext s l = some u) (hw : l.written = true)
    (hr : ∀ executable io now written, l ≠ .retain executable io now written)
    (hf : ∀ now written, l ≠ .finishBackup now written) :
    Recorded s.runtime u.runtime := by
  cases step_ran hs with
  | request =>
    obtain ⟨hstate, hconfig⟩ := Bool.and_eq_true_iff.1 hw
    exact .request hstate hconfig
  | beganEnroll begins =>
    obtain ⟨-, rfl⟩ := begin_enrollment_eq_some begins
    exact .kept rfl rfl
  | finishedEnroll enrolling =>
    exact .enrolled (h.exclusive.not_running_of_management (h.enrolling.trans enrolling)) (Bool.and_eq_true_iff.1 hw).1
  | @appliedPolicy policy expected now written =>
    obtain rfl : written = true := hw
    exact .applied_policy policy expected now
  | evaluated evaluates => exact .kept (evaluate_section_passedOn evaluates).service_state rfl
  | finishedUpdate _ => exact .kept (finish_update_install_passedOn _ _ _).service_state rfl
  | @finishedRepository operation outcome now written =>
    obtain rfl : written = true := hw
    exact .operation_finished operation outcome now fun ho =>
      h.exclusive.not_running_of_operation (congrArg RepositoryOperationStatus.isRunning ho)
  | progressed _ => exact .kept (update_progress_service_state _ _) rfl
  | beganRetention _ => exact .kept (begin_retention_service_state _ _) rfl
  | retained _ _ => exact absurd rfl (hr _ _ _ _)
  | finishedBackup _ _ => exact absurd rfl (hf _ _)
  | resumed | spawnFailed _ | copiedConfig _ | endedBackup _ => exact .kept rfl rfl

/-- Only an evaluation starts a backup, and only its completion ends one. -/
theorem backup_isSome_step (h : Sound s) (hs : step ext s l = some u) (hf : ∀ now written, l ≠ .finishBackup now written) :
    (s.backup.isSome = true → u.backup.isSome = true) ∧
      (l.on_event_loop = false → u.backup.isSome = true → s.backup.isSome = true) := by
  cases step_effect h hs with
  | quiet _ _ _ worker => exact ⟨fun hb => worker.isSome.trans hb, fun _ hb => worker.isSome.symm.trans hb⟩
  | evaluated _ _ _ =>
    rw [worker_after_isSome]
    exact ⟨fun hb => by simp [hb], fun hl => by cases hl⟩
  | finishedBackup _ _ _ => exact absurd rfl (hf _ _)
  | _ => exact ⟨id, fun _ => id⟩

theorem retain_backup {executable : PathBuf} {io : RetentionIo} {now : DateTime} {written : Bool}
    (hs : step ext s (.retain executable io now written) = some u) : s.backup.isSome = true := by
  cases step_ran hs with
  | retained worker _ => exact congrArg Option.isSome worker

/-- The end of a backup leaves no worker, and a new service state only after a success. -/
theorem finish_backup_runtime {now : DateTime} {written : Bool} (hs : step ext s (.finishBackup now written) = some u) :
    u.backup = none ∧ (s.succeeded = false → u.runtime.state.service_state = s.runtime.state.service_state) := by
  cases step_ran hs with
  | @finishedBackup _ _ _ outcome _ worker finishes =>
    refine ⟨rfl, fun hsucceeded => ?_⟩
    have hkind : outcome.kind.succeeded = false := by simpa [succeeded, worker] using hsucceeded
    obtain ⟨state, hsec, rfl⟩ := Option.map_eq_some_iff.1 finishes
    unfold finish_backup_section finish_backup_by at hsec
    simp only [hkind, Bool.false_eq_true, if_false] at hsec
    obtain ⟨retry_at, -, rfl⟩ := Option.map_eq_some_iff.1 hsec
    simp only [hkind, Bool.false_eq_true, if_false]

theorem save_eq (s : System) (copy : ServiceStateSnapshot) :
    s.save copy = { s with runtime := { s.runtime with state_store := saved_file s.runtime.state_store copy } } := by
  rw [save, save_state_succeeds]
  rfl

/-- A step whose save is made at once is the whole handler. -/
theorem hold_back_save (h : u.runtime.state_store = saved_file s.runtime.state_store u.runtime.state.service_state) :
    (s.hold_back u).save u.runtime.state.service_state = u := by
  rw [save_eq, hold_back, ← h]

theorem retain_saves {executable : PathBuf} {io : RetentionIo} {now : DateTime}
    (hs : step ext s (.retain executable io now true) = some u) :
    u.runtime.state_store = saved_file s.runtime.state_store u.runtime.state.service_state := by
  cases step_ran hs with
  | retained _ finishes =>
    subst finishes
    simp only [ServiceRuntime.finish_retention, save_state_succeeds, Option.getD_some]

theorem finish_backup_saves {now : DateTime} (hsucceeded : s.succeeded = true)
    (hs : step ext s (.finishBackup now true) = some u) :
    u.runtime.state_store = saved_file s.runtime.state_store u.runtime.state.service_state := by
  cases step_ran hs with
  | @finishedBackup _ _ _ outcome _ worker finishes =>
    have hkind : outcome.kind.succeeded = true := by simpa [succeeded, worker] using hsucceeded
    obtain ⟨state, -, rfl⟩ := Option.map_eq_some_iff.1 finishes
    simp only [hkind, if_true, save_state_succeeds, Option.getD_some]

end System

namespace Savers

variable {ext : External} {w v : Savers}

/-- The two steps of `finish_retention`, one right after the other. -/
theorem retain_then_save {executable : PathBuf} {io : RetentionIo} {now : DateTime}
    (hs : step ext w (.handler (.retain executable io now true)) = some v) :
    (step ext v .saveRetention).map Savers.system = w.system.step ext (.retain executable io now true) := by
  simp only [step, Label.on_event_loop, Bool.and_false, Bool.false_eq_true, if_false] at hs
  obtain ⟨after, hafter, hs⟩ := Option.bind_eq_some_iff.1 hs
  cases hs
  rw [hafter]
  exact congrArg some (System.hold_back_save (System.retain_saves hafter))

/-- The two steps of `finish_backup_at`, after a success. -/
theorem finish_then_save {now : DateTime} (hsucceeded : w.system.succeeded = true)
    (hs : step ext w (.handler (.finishBackup now true)) = some v) :
    (step ext v .saveCompletion).map Savers.system = w.system.step ext (.finishBackup now true) := by
  simp only [step] at hs
  split at hs
  · cases hs
  · obtain ⟨after, hafter, hs⟩ := Option.bind_eq_some_iff.1 hs
    simp only at hs
    split at hs
    · cases hs
    · cases hs
      rw [hafter]
      simp only [step, Option.map_some]
      exact congrArg some (System.hold_back_save (System.finish_backup_saves hsucceeded hafter))

/-- The copies to be saved are of the state in memory, which the file holds when there are none. -/
structure Current (w : Savers) : Prop where
  sound : w.system.Sound
  store : w.system.runtime.state_store.isSome = true
  retention : ∀ copy ∈ w.retention, copy = w.system.runtime.state.service_state ∧ w.system.backup.isSome = true
  completion : ∀ copy ∈ w.completion, copy = w.system.runtime.state.service_state ∧ w.system.backup.isSome = false
  settled : w.retention = none → w.completion = none →
    w.system.runtime.state_store.bind ScheduleStateStore.load = some w.system.runtime.state.service_state

theorem load_saved_file {store : Option (StoredFile PersistedScheduleState)} (h : store.isSome = true)
    (snapshot : ServiceStateSnapshot) : (saved_file store snapshot).bind ScheduleStateStore.load = some snapshot := by
  obtain ⟨file, rfl⟩ := Option.isSome_iff_exists.1 h
  simp [saved_file, ScheduleStateStore.load]

namespace Current

/-- A handler that saves what it changes. -/
theorem handled {l : Label} {after : System} (h : Current w) (hs : w.system.step ext l = some after)
    (hf : ∀ now written, l ≠ .finishBackup now written)
    (hl : w.completion.isSome = true → l.on_event_loop = false ∧
      after.runtime.state.service_state = w.system.runtime.state.service_state)
    (hrec : Recorded w.system.runtime after.runtime) :
    Current { w with system := after } := by
  obtain ⟨hstays, hstarts⟩ := System.backup_isSome_step h.sound hs hf
  have hcompletion (copy : ServiceStateSnapshot) (hc : copy ∈ w.completion) :
      copy = after.runtime.state.service_state ∧ after.backup.isSome = false := by
    obtain ⟨rfl, hb⟩ := h.completion copy hc
    obtain ⟨hloop, hsame⟩ := hl (Option.isSome_iff_exists.2 ⟨_, hc⟩)
    refine ⟨hsame.symm, Bool.eq_false_iff.2 fun hstarted => ?_⟩
    rw [hstarts hloop hstarted] at hb
    cases hb
  cases hrec with
  | kept service_state state_store =>
    refine ⟨h.sound.step hs, ?_, fun copy hc => ?_, hcompletion, fun hr hc => ?_⟩
    · exact (congrArg Option.isSome state_store).trans h.store
    · obtain ⟨rfl, hb⟩ := h.retention copy hc
      exact ⟨service_state.symm, hstays hb⟩
    · rw [state_store, service_state]
      exact h.settled hr hc
  | saved idle state_store =>
    refine ⟨h.sound.step hs, ?_, fun copy hc => ?_, hcompletion, fun _ _ => ?_⟩
    · rw [state_store, saved_file, Option.isSome_map]
      exact h.store
    · have hb := (h.retention copy hc).2
      rw [← h.sound.backup] at hb
      cases hb.symm.trans idle
    · rw [state_store]
      exact load_saved_file h.store _

theorem retained {executable : PathBuf} {io : RetentionIo} {now : DateTime} {written : Bool} {after : System}
    (h : Current w) (hs : w.system.step ext (.retain executable io now written) = some after) :
    Current { w with
      system := w.system.hold_back after
      retention := some after.runtime.state.service_state } := by
  have hb := System.retain_backup hs
  have hstays := (System.backup_isSome_step h.sound hs (fun _ _ he => by cases he)).1 hb
  have hsound := h.sound.step hs
  refine ⟨hsound, h.store, fun copy hc => ?_, fun copy hc => ?_, fun hr => by cases hr⟩
  · obtain rfl := Option.some.inj hc
    exact ⟨rfl, hstays⟩
  · cases hb.symm.trans (h.completion copy hc).2

theorem finished {now : DateTime} {written : Bool} {after : System} (h : Current w) (hretention : w.retention = none)
    (hcompletion : w.completion = none) (hs : w.system.step ext (.finishBackup now written) = some after) :
    Current { w with
      system := w.system.hold_back after
      completion := if w.system.succeeded then some after.runtime.state.service_state else none } := by
  obtain ⟨hb, hkept⟩ := System.finish_backup_runtime hs
  have hsound := h.sound.step hs
  refine ⟨hsound, h.store, fun copy hc => ?_, fun copy hc => ?_, fun _ hc => ?_⟩
  · rw [hretention] at hc
    cases hc
  · cases hsucceeded : w.system.succeeded with
    | false => simp [hsucceeded] at hc
    | true =>
      simp only [hsucceeded, if_true] at hc
      obtain rfl := Option.some.inj hc
      exact ⟨rfl, congrArg Option.isSome hb⟩
  · have hsucceeded : w.system.succeeded = false := by simpa using hc
    refine (h.settled hretention hcompletion).trans (congrArg some ?_)
    exact (hkept hsucceeded).symm

/-- A copy of the state in memory reaches the file. -/
theorem saved {retention completion : Option ServiceStateSnapshot} (h : Current w)
    (hretention : ∀ copy ∈ retention, w.retention = some copy) (hcompletion : ∀ copy ∈ completion, w.completion = some copy) :
    Current ⟨w.system.save w.system.runtime.state.service_state, retention, completion⟩ := by
  rw [System.save_eq]
  refine ⟨h.sound, ?_, fun copy hc => h.retention copy (hretention copy hc),
    fun copy hc => h.completion copy (hcompletion copy hc), fun _ _ => load_saved_file h.store _⟩
  rw [saved_file, Option.isSome_map]
  exact h.store

theorem step {l : SaverLabel} (h : Current w) (ho : w.Ordered ext l = true) (hs : step ext w l = some v) : Current v := by
  cases l with
  | saveRetention =>
    obtain ⟨copy, hc, rfl⟩ := Option.map_eq_some_iff.1 hs
    obtain ⟨rfl, -⟩ := h.retention copy hc
    exact h.saved (fun _ hc => by cases hc) fun _ hc => hc
  | saveCompletion =>
    obtain ⟨copy, hc, rfl⟩ := Option.map_eq_some_iff.1 hs
    obtain ⟨rfl, -⟩ := h.completion copy hc
    exact h.saved (fun _ hc => hc) fun _ hc => by cases hc
  | handler l =>
    simp only [Savers.step] at hs
    split at hs
    · cases hs
    · rename_i hloop
      obtain ⟨hwritten, hordered⟩ := Bool.and_eq_true_iff.1 ho
      obtain ⟨after, hafter, hs⟩ := Option.bind_eq_some_iff.1 hs
      have hquiet (hc : w.completion.isSome = true) : l.on_event_loop = false ∧
          after.runtime.state.service_state = w.system.runtime.state.service_state := by
        obtain ⟨copy, hcopy⟩ := Option.isSome_iff_exists.1 hc
        rw [hafter, hcopy] at hordered
        exact ⟨by simpa [hcopy] using hloop, of_decide_eq_true hordered⟩
      cases l with
      | retain executable io now written =>
        cases hs
        exact h.retained hafter
      | finishBackup now written =>
        simp only at hs
        split at hs
        · cases hs
        · rename_i hretention
          cases hs
          have hcompletion : w.completion = none := by
            rcases Option.eq_none_or_eq_some w.completion with hn | ⟨copy, hc⟩
            · exact hn
            · cases (hquiet (Option.isSome_iff_exists.2 ⟨copy, hc⟩)).1
          exact h.finished (by simpa using hretention) hcompletion hafter
      | _ =>
        cases hs
        refine h.handled hafter (fun _ _ he => ?_) hquiet
          (System.step_recorded h.sound hafter hwritten (fun _ _ _ _ he => ?_) fun _ _ he => ?_)
        all_goals cases he

end Current

/-- With no save outstanding, `state.json` holds the state in memory, and a restart finds it there: in every ordered
run of a service that could read the file when it started. -/
theorem state_file_is_current {runtime : ServiceRuntime} {start : DateTime} {policy : Option ManagedPolicy}
    {config_store : LocalConfigStore} {credential_store : Option CredentialStore}
    {state_store : StoredFile PersistedScheduleState} {policy_cache : ManagedPolicyCache} {ls : List SaverLabel}
    (load : load_with_credentials_and_policy ext.parse_url config_store credential_store state_store policy_cache policy
      start = .ok runtime)
    (readable : (ScheduleStateStore.load state_store).isSome = true)
    (h : Run (step ext) (fun w l => w.Ordered ext l = true) ⟨⟨runtime, start, none, false, false, policy⟩, none, none⟩ ls w)
    (hretention : w.retention = none) (hcompletion : w.completion = none) :
    ∃ file, w.system.runtime.state_store = some file ∧
      ScheduleStateStore.load file = some w.system.runtime.state.service_state ∧
      ∀ config_store credential_store policy_cache policy now restarted,
        load_with_credentials_and_policy ext.parse_url config_store credential_store file policy_cache policy now =
          .ok restarted →
        restarted.state.service_state = w.system.runtime.state.service_state := by
  have loaded {config_store : LocalConfigStore} {credential_store : Option CredentialStore}
      {file : StoredFile PersistedScheduleState} {policy_cache : ManagedPolicyCache} {policy : Option ManagedPolicy}
      {now : DateTime} {started : ServiceRuntime} {snapshot : ServiceStateSnapshot}
      (hload : load_with_credentials_and_policy ext.parse_url config_store credential_store file policy_cache policy
        now = .ok started) (hfile : ScheduleStateStore.load file = some snapshot) :
      started.state.service_state = snapshot ∧ started.state_store = some file := by
    simp only [load_with_credentials_and_policy, bind_eq_ok, pure_eq_ok, hfile] at hload
    obtain ⟨loc, -, resolved, -, rfl⟩ := hload
    exact ⟨rfl, rfl⟩
  obtain ⟨snapshot, hsnapshot⟩ := Option.isSome_iff_exists.1 readable
  obtain ⟨hstate, hstore⟩ := loaded load hsnapshot
  have h₀ : Current ⟨⟨runtime, start, none, false, false, policy⟩, none, none⟩ := by
    refine ⟨(System.Starts.loaded config_store credential_store state_store policy_cache load).sound, ?_,
      fun _ hc => (by cases hc), fun _ hc => (by cases hc), fun _ _ => ?_⟩
    · rw [hstore]
      rfl
    · rw [hstore, hstate]
      exact hsnapshot
  have hcurrent : Current w := h.inv Current (fun _ _ _ hc ho hs => hc.step ho hs) h₀
  obtain ⟨file, hfile, hloads⟩ := Option.bind_eq_some_iff.1 (hcurrent.settled hretention hcompletion)
  exact ⟨file, hfile, hloads, fun _ _ _ _ _ _ hrestart => (loaded hrestart hloads).1⟩

namespace LateSave

open System.HomeDevice (conditions password)

/-- A device whose backups need no retention pass. -/
def loc : LocalConfig where
  backup := { paths := some [⟨"C:\\Users"⟩] }
  repository := { url := some "D:\\home", mode := some .AppendOnly, secret_refs := some password }

def effective : EffectiveConfig where
  backup := { paths := [⟨"C:\\Users"⟩] }
  repository := { url := some "D:\\home", mode := .AppendOnly, secret_refs := password }

def verified : ServiceStateSnapshot := .mark_repository_verified {} effective .UNIX_EPOCH

def state_store : StoredFile PersistedScheduleState := .contents ⟨STATE_SCHEMA_VERSION, verified⟩

def runtime : ServiceRuntime :=
  from_resolved_with_state ⟨effective, none, ((choose_all {} loc none).run ∅).2⟩ loc verified ⟨none, .contents loc⟩ none
    state_store .missing .UNIX_EPOCH

theorem runtime_loads : load_with_credentials_and_policy External.inert.parse_url ⟨none, .contents loc⟩ none state_store
    .missing none .UNIX_EPOCH = .ok runtime := by decide

def started : Savers := ⟨⟨runtime, .UNIX_EPOCH, none, false, false, none⟩, none, none⟩

/-- A backup, up to the copy of the state that its end leaves to be saved. -/
def backs_up : List SaverLabel := [.handler (.evaluate .UNIX_EPOCH conditions), .handler .copyConfig,
  .handler (.endBackup ⟨.Succeeded, none, none, [], 0⟩ .UNIX_EPOCH), .handler (.finishBackup .UNIX_EPOCH true)]

def validates : SaverLabel := .handler (.request .ValidateRepository true (.quiet .UNIX_EPOCH))

/-- What the end of that backup leaves. -/
def backed_up : ServiceStateSnapshot := { verified with last_success := some .UNIX_EPOCH }

theorem overtaken_isSome : (runList (step External.inert) (fun _ _ => True) started
    (backs_up ++ [validates, .saveCompletion])).isSome := by decide

/-- The connection is tested before the end of the backup is saved. The late save then puts the verification back
that the test had withdrawn, and a restart backs up to the repository without it. -/
theorem verification_is_resurrected :
    load_with_credentials_and_policy External.inert.parse_url ⟨none, .contents loc⟩ none state_store .missing none
      .UNIX_EPOCH = .ok runtime ∧
    ∃ w file, Run (step External.inert) (fun _ _ => True) started (backs_up ++ [validates, .saveCompletion]) w ∧
      w.retention = none ∧ w.completion = none ∧ w.system.runtime.state_store = some file ∧
      w.system.runtime.state.service_state = backed_up.require_repository_validation ∧
      ScheduleStateStore.load file = some backed_up ∧
      (load_with_credentials_and_policy External.inert.parse_url ⟨none, .contents loc⟩ none file .missing none
        .UNIX_EPOCH).toOption.map (·.state.repository_operation) = some (.Succeeded .Validate .UNIX_EPOCH) :=
  ⟨runtime_loads, _, .contents ⟨STATE_SCHEMA_VERSION, backed_up⟩, .of_isSome overtaken_isSome, by decide, by decide,
    by decide, by decide, by decide, by decide⟩

/-- The connection is tested once the end of the backup is saved. -/
def in_order : List SaverLabel := backs_up ++ [.saveCompletion, validates]

theorem in_order_isSome : (runList (step External.inert) (fun w l => w.Ordered External.inert l = true) started in_order).isSome := by
  decide

theorem verification_stays_withdrawn : ∃ w ∈ runList (step External.inert) (fun w l => w.Ordered External.inert l = true) started in_order,
    ∃ file, w.system.runtime.state_store = some file ∧
      ScheduleStateStore.load file = some backed_up.require_repository_validation := by
  obtain ⟨file, hstore, hfile, -⟩ := state_file_is_current runtime_loads rfl (.of_isSome in_order_isSome) (by decide)
    (by decide)
  refine ⟨_, Option.get_mem in_order_isSome, file, hstore, hfile.trans (congrArg some ?_)⟩
  decide

end LateSave

end Savers

end ResticPal
