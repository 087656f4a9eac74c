import ResticPal.System.Sections
/-!
# Backups and concurrent configuration changes

An evaluation decides on a copy of the configuration, and an unenrollment looks
for a running backup before it replaces the configuration. So a backup can start
although the configuration in force no longer names anything to back up, and
the status of a running backup can be overwritten. `undisturbed` rules out the
steps that do so, all of them while an evaluation is between its two sections;
in every run without them a backup starts from a configured service and shows
as running until it is finished.
-/

open Lib

namespace ResticPal

/-- An evaluation holds a copy of the configuration that it may start a backup from. -/
def LoopPhase.evaluates : LoopPhase → Bool
  | .evaluating config _ _ => config.is_configured
  | _ => false

/-- The request does not empty the list of backup sources. -/
def RequestCommand.keeps_sources : RequestCommand → Bool
  | .UpdateBackupSources (some paths) _ => !paths.isEmpty
  | _ => true

/-- What an unenrollment would leave names a backup. -/
def ServiceRuntime.leaves_backup (runtime : ServiceRuntime) : Bool :=
  runtime.local_config.management.mode == .Disabled || names_backup runtime.local_config none

namespace Threads

/-- While an evaluation holds a configured copy: no step puts a configuration in
force that names nothing to back up, and the evaluation does not go on between
the check and the writes of an unenrollment that will. -/
def undisturbed (t : Threads) (l : Section) : Bool :=
  !t.loop.evaluates || match l with
    | .evaluate => match t.ipc with
      | .unenrolling => t.runtime.leaves_backup
      | _ => true
    | .serve io => match t.ipc with
      | .editing command _ _ => command.keeps_sources
      | .unenrolling => t.runtime.leaves_backup
      | .enrolling => io.enrollment.all
          (fun pending => names_backup t.runtime.local_config (some pending.initial_manifest.payload.policy))
      | _ => true
    | .single (.applyPolicy policy _ _ _) => names_backup t.runtime.local_config (some policy)
    | _ => true

end Threads

/-- What a request has established between two of its sections. -/
def IpcPhase.Holds (runtime : ServiceRuntime) : IpcPhase → Prop
  | .editing command _ _ => command.is_edit = true
  | .saved candidate => candidate.effective.is_configured = runtime.config.is_configured
  | .unenrolling => runtime.state.running = true → runtime.leaves_backup = true
  | .unenrolled resolved _ => resolved.effective = runtime.config
  | _ => True

/-- A configured copy is of a service that is still configured, unless no backup can start. -/
def LoopPhase.Holds (runtime : ServiceRuntime) (loop : LoopPhase) : Prop :=
  loop.evaluates = true → repository_operation_allows_backup runtime.state.repository_operation = true →
    runtime.config.is_configured = true

/-- What the threads' phases and the runtime have to do with each other. -/
structure Consistent (t : Threads) : Prop where
  agrees : Agrees t.runtime.state.activity t.backup.isSome t.ipc.isEnrolling t.update
  running : t.runtime.state.running = true → t.runtime.config.is_configured = true
  loop : t.loop.Holds t.runtime
  ipc : t.ipc.Holds t.runtime

/-! ## What keeps a service configured -/

theorem deduplicateBy_isEmpty {α : Type} (key : α → String) (xs : List α) :
    (deduplicateBy key [] xs).isEmpty = xs.isEmpty := by
  cases xs <;> simp [deduplicateBy]

theorem EffectiveConfig.is_configured_congr {c d : EffectiveConfig} (h : c.settings = d.settings) :
    c.is_configured = d.is_configured := by
  obtain ⟨hb, hr, -⟩ := by simpa only [EffectiveConfig.settings, Prod.mk.injEq] using h
  unfold EffectiveConfig.is_configured
  rw [hb, hr]

section Configured

variable {ext : External} {before after : ServiceRuntime} {command : RequestCommand} {elevated : Bool} {io : RequestIo}
  {response : ResponsePayload} {candidate : Candidate} {references : List String}

theorem Edited.keeps_sources (h : Edited before (command.edits ext references) candidate)
    (hk : command.keeps_sources = true) (hp : before.config.backup.paths.isEmpty = false) :
    candidate.effective.backup.paths.isEmpty = false := by
  have kept (hn : command.edits ext references .BackupPaths = none) :
      candidate.effective.backup.paths.isEmpty = false := by
    have hsame : candidate.effective.backup.paths = before.config.backup.paths := h.get_of_none hn
    rw [hsame]
    exact hp
  cases command with
  | UpdateBackupSources paths exclusions =>
    cases paths with
    | none => exact kept rfl
    | some paths =>
      have hset : candidate.effective.backup.paths = deduplicate_paths ext.to_lowercase paths :=
        congrArg Prod.snd (h.fields .BackupPaths)
      rw [hset, deduplicate_paths, deduplicateBy_isEmpty]
      simpa [RequestCommand.keeps_sources] using hk
  | _ => exact kept rfl

/-- A request that is no unenrollment and no enrollment, and keeps the sources,
leaves a service configured for which backups may start. -/
theorem RequestEffect.configured (h : RequestEffect ext before command elevated io after response)
    (hu : command ≠ .Unenroll) (he : ∀ bootstrap_url, command ≠ .Enroll bootstrap_url)
    (hk : command.keeps_sources = true)
    (ha : repository_operation_allows_backup after.state.activity.repository_operation = true) :
    repository_operation_allows_backup before.state.activity.repository_operation = true ∧
      (before.config.is_configured = true → after.config.is_configured = true) := by
  cases h with
  | kept same activity =>
    rw [activity] at ha
    exact ⟨ha, same.config ▸ id⟩
  | began same _ _ allows activity =>
    rw [activity] at ha
    exact absurd ha (by simp [allows])
  | held same _ _ _ _ activity =>
    rw [activity] at ha
    exact ⟨ha, same.config ▸ id⟩
  | edited _ edited config _ _ _ _ _ connection =>
    rcases connection with ⟨hi, activity, -⟩ | ⟨-, activity, -⟩
    · rw [activity] at ha
      refine ⟨ha, fun hc => ?_⟩
      have hurl : after.config.repository.url = before.config.repository.url := congrArg RepositoryIdentity.url hi
      simp only [EffectiveConfig.is_configured, Bool.and_eq_true, Bool.not_eq_true'] at hc ⊢
      exact ⟨hurl ▸ hc.1, config ▸ edited.keeps_sources hk hc.2⟩
    · rw [activity] at ha
      cases ha
  | unenrolled unenroll => exact absurd unenroll hu
  | enrolled enroll =>
    obtain ⟨bootstrap_url, rfl⟩ := enroll
    exact absurd rfl (he bootstrap_url)

/-- Such a request leaves a backup running on a configuration as configured as before. -/
theorem RequestEffect.running (h : RequestEffect ext before command elevated io after response)
    (hu : command ≠ .Unenroll) (he : ∀ bootstrap_url, command ≠ .Enroll bootstrap_url)
    (hr : after.state.running = true) :
    before.state.running = true ∧ after.config.is_configured = before.config.is_configured := by
  cases h with
  | kept same activity => exact ⟨(congrArg Activity.running activity).symm.trans hr, by rw [same.config]⟩
  | began same _ _ _ activity => exact ⟨(congrArg Activity.running activity).symm.trans hr, by rw [same.config]⟩
  | held same _ _ _ _ activity => exact ⟨(congrArg Activity.running activity).symm.trans hr, by rw [same.config]⟩
  | edited _ edited _ _ _ _ _ frozen connection =>
    have hb : before.state.running = true := by
      rcases connection with ⟨-, activity, -⟩ | ⟨-, activity, -⟩
      · exact (congrArg Activity.running activity).symm.trans hr
      · exact (congrArg Activity.running activity).symm.trans hr
    exact ⟨hb, EffectiveConfig.is_configured_congr (frozen hb)⟩
  | unenrolled unenroll => exact absurd unenroll hu
  | enrolled enroll =>
    obtain ⟨bootstrap_url, rfl⟩ := enroll
    exact absurd rfl (he bootstrap_url)

end Configured

/-! ## What a section keeps -/

namespace Consistent

open Threads

variable {ext : External} {t u : Threads} {command : RequestCommand} {elevated : Bool} {io : RequestIo}

/-- The configuration stays, no backup starts and none becomes possible. -/
theorem of_same (h : Consistent t) (hc : SameConfig t.runtime u.runtime)
    (ha : Agrees u.runtime.state.activity u.backup.isSome u.ipc.isEnrolling u.update)
    (hr : u.runtime.state.activity.running = true → t.runtime.state.activity.running = true)
    (hl : u.loop.evaluates = true → t.loop.evaluates = true ∧
      u.runtime.state.activity.repository_operation = t.runtime.state.activity.repository_operation)
    (hi : u.ipc = t.ipc ∨ ∀ runtime, u.ipc.Holds runtime) : Consistent u := by
  refine ⟨ha, fun hrunning => hc.config ▸ h.running (hr hrunning), fun he hallowed => ?_, ?_⟩
  · obtain ⟨hevaluates, ho⟩ := hl he
    rw [hc.config]
    exact h.loop hevaluates ((congrArg _ ho).symm.trans hallowed)
  · rcases hi with hi | hi
    · have hipc := h.ipc
      rw [hi]
      cases hp : t.ipc with
      | editing | saved | unenrolling | unenrolled =>
        rw [hp] at hipc
        simp only [IpcPhase.Holds, ServiceRuntime.leaves_backup, hc.config, hc.local_config] at hipc ⊢
        first | exact hipc | exact fun hrunning => hipc (hr hrunning)
      | _ => trivial
    · exact hi _

/-- A request that moves on to its next section and does nothing else. -/
theorem with_ipc (h : Consistent t) {ipc : IpcPhase} (hh : ipc.Holds t.runtime)
    (he : ipc.isEnrolling = t.ipc.isEnrolling) : Consistent { t with ipc } :=
  ⟨by simpa only [he] using h.agrees, h.running, h.loop, hh⟩

theorem end_request (h : Consistent t) (hn : t.ipc.isEnrolling = false) : Consistent { t with ipc := .idle } :=
  h.with_ipc trivial hn.symm

theorem of_effect {after : ServiceRuntime} {response : ResponsePayload} (h : Consistent t)
    (he : RequestEffect ext t.runtime command elevated io after response) (hn : t.ipc.isEnrolling = false)
    (hu : command ≠ .Unenroll) (hb : ∀ bootstrap_url, command ≠ .Enroll bootstrap_url)
    (hk : t.loop.evaluates = true → command.keeps_sources = true) {update : Bool}
    (hupdate : (t.update || command.starts_update response) = update) :
    Consistent { t with runtime := after, update, ipc := .idle } := by
  have ha : Agrees t.runtime.state.activity t.backup.isSome false t.update := hn ▸ h.agrees
  refine ⟨hupdate ▸ ha.request he, fun hr => ?_, fun hl hallowed => ?_, trivial⟩
  · obtain ⟨hrunning, hc⟩ := he.running hu hb hr
    exact hc.trans (h.running hrunning)
  · obtain ⟨hbefore, hc⟩ := he.configured hu hb (hk hl) hallowed
    exact hc (h.loop hl hbefore)

theorem whole_eq_some {l : Label} (h : t.whole ext l = some u) : ∃ s, System.step ext t.view l = some s ∧
    u = { t with runtime := s.runtime, backup := s.backup, update := s.update } := by
  obtain ⟨s, hs, rfl⟩ := Option.map_eq_some_iff.1 h
  exact ⟨{ s with clock := l.now.getD t.view.clock }, by simp [System.step, hs], rfl⟩

theorem of_quiet {runtime : ServiceRuntime} {backup : Option BackupWorker}
    {planning : Option (RepositoryMode × UInt32 × BackupOutcome)} (h : Consistent t)
    (same : SameConfig t.runtime runtime) (activity : runtime.state.activity = t.runtime.state.activity)
    (worker : backup.isSome = t.backup.isSome) : Consistent { t with runtime, backup, planning } := by
  have ha := h.agrees
  rw [← worker, ← activity] at ha
  exact h.of_same same ha (fun hr => (congrArg Activity.running activity).symm.trans hr)
    (fun he => ⟨he, congrArg Activity.repository_operation activity⟩) (.inl rfl)

theorem single {l : Label} (h : Consistent t) (hf : t.free l = true) (hk : t.undisturbed (.single l) = true)
    (hs : t.whole ext l = some u) : Consistent u := by
  obtain ⟨s, hstep, rfl⟩ := whole_eq_some hs
  cases System.step_effect h.agrees hstep with
  | quiet same activity _ worker => exact h.of_quiet same activity worker.isSome
  | appliedPolicy running resolves installed =>
    refine ⟨h.agrees.install running installed.revalidated, fun hr => ?_, fun he _ => ?_, ?_⟩
    · exact absurd (installed.revalidated.running.symm.trans hr) (by simp [running])
    · simp only [installed.config, resolve_config_is_configured resolves]
      simpa [undisturbed, he, view] using hk
    · cases hp : t.ipc with
      | editing | saved | unenrolling | unenrolled => simp [free, hp, IpcPhase.mutating] at hf
      | _ => trivial
  | finishedUpdate pending same _ activity _ =>
    have ha : Agrees t.runtime.state.activity t.backup.isSome t.ipc.isEnrolling true := pending ▸ h.agrees
    exact h.of_same same (ha.finish_update activity) (fun hr => (congrArg Activity.running activity).symm.trans hr)
      (fun he => ⟨he, (congrArg Activity.repository_operation activity :)⟩) (.inl rfl)
  | _ => cases hf

theorem request (h : Consistent t) (hi : t.ipc.isIdle = true) (hs : t.request ext command elevated io = some u) :
    Consistent u := by
  obtain ⟨runtime, backup, update, loop, ipc, planning⟩ := t
  obtain rfl : ipc = .idle := by cases ipc <;> first | rfl | cases hi
  unfold Threads.request at hs
  cases command with
  | ValidateRepository | InitializeRepository =>
    simp only [begin_operation, Option.some.injEq] at hs
    split at hs <;> subst hs
    · exact h.with_ipc trivial rfl
    · exact h
  | RunBackupNow | DeferBackup =>
    simp only [Option.some.injEq] at hs
    split at hs <;> subst hs
    · exact h.with_ipc trivial rfl
    · exact h
  | Enroll bootstrap_url =>
    dsimp only at hs
    split at hs <;> obtain rfl := Option.some.inj hs
    · cases hb : begin_enrollment runtime io.now with
      | none => exact h
      | some begun =>
        obtain ⟨hc, -, ha, -⟩ := begin_enrollment_activity hb
        exact h.of_same hc (h.agrees.begin_enrollment hb) (fun hr => (congrArg Activity.running ha).symm.trans hr)
          (fun he => ⟨he, (congrArg Activity.repository_operation ha :)⟩) (.inr fun _ => trivial)
    · exact h
  | Unenroll =>
    simp only [Option.some.injEq] at hs
    split at hs <;> subst hs
    · rename_i hcheck
      simp only [unenroll_check, Bool.and_eq_true, Bool.not_eq_true'] at hcheck
      have hr : runtime.state.running = false := (busy_eq_false.1 hcheck.2).1
      exact h.with_ipc (fun hrunning => absurd hrunning (by simp [hr])) rfl
    · exact h
  | UpdateBackupSources | UpdateRepository | UpdateSchedule | UpdateRetention | UpdateUpdateSettings =>
    simp only [RequestCommand.is_edit, if_true, Option.some.injEq] at hs
    split at hs <;> subst hs
    · exact h.with_ipc rfl rfl
    · exact h
  | _ =>
    simp only [RequestCommand.is_edit, Bool.false_eq_true, if_false] at hs
    obtain ⟨s, hstep, rfl⟩ := whole_eq_some hs
    cases System.step_effect h.agrees hstep with
    | quiet same activity _ worker => exact h.of_quiet same activity worker.isSome
    | request _ effect => exact h.of_effect effect rfl (by simp) (by simp) (fun _ => rfl) rfl

/-- The state section of an edit. -/
theorem edit {checked : DateTime} (h : Consistent t) (hn : t.ipc.isEnrolling = false) (he : command.is_edit = true)
    (hk : t.loop.evaluates = true → command.keeps_sources = true) :
    Consistent (t.edit ext command elevated checked io) := by
  have handled (hu : command ≠ .Unenroll) (hb : ∀ bootstrap_url, command ≠ .Enroll bootstrap_url)
      (hupdate : ∀ response, command.starts_update response = false) :
      Consistent { t with runtime := edited ext t.runtime command elevated { io with now := checked } io.now, ipc := .idle } := by
    have hhandled := h.of_effect (@handle_request_effect ext t.runtime command elevated { io with now := checked }
      h.agrees.exclusive.restores) hn hu hb hk (by rw [hupdate, Bool.or_false])
    exact hhandled.of_quiet (edited_same io.now).1 (edited_same io.now).2 rfl
  cases command with
  | UpdateRetention daily weekly monthly yearly prune_interval_days =>
    simp only [Threads.edit]
    split
    · exact h.end_request hn
    · rename_i candidate hcheck
      cases hs : t.runtime.save_config candidate.loc io.config_written with
      | none => exact h.end_request hn
      | some saved =>
        obtain rfl := save_config_eq_some hs
        obtain ⟨hedited, -, -⟩ := check_retention_edit_edited hcheck
        have ha : Agrees t.runtime.state.activity t.backup.isSome false t.update := hn ▸ h.agrees
        exact ⟨ha, h.running, h.loop, hedited.is_configured rfl rfl⟩
  | UpdateBackupSources | UpdateRepository | UpdateSchedule | UpdateUpdateSettings =>
    exact handled (by simp) (by simp) (fun _ => rfl)
  | _ => cases he

theorem serve (h : Consistent t) (hk : t.undisturbed (.serve io) = true) (hs : t.serve ext io = some u) :
    Consistent u := by
  obtain ⟨runtime, backup, update, loop, ipc, planning⟩ := t
  cases ipc with
  | idle => cases hs
  | operating config operation =>
    obtain rfl := Option.some.inj hs
    have he : RequestEffect ext runtime .ValidateRepository true io
        (begin_repository_section config runtime operation io).1
        (begin_repository_section config runtime operation io).2 :=
      begin_repository_section_effect (fun _ => rfl) fun _ _ => rfl
    exact h.of_effect he rfl (by simp) (by simp) (fun _ => rfl) (Bool.or_false _)
  | requesting =>
    obtain rfl := Option.some.inj hs
    exact h.with_ipc (by split <;> trivial) (by split <;> rfl)
  | requested =>
    obtain rfl := Option.some.inj hs
    exact (h.end_request rfl).of_quiet ⟨rfl, rfl, rfl, rfl⟩ (run_now_section_kept _ _).1 rfl
  | deferring minutes =>
    obtain rfl := Option.some.inj hs
    exact (h.end_request rfl).of_quiet ⟨rfl, rfl, rfl, rfl⟩ (defer_section_kept _ _ _).1 rfl
  | editing command elevated checked =>
    obtain rfl := Option.some.inj hs
    refine h.edit rfl h.ipc fun he => ?_
    simpa [undisturbed, he] using hk
  | saved candidate =>
    obtain rfl := Option.some.inj hs
    have hc : candidate.effective.is_configured = runtime.config.is_configured := h.ipc
    exact ⟨h.agrees, fun hr => hc.trans (h.running hr), fun he ho => hc.trans (h.loop he ho), trivial⟩
  | unenrolling =>
    obtain rfl := Option.some.inj hs
    cases hw : unenroll_writes runtime io with
    | error response => exact h.end_request rfl
    | ok result =>
      obtain ⟨written, resolved⟩ := result
      obtain ⟨hm, hres, hwritten⟩ := unenroll_writes_eq_ok hw
      have configured (hl : runtime.leaves_backup = true) : resolved.effective.is_configured = true := by
        have hn : names_backup runtime.local_config none = true := by simpa [ServiceRuntime.leaves_backup, hm] using hl
        rw [resolve_config_is_configured hres]
        exact hn
      rw [hwritten]
      exact ⟨h.agrees, fun hr => configured (h.ipc hr),
        fun he _ => configured (by simpa [undisturbed, show loop.evaluates = true from he] using hk), rfl⟩
  | unenrolled resolved management =>
    obtain rfl := Option.some.inj hs
    have hc : resolved.effective = runtime.config := h.ipc
    have ha : (unenroll_status runtime.state resolved io.now).activity = runtime.state.activity := by
      cases hr : runtime.state.running with
      | false => exact apply_configuration_status_activity _ _ hr
      | true =>
        exact apply_configuration_status_running _ (hc ▸ h.running hr) (h.agrees.exclusive.running hr).1 hr
    exact (h.end_request rfl).of_quiet ⟨rfl, rfl, rfl, rfl⟩ ha rfl
  | enrolling =>
    obtain rfl := Option.some.inj hs
    have hr : runtime.state.running = false := h.agrees.not_running_of_enrolling
    have hnext : Consistent ⟨runtime, backup, update, loop, .enrolled, planning⟩ := h.with_ipc trivial rfl
    cases hd : io.enrollment with
    | none => exact hnext
    | some pending =>
      rcases commit_enrollment_committed ext.parse_url io pending hr with ⟨-, hsame, hstate⟩ | ⟨-, hcommitted⟩
      · exact hnext.of_quiet hsame (congrArg _ hstate) rfl
      · obtain ⟨resolved, hres, hconfig, -, hre⟩ := hcommitted.resolved
        refine ⟨h.agrees.install hr hre, fun hrunning => ?_, fun he _ => ?_, trivial⟩
        · exact absurd (hre.running.symm.trans hrunning) (by simp [hr])
        · have hn : names_backup runtime.local_config (some pending.initial_manifest.payload.policy) = true := by
            simpa [undisturbed, show loop.evaluates = true from he, hd] using hk
          rw [Option.elim_some, hconfig, resolve_config_is_configured hres, hcommitted.names, hn]
  | enrolled =>
    obtain rfl := Option.some.inj hs
    exact h.of_same ⟨rfl, rfl, rfl, rfl⟩ h.agrees.end_management id (fun he => ⟨he, rfl⟩) (.inr fun _ => trivial)

/-- The state section of an evaluation. -/
theorem evaluate {config : EffectiveConfig} {now : DateTime} {conditions : SystemConditions} {state : RuntimeState}
    {action : ScheduleAction} (h : Consistent t) (hl : t.loop = .evaluating config now conditions)
    (hk : t.undisturbed .evaluate = true)
    (hs : evaluate_section config t.runtime.state now conditions = some (state, action)) :
    Consistent { t with
      runtime := { t.runtime with state }
      backup := t.view.worker_after action
      loop := .idle } := by
  have hevaluated := evaluate_section_evaluated h.agrees.exclusive.restores hs
  have ha : Agrees state.activity (t.view.worker_after action).isSome t.ipc.isEnrolling t.update := by
    rw [System.worker_after_isSome]
    exact h.agrees.evaluate hevaluated
  cases hevaluated with
  | held _ activity =>
    exact h.of_same ⟨rfl, rfl, rfl, rfl⟩ ha (fun hr => by cases (congrArg Activity.running activity).symm.trans hr)
      (fun he => by cases he) (.inl rfl)
  | idle _ activity =>
    exact h.of_same ⟨rfl, rfl, rfl, rfl⟩ ha (fun hr => (congrArg Activity.running activity).symm.trans hr)
      (fun he => by cases he) (.inl rfl)
  | started _ configured _ allows _ _ =>
    have he : t.loop.evaluates = true := by rw [hl]; exact configured
    refine ⟨ha, fun _ => h.loop he allows, fun he => (by cases he), ?_⟩
    have hipc := h.ipc
    cases hp : t.ipc with
    | editing | saved | unenrolled =>
      rw [hp] at hipc
      exact hipc
    | unenrolling =>
      have hleaves : t.runtime.leaves_backup = true := by simpa [undisturbed, he, hp] using hk
      exact fun _ => hleaves
    | _ => trivial

theorem begin_retention {now : DateTime} (h : Consistent t) (hs : t.begin_retention now = some u) : Consistent u := by
  unfold Threads.begin_retention at hs
  split at hs
  · rename_i hbackup _
    obtain rfl := Option.some.inj hs
    have hr : t.runtime.state.running = true := h.agrees.backup.trans (congrArg Option.isSome hbackup)
    exact h.of_quiet ⟨rfl, rfl, rfl, rfl⟩ (begin_retention_section_activity _ _ now hr)
      (congrArg Option.isSome hbackup).symm
  · cases hs

protected theorem step {l : Section} (h : Consistent t) (hk : t.undisturbed l = true) (hs : t.step ext l = some u) :
    Consistent u := by
  cases l with
  | request command elevated io =>
    simp only [Threads.step] at hs
    split at hs
    · exact h.request ‹_› hs
    · cases hs
  | serve io => exact h.serve hk hs
  | single l =>
    simp only [Threads.step] at hs
    split at hs
    · exact h.single ‹_› hk hs
    · cases hs
  | copySchedule now conditions =>
    simp only [Threads.step] at hs
    split at hs
    · obtain rfl := Option.some.inj hs
      exact ⟨h.agrees, h.running, fun he _ => he, h.ipc⟩
    · cases hs
  | evaluate =>
    simp only [Threads.step] at hs
    split at hs
    · rename_i hl
      obtain ⟨⟨state, action⟩, hsection, rfl⟩ := Option.map_eq_some_iff.1 hs
      exact h.evaluate hl hk hsection
    · cases hs
  | readInterval =>
    simp only [Threads.step] at hs
    split at hs
    · obtain rfl := Option.some.inj hs
      exact ⟨h.agrees, h.running, (fun he => by cases he), h.ipc⟩
    · cases hs
  | finishBackup now written =>
    simp only [Threads.step] at hs
    split at hs
    · obtain ⟨runtime, hf, rfl⟩ := Option.map_eq_some_iff.1 hs
      obtain ⟨hc, ha, -⟩ := finish_backup_with_ended hf
      exact h.of_same hc (h.agrees.finish_backup ha) (fun hr => by cases (congrArg Activity.running ha).symm.trans hr)
        (fun he => by cases he) (.inl rfl)
    · cases hs
  | copyRepository operation outcome =>
    simp only [Threads.step] at hs
    split at hs
    · obtain rfl := Option.some.inj hs
      exact ⟨h.agrees, h.running, (fun he => by cases he), h.ipc⟩
    · cases hs
  | finishRepository now written =>
    simp only [Threads.step] at hs
    split at hs
    · rename_i config operation outcome _
      obtain rfl := Option.some.inj hs
      have hr (ho : t.runtime.state.repository_operation = .Running operation) : t.runtime.state.running = false :=
        h.agrees.exclusive.not_running_of_operation (congrArg RepositoryOperationStatus.isRunning ho)
      rcases finish_repository_section_ended config operation outcome now written hr with he | ⟨ho, he⟩
      · rw [he]
        exact ⟨h.agrees, h.running, (fun he => by cases he), h.ipc⟩
      · obtain ⟨status, -, ha⟩ := he.activity
        exact h.of_same he.same_config (h.agrees.finish_repository ho he)
          (fun hr => (congrArg Activity.running ha).symm.trans hr) (fun he => by cases he) (.inl rfl)
    · cases hs
  | readRetention outcome =>
    simp only [Threads.step] at hs
    split at hs
    · split at hs
      · obtain rfl := Option.some.inj hs
        exact ⟨h.agrees, h.running, h.loop, h.ipc⟩
      · cases hs
    · cases hs
  | beginRetention now => exact h.begin_retention hs

end Consistent

namespace Threads

variable {ext : External} {t : Threads}

theorem Starts.consistent (h : Starts ext t) : Consistent t := by
  obtain ⟨hs⟩ := h
  obtain ⟨hb, he, hu, -, ha⟩ := hs.quiet
  have hagrees := hs.sound
  rw [System.Sound, hb, he, hu] at hagrees
  exact ⟨hagrees, fun hr => absurd ((congrArg Activity.running ha).symm.trans hr) (by simp), nofun, trivial⟩

/-- In every undisturbed run, at every section: an evaluation that is about to
start a backup finds a configured configuration in force; and as long as there
is a backup worker, from that start to the completion, the status is a running one. -/
theorem backup_starts_configured_and_shows {t₀ : Threads} {ls : List Section} (h₀ : Starts ext t₀)
    (h : Run (step ext) (fun t l => t.undisturbed l = true) t₀ ls t) :
    (∀ config now conditions state trigger, t.loop = .evaluating config now conditions →
      evaluate_section config t.runtime.state now conditions = some (state, .Start trigger) →
      t.runtime.config.is_configured = true) ∧
    (t.backup.isSome = true → t.runtime.state.running = true) := by
  have hc : Consistent t := h.inv Consistent (fun _ _ _ hc hk hs => hc.step hk hs) h₀.consistent
  refine ⟨fun config now conditions state trigger hl hs => ?_, fun hb => hc.agrees.backup.trans hb⟩
  cases evaluate_section_evaluated hc.agrees.exclusive.restores hs with
  | started _ configured _ allows _ _ => exact hc.loop (by rw [hl]; exact configured) allows

namespace OfficeDevice

open System.OfficeServer (external management)
open System.HomeDevice (conditions)

def loc : LocalConfig := { management }

/-- The policy recommends all that the device backs up, and where to. -/
def policy : ManagedPolicy where
  revision := "office"
  backup := { paths := some { value := [⟨"C:\\Users"⟩] } }
  repository := { url := some { value := some "E:\\office" } }

def effective : EffectiveConfig where
  backup := { paths := [⟨"C:\\Users"⟩] }
  repository := { url := some "E:\\office" }

def verified : ServiceStateSnapshot := .mark_repository_verified {} effective .UNIX_EPOCH

def runtime : ServiceRuntime :=
  from_resolved_with_state ⟨effective, some "office", ((choose_all {} loc (some policy)).run ∅).2⟩ loc verified
    ⟨none, .contents loc⟩ none (.contents ⟨STATE_SCHEMA_VERSION, verified⟩) .missing .UNIX_EPOCH

def started : Threads := ⟨runtime, none, false, .idle, .idle, none⟩

theorem runtime_starts : System.Starts external ⟨runtime, .UNIX_EPOCH, none, false, false, some policy⟩ :=
  .loaded ⟨none, .contents loc⟩ none (.contents ⟨STATE_SCHEMA_VERSION, verified⟩) .missing (by decide)

theorem started_starts : Starts external started := .mk runtime_starts

def io : RequestIo := .quiet .UNIX_EPOCH

/-- The sources are edited while an evaluation holds its copy. -/
def edited (paths : List PathBuf) : List Section :=
  [.copySchedule .UNIX_EPOCH conditions, .request (.UpdateBackupSources (some paths) none) true io, .serve io]

theorem emptied_isSome : (runList (step external) (fun _ _ => True) started (edited [])).isSome := by decide

/-- A backup starts between the check and the writes of an unenrollment, which leaves nothing to back up. -/
def left : List Section :=
  [.request .Unenroll true io, .copySchedule .UNIX_EPOCH conditions, .evaluate, .serve io, .serve io]

theorem left_isSome : (runList (step external) (fun _ _ => True) started left).isSome := by decide

/-- A backup of nothing starts, and the status of a running one is overwritten. -/
theorem backup_of_nothing_and_hidden_backup : Starts external started ∧
    (∃ t, Run (step external) (fun _ _ => True) started (edited []) t ∧
      t.loop = .evaluating effective .UNIX_EPOCH conditions ∧
      (evaluate_section effective t.runtime.state .UNIX_EPOCH conditions).map (·.2) = some (.Start .Scheduled) ∧
      t.runtime.config.is_configured = false) ∧
    ∃ t, Run (step external) (fun _ _ => True) started left t ∧ t.backup.isSome = true ∧
      t.runtime.state.status.state = .Unconfigured :=
  ⟨started_starts, ⟨_, .of_isSome emptied_isSome, rfl, by decide, by decide⟩,
    ⟨_, .of_isSome left_isSome, by decide, by decide⟩⟩

def photos : List PathBuf := [⟨"D:\\Photos"⟩]

theorem moved_isSome :
    (runList (step external) (fun t l => t.undisturbed l = true) started (edited photos)).isSome := by decide

theorem running_isSome :
    (runList (step external) (fun t l => t.undisturbed l = true) started (edited photos ++ [.evaluate])).isSome := by
  decide

theorem moved_starts : (evaluate_section effective
    ((runList (step external) (fun t l => t.undisturbed l = true) started (edited photos)).get
      moved_isSome).runtime.state .UNIX_EPOCH conditions).map (·.2) = some (.Start .Scheduled) := by decide

/-- Sources that change and do not vanish: the backup starts, and shows. -/
theorem moved_sources_are_backed_up :
    ((runList (step external) (fun t l => t.undisturbed l = true) started (edited photos)).get
      moved_isSome).runtime.config.is_configured = true ∧
    ((runList (step external) (fun t l => t.undisturbed l = true) started (edited photos ++ [.evaluate])).get
      running_isSome).runtime.state.running = true := by
  obtain ⟨⟨state, action⟩, he, rfl⟩ := Option.map_eq_some_iff.1 moved_starts
  exact ⟨(backup_starts_configured_and_shows started_starts (.of_isSome moved_isSome)).1 _ _ _ _ _ rfl he,
    (backup_starts_configured_and_shows started_starts (.of_isSome running_isSome)).2 (by decide)⟩

end OfficeDevice

end Threads

end ResticPal
