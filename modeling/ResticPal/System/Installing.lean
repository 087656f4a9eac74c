import ResticPal.Service.Installer
import ResticPal.System.EventLoop
/-!
# The service beside its installer

The event loop together with the process of the installer that an update worker
starts. The worker's calls on that process are the ones `Updater.install`
makes, one at a time, and anything may happen between them.

- `nothing_starts_beside_an_installer`: while an installer may be running,
  nothing else is under way, nothing starts, and no step changes what the
  installer could trip over.
-/

open Lib

namespace ResticPal

open Updater (Launch)

/-! ## What a turn of the loop leaves -/

namespace EventLoop

variable {ext : External} {c d : EventLoop} {l : LoopLabel}

/-- The runtime makes steps, the events that were not taken stay, and only its report ends an update worker. -/
structure Kept (ext : External) (c d : EventLoop) (queue : List RuntimeEvent) : Prop where
  queue : queue ⊆ d.queue
  worker : c.update_worker = true → d.update_worker = true
  system : ∃ labels, Run (System.step ext) (fun _ _ => True) c.system labels d.system

theorem Kept.idle {queue : List RuntimeEvent} (hqueue : queue ⊆ d.queue)
    (hworker : c.update_worker = true → d.update_worker = true) (hsystem : d.system = c.system) : Kept ext c d queue :=
  ⟨hqueue, hworker, [], hsystem ▸ .nil⟩

theorem Kept.one {label : Label} {queue : List RuntimeEvent} (hqueue : queue ⊆ d.queue)
    (hworker : d.update_worker = c.update_worker) (hs : c.system.step ext label = some d.system) : Kept ext c d queue :=
  ⟨hqueue, fun h => hworker.trans h, [label], .snoc .nil trivial hs⟩

theorem record_kept {label : Label} {f : EventLoop → EventLoop} (h : c.record ext label f = some d)
    (hf : ∀ c, (f c).queue = c.queue ∧ (f c).update_worker = c.update_worker ∧ (f c).system = c.system) :
    Kept ext c d c.queue := by
  obtain ⟨system, hs, rfl⟩ := record_eq_some h
  obtain ⟨hqueue, hworker, hsystem⟩ := hf { c with system }
  have hstep : c.system.step ext label = some (f { c with system }).system := by
    rw [hsystem]
    exact hs
  refine .one ?_ hworker hstep
  rw [hqueue]
  exact List.Subset.refl _

theorem handle_kept {event : RuntimeEvent} {now : DateTime} {spawns written : Bool}
    (h : handle ext c now spawns written event = some d) : Kept ext c d c.queue := by
  cases event with
  | RunNow | PowerStatusChanged | TimeChanged | Deferred | ConfigurationChanged | Cancel =>
    cases h
    exact .idle (List.Subset.refl _) id rfl
  | BackupFinished | RepositoryOperationFinished | UpdateInstallFinished | Resume =>
    unfold handle at h
    exact record_kept h fun _ => ⟨rfl, rfl, rfl⟩
  | RepositoryOperationRequested | UpdateInstallRequested =>
    unfold handle at h
    dsimp only at h
    split at h
    · exact record_kept h fun _ => ⟨rfl, rfl, rfl⟩
    split at h
    · cases h
      exact .idle (List.Subset.refl _) (fun h => by first | exact h | rfl) rfl
    · exact record_kept h fun _ => ⟨rfl, rfl, rfl⟩

/-- An event leaves the queue only when it is taken. -/
theorem step_kept (h : step ext c l = some d) (hl : ∀ outcome, l ≠ .endUpdate outcome) : ∃ queue, Kept ext c d queue ∧
    (c.queue = queue ∨ ∃ now spawns written event, c.queue = event :: queue ∧
      handle ext { c with queue } now spawns written event = some d) := by
  cases step_turned h with
  | thread other steps => exact ⟨_, .one (List.subset_append_left _ _) rfl steps, .inl rfl⟩
  | notified | endedRepository => exact ⟨_, .idle (List.subset_append_left _ _) id rfl, .inl rfl⟩
  | endedUpdate => exact absurd rfl (hl _)
  | took idle head handles =>
    obtain ⟨hqueue, hworker, hsystem⟩ := handle_kept handles
    exact ⟨_, ⟨hqueue, hworker, hsystem⟩, .inr ⟨_, _, _, _, head, handles⟩⟩
  | timedOut | skipped => exact ⟨_, .idle (List.Subset.refl _) id rfl, .inl rfl⟩
  | evaluated evaluating inactive evaluates steps | started evaluating inactive evaluates steps =>
    exact ⟨_, .one (List.Subset.refl _) rfl steps, .inl rfl⟩
  | failedToStart evaluating inactive evaluates steps fails =>
    exact ⟨_, ⟨List.Subset.refl _, id, [_, _], .cons trivial steps (.snoc .nil trivial fails)⟩, .inl rfl⟩
  | gaveUp failing steps => exact ⟨_, .one (List.Subset.refl _) rfl steps, .inl rfl⟩

end EventLoop

/-! ## The update worker and its installer -/

/-- The event loop, what the update worker has yet to do and the outcome it will report, and the installer. -/
structure Supervised where
  service : EventLoop
  worker : Option (List (JobEvent Launch) × UpdateInstallOutcome)
  installer : Child

inductive SupervisedLabel where
  | loop (l : LoopLabel)
  /-- The update worker begins, and finds the system and the staging directory so. -/
  | install (package : UpdatePackage) (staging : Updater.Staging) (io : Updater.UpdateIo)
  /-- The worker's next call on the installer. -/
  | call
  | report

namespace Supervised

def start (s : System) : Supervised := ⟨.start s, none, .absent⟩

def step (ext : External) (w : Supervised) : SupervisedLabel → Option Supervised
  | .loop (.endUpdate _) => none
  | .loop l => (w.service.step ext l).map fun service => { w with service }
  | .install package staging io =>
    if w.service.update_worker && w.worker.isNone then
      (Updater.install ext package staging io).map fun (outcome, trace) => { w with worker := some (trace, outcome) }
    else none
  | .call => match w.worker with
    | some (event :: rest, outcome) => (w.installer.step event).map fun installer =>
        { w with worker := some (rest, outcome), installer }
    | _ => none
  | .report => match w.worker with
    | some ([], outcome) => (w.service.step ext (.endUpdate outcome)).map fun service => { w with service, worker := none }
    | _ => none

variable {ext : External} {w w' : Supervised}

/-- An installer that may be running belongs to a worker that is not done, to an outcome that says so and is not
recorded yet, or to a service that will not start anything again. -/
structure Tended (w : Supervised) : Prop where
  protocol : w.service.Protocol
  working : ∀ trace outcome, w.worker = some (trace, outcome) → w.service.update_worker = true ∧
    ∃ after, Orderly w.installer trace after ∧ (Quiet after ∨ ∃ code, outcome = .Indeterminate code)
  idle : w.worker = none → Quiet w.installer ∨ (∃ code, .UpdateInstallFinished (.Indeterminate code) ∈ w.service.queue) ∨
    w.service.system.Stuck

namespace Tended

theorem start {s₀ : System} (h₀ : System.Starts ext s₀) : Tended (.start s₀) :=
  ⟨.of_starts h₀, nofun, fun _ => .inl (.inl rfl)⟩

/-- An update that a worker or an event answers for is pending. -/
theorem pending_of_worker {c : EventLoop} (h : c.Protocol) (hw : c.update_worker = true) : c.system.update = true := by
  have hupdates := h.updates
  rw [EventLoop.updates, hw] at hupdates
  cases hu : c.system.update with
  | true => rfl
  | false =>
    rw [hu] at hupdates
    simp at hupdates

theorem pending_of_event {c : EventLoop} (h : c.Protocol) {event : RuntimeEvent} (hmem : event ∈ c.queue)
    (hevent : event.isUpdate = true) : c.system.update = true ∧ c.update_worker = false := by
  have hpos := List.length_pos_of_mem (List.mem_filter.2 ⟨hmem, hevent⟩)
  have hupdates := h.updates
  unfold EventLoop.updates at hupdates
  cases hu : c.system.update with
  | true =>
    refine ⟨rfl, ?_⟩
    rw [hu] at hupdates
    cases hw : c.update_worker with
    | false => rfl
    | true =>
      rw [hw] at hupdates
      simp only [Bool.toNat_true] at hupdates
      omega
  | false =>
    rw [hu] at hupdates
    simp only [Bool.toNat_false] at hupdates
    omega

/-- A worker begins beside no installer. -/
theorem quiet_of_beginning (h : Tended w) (hworker : w.service.update_worker = true) (hnone : w.worker = none) :
    Quiet w.installer := by
  rcases h.idle hnone with hquiet | ⟨code, hmem⟩ | hstuck
  · exact hquiet
  · rw [(pending_of_event h.protocol hmem rfl).2] at hworker
    cases hworker
  · have hpending := pending_of_worker h.protocol hworker
    rw [hstuck.update] at hpending
    cases hpending

theorem stuck_run {s u : System} {labels : List Label} (hrun : Run (System.step ext) (fun _ _ => True) s labels u)
    (hsound : s.Sound) (hstuck : s.Stuck) : u.Stuck :=
  (hrun.inv (fun s => s.Sound ∧ s.Stuck) (fun _ _ _ ⟨hsound, hstuck⟩ _ hs => ⟨hsound.step hs, hstuck.step hsound hs⟩)
    ⟨hsound, hstuck⟩).2

theorem loop (h : Tended w) {l : LoopLabel} {service : EventLoop} (hs : w.service.step ext l = some service)
    (hl : ∀ outcome, l ≠ .endUpdate outcome) : Tended { w with service } := by
  obtain ⟨queue, hkept, htaken⟩ := EventLoop.step_kept hs hl
  refine ⟨h.protocol.step hs, fun trace outcome hw => ?_, fun hnone => ?_⟩
  · obtain ⟨hbusy, hinstaller⟩ := h.working trace outcome hw
    exact ⟨hkept.worker hbusy, hinstaller⟩
  · rcases h.idle hnone with hquiet | ⟨code, hmem⟩ | hstuck
    · exact .inl hquiet
    · rcases htaken with rfl | ⟨now, spawns, written, event, hqueue, hhandle⟩
      · exact .inr (.inl ⟨code, hkept.queue hmem⟩)
      · rw [hqueue] at hmem
        rcases List.mem_cons.1 hmem with rfl | hmem
        · unfold EventLoop.handle at hhandle
          obtain ⟨system, hstep, rfl⟩ := EventLoop.record_eq_some hhandle
          exact .inr (.inr (.of_indeterminate h.protocol.sound hstep))
        · exact .inr (.inl ⟨code, hkept.queue hmem⟩)
    · obtain ⟨labels, hrun⟩ := hkept.system
      exact .inr (.inr (stuck_run hrun h.protocol.sound hstuck))

theorem report (h : Tended w) {outcome : UpdateInstallOutcome} (hw : w.worker = some ([], outcome)) {service : EventLoop}
    (hs : w.service.step ext (.endUpdate outcome) = some service) : Tended { w with service, worker := none } := by
  refine ⟨h.protocol.step hs, nofun, fun _ => ?_⟩
  obtain ⟨-, after, horderly, hafter⟩ := h.working [] outcome hw
  obtain rfl : after = w.installer := horderly.eq_of_nil
  rcases hafter with hquiet | ⟨code, rfl⟩
  · exact .inl hquiet
  · cases EventLoop.step_turned hs with
    | endedUpdate => exact .inr (.inl ⟨code, by simp⟩)

protected theorem step (h : Tended w) {l : SupervisedLabel} (hs : w.step ext l = some w') : Tended w' := by
  cases l with
  | loop l =>
    have hl : ∀ outcome, l ≠ .endUpdate outcome := by
      rintro outcome rfl
      cases hs
    have hstep : (w.service.step ext l).map (fun service => { w with service }) = some w' := by
      cases l with
      | endUpdate => cases hs
      | _ => exact hs
    obtain ⟨service, hservice, rfl⟩ := Option.map_eq_some_iff.1 hstep
    exact h.loop hservice hl
  | install package staging io =>
    simp only [Supervised.step] at hs
    split at hs
    · rename_i hbegins
      obtain ⟨hbusy, hnone⟩ := Bool.and_eq_true_iff.1 hbegins
      obtain ⟨⟨outcome, trace⟩, hinstall, rfl⟩ := Option.map_eq_some_iff.1 hs
      refine ⟨h.protocol, fun _ _ hw => ⟨hbusy, ?_⟩, nofun⟩
      cases hw
      exact Updater.install_settled hinstall (h.quiet_of_beginning hbusy (Option.isNone_iff_eq_none.1 hnone))
    · cases hs
  | call =>
    simp only [Supervised.step] at hs
    split at hs
    · rename_i event rest outcome hw
      obtain ⟨installer, hinstaller, rfl⟩ := Option.map_eq_some_iff.1 hs
      obtain ⟨hbusy, after, horderly, hafter⟩ := h.working _ _ hw
      refine ⟨h.protocol, fun _ _ hw => ⟨hbusy, ?_⟩, nofun⟩
      cases hw
      obtain ⟨next, -, hnext, hrest⟩ := Run.uncons horderly
      rw [hinstaller] at hnext
      cases hnext
      exact ⟨after, hrest, hafter⟩
    · cases hs
  | report =>
    simp only [Supervised.step] at hs
    split at hs
    · rename_i outcome hw
      obtain ⟨service, hservice, rfl⟩ := Option.map_eq_some_iff.1 hs
      exact h.report hw hservice
    · cases hs

/-- An installer that may be running has the service to itself. -/
theorem alone (h : Tended w) (hinstaller : ¬ Quiet w.installer) : w.service.system.Guarded ⟨true, none⟩ := by
  have of_pending (hpending : w.service.system.update = true) : w.service.system.Guarded ⟨true, none⟩ := by
    have hactive := h.protocol.sound.update hpending
    obtain ⟨hr, ho, hm⟩ := h.protocol.sound.exclusive.alone_of_install hactive
    exact ⟨fun _ => hactive, (fun _ hd => by cases hd),
      fun _ => ⟨h.protocol.sound.no_worker hr, ho, h.protocol.sound.enrolling.symm.trans hm⟩⟩
  cases hw : w.worker with
  | some worker => exact of_pending (pending_of_worker h.protocol (h.working _ _ hw).1)
  | none =>
    rcases h.idle hw with hquiet | ⟨code, hmem⟩ | hstuck
    · exact absurd hquiet hinstaller
    · exact of_pending (pending_of_event h.protocol hmem rfl).1
    · exact hstuck.guarded

end Tended

/-- In every run, while an installer that the service has started may still be running: no backup, repository
operation or enrollment is under way, none starts at any clock reading, and no step changes the configuration, the
locks, the credentials or the repository operation. -/
theorem nothing_starts_beside_an_installer {s₀ : System} {ls : List SupervisedLabel} (h₀ : System.Starts ext s₀)
    (h : Run (step ext) (fun _ _ => True) (start s₀) ls w) (hinstaller : ¬ Quiet w.installer) :
    w.service.active_backup = none ∧ w.service.active_repository_operation = none ∧ w.service.system.enrolling = false ∧
      ∀ now, System.Closed ext w.service.system now := by
  have htended : Tended w := h.inv Tended (fun _ _ _ ht _ hs => ht.step hs) (.start h₀)
  have hguarded := htended.alone hinstaller
  obtain ⟨hbackup, hoperation, henrolling⟩ := hguarded.idle (.inl rfl)
  refine ⟨?_, ?_, henrolling, fun now => hguarded.closed htended.protocol.sound rfl⟩
  · exact Option.isNone_iff_eq_none.1 (Option.isSome_eq_false_iff.1 (htended.protocol.backup.trans (hbackup ▸ rfl)))
  · by_contra hactive
    have hrunning := htended.protocol.running_of_active (Option.isSome_iff_ne_none.2 hactive)
    rw [hrunning] at hoperation
    cases hoperation

namespace FirstUpdate

/-- An update of a service that found no files, up to the start of its installer. -/
def labels : List SupervisedLabel :=
  [.loop (.evaluate .UNIX_EPOCH System.HomeDevice.conditions true),
    .loop (.thread (.request (.UpdateUpdateSettings true) true (.quiet .UNIX_EPOCH))),
    .loop (.thread (.request (.InstallUpdate Updater.smallPackage) true (.quiet .UNIX_EPOCH))),
    .loop (.take .UNIX_EPOCH true true), .install Updater.smallPackage ⟨fun _ => none, none⟩ Updater.meddled, .call]

def installing : Option Supervised :=
  runList (step Updater.trusting) (fun _ _ => True) (start System.FreshInstall.started) labels

theorem installing_isSome : installing.isSome := by decide +kernel

theorem installer_is_alone : ∃ w ∈ installing, w.installer = .loose ∧ w.service.active_backup = none ∧
    System.Closed Updater.trusting w.service.system .UNIX_EPOCH := by
  have hloose : (installing.get installing_isSome).installer = .loose := by decide +kernel
  have hstarts : System.Starts Updater.trusting System.FreshInstall.started :=
    .loaded ⟨none, .missing⟩ none .missing .missing (by decide)
  have hrunning : ¬ Quiet (installing.get installing_isSome).installer := by
    rw [hloose]
    exact fun h => by rcases h with h | h <;> cases h
  obtain ⟨hbackup, -, -, hclosed⟩ := nothing_starts_beside_an_installer hstarts (.of_isSome installing_isSome) hrunning
  exact ⟨_, Option.get_mem installing_isSome, hloose, hbackup, hclosed _⟩

end FirstUpdate

end Supervised

end ResticPal