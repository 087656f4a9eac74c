import ResticPal.System.EventLoop
/-!
# Stopping the service

The end of `run_event_loop`: the `Stop` event, the cancellation of what is active
and `drain_cancelled_operations`, which records the outcomes of what was
cancelled and drops all other events. The other threads go on meanwhile.

- `shutdown_is_orderly`: once `Stop` is taken nothing is started, what was active
  has been told to end, and unless the time for it runs out the service stops
  with every outcome recorded.
-/

open Lib

namespace ResticPal

/-- How far the event loop is. Once it has taken `Stop`, `taken` is the loop at that moment. -/
inductive ShutdownPhase where
  | running
  | draining (taken : EventLoop)
  /-- The loop is over; `expired` is whether it has run out of time. -/
  | stopped (taken : EventLoop) (expired : Bool)

def ShutdownPhase.taken : ShutdownPhase → Option EventLoop
  | .running => none
  | .draining taken | .stopped taken _ => some taken

structure Shutdown where
  loop : EventLoop
  /-- A `Stop` in the queue, by the number of events before it. -/
  ahead : Option Nat
  phase : ShutdownPhase
  /-- The events thrown away while draining. -/
  dropped : List RuntimeEvent

inductive ShutdownLabel where
  | loop (l : LoopLabel)
  /-- The service control handler sends `Stop`. Only the first one counts. -/
  | stop
  | takeStop
  /-- One turn of `drain_cancelled_operations`, and its two ends. -/
  | drain (now : DateTime) (written : Bool)
  | drained
  | expire

/-- The step belongs to another thread than the event loop. -/
def LoopLabel.elsewhere : LoopLabel → Bool
  | .thread _ | .notify _ | .endRepository _ | .endUpdate _ => true
  | .take _ _ _ | .timeout | .evaluate _ _ _ | .giveUp _ _ => false

/-- The loop waits for an event. -/
def LoopLabel.receives : LoopLabel → Bool
  | .take _ _ _ | .timeout => true
  | _ => false

def LoopLabel.takes : LoopLabel → Bool
  | .take _ _ _ => true
  | _ => false

namespace Shutdown

def start (s : System) : Shutdown := ⟨.start s, none, .running, []⟩

/-- Tell what is active to end. -/
def cancel (c : EventLoop) : EventLoop :=
  { c with cancelled := c.active_repository_operation.toList ++ (c.active_backup.toList ++ c.cancelled) }

/-- The arms of `drain_cancelled_operations`, with the event already off the queue. -/
def drain_event (ext : External) (w : Shutdown) (now : DateTime) (written : Bool) : RuntimeEvent → Option Shutdown
  | .BackupFinished _ => (w.loop.record ext (.finishBackup now written) ({ · with active_backup := none })).map
      fun loop => { w with loop }
  | .RepositoryOperationFinished operation outcome =>
    (w.loop.record ext (.finishRepository operation outcome now written) ({ · with active_repository_operation := none })).map
      fun loop => { w with loop }
  | event => some { w with dropped := w.dropped ++ [event] }

def step (ext : External) (w : Shutdown) : ShutdownLabel → Option Shutdown
  | .loop l => match w.phase with
    | .running =>
      if l.receives && w.ahead == some 0 then none
      else (w.loop.step ext l).map fun loop => { w with loop, ahead := if l.takes then w.ahead.map (· - 1) else w.ahead }
    | .draining _ => if l.elsewhere then (w.loop.step ext l).map fun loop => { w with loop } else none
    | .stopped _ _ => none
  | .stop => match w.phase, w.ahead with
    | .running, none => some { w with ahead := some w.loop.queue.length }
    | _, _ => none
  | .takeStop => match w.phase with
    | .running =>
      if w.loop.doing = .nothing ∧ w.ahead = some 0 then
        some { w with loop := cancel w.loop, ahead := none, phase := .draining w.loop }
      else none
    | _ => none
  | .drain now written => match w.phase, w.loop.queue with
    | .draining _, event :: queue =>
      if w.loop.conflict then drain_event ext { w with loop := { w.loop with queue } } now written event else none
    | _, _ => none
  | .drained => match w.phase with
    | .draining taken => if w.loop.conflict then none else some { w with phase := .stopped taken false }
    | _ => none
  | .expire => match w.phase with
    | .draining taken => if w.loop.conflict then some { w with phase := .stopped taken true } else none
    | _ => none

variable {ext : External} {w w' : Shutdown}

/-! ## Winding up -/

/-- Since `Stop` was taken nothing was started, and what was active then has been told to end. -/
structure Winding (taken c : EventLoop) : Prop where
  idle : c.doing = .nothing
  backup : c.active_backup = none ∨ c.active_backup = taken.active_backup
  repository : c.active_repository_operation = none ∨ c.active_repository_operation = taken.active_repository_operation
  repository_worker : c.repository_worker = none ∨ c.repository_worker = taken.repository_worker
  update_worker : c.update_worker = true → taken.update_worker = true
  cancelled : ∀ token, token ∈ taken.active_backup ∨ token ∈ taken.active_repository_operation → token ∈ c.cancelled

theorem Winding.of_cancel {c : EventLoop} (h : c.doing = .nothing) : Winding c (cancel c) := by
  refine ⟨h, .inr rfl, .inr rfl, .inr rfl, id, fun token htoken => ?_⟩
  simp only [cancel, List.mem_append, Option.mem_toList]
  rcases htoken with htoken | htoken
  · exact .inr (.inl htoken)
  · exact .inl htoken

/-- The other threads start nothing. -/
theorem Winding.elsewhere {taken c d : EventLoop} {l : LoopLabel} (h : Winding taken c) (hs : c.step ext l = some d)
    (hl : l.elsewhere = true) : Winding taken d := by
  cases EventLoop.step_turned hs with
  | thread | notified => exact ⟨h.idle, h.backup, h.repository, h.repository_worker, h.update_worker, h.cancelled⟩
  | endedRepository => exact ⟨h.idle, h.backup, h.repository, .inl rfl, h.update_worker, h.cancelled⟩
  | endedUpdate => exact ⟨h.idle, h.backup, h.repository, h.repository_worker, nofun, h.cancelled⟩
  | took | timedOut | skipped | evaluated | started | failedToStart | gaveUp => cases hl

/-! ## The events that are dropped -/

/-- The loop, had it kept the events it has dropped. -/
def kept (w : Shutdown) : EventLoop := { w.loop with queue := w.dropped ++ w.loop.queue }

structure Ok (w : Shutdown) : Prop where
  protocol : w.kept.Protocol
  running : w.phase = .running → w.dropped = []
  /-- Nobody's answer is dropped. -/
  dropped : w.dropped.filterMap RuntimeEvent.finished = [] ∧ w.dropped.filterMap RuntimeEvent.outcome = []
  winding : ∀ taken, w.phase.taken = some taken → Winding taken w.loop
  stopped : ∀ taken, w.phase = .stopped taken false → w.loop.conflict = false

namespace Ok

theorem start {s₀ : System} (h₀ : System.Starts ext s₀) : Ok (start s₀) :=
  ⟨.of_starts h₀, fun _ => rfl, ⟨rfl, rfl⟩, (fun _ h => by cases h), fun _ h => by cases h⟩

/-- The other threads only add to the queue. -/
theorem protocol_elsewhere {l : LoopLabel} {loop : EventLoop} (h : w.kept.Protocol) (hs : w.loop.step ext l = some loop)
    (hl : l.elsewhere = true) : { w with loop }.kept.Protocol := by
  unfold kept
  cases EventLoop.step_turned hs with
  | thread other steps =>
    dsimp only
    rw [← List.append_assoc]
    exact h.thread other steps
  | @notified event notice =>
    dsimp only
    rw [← List.append_assoc]
    exact h.step (show EventLoop.step ext w.kept (.notify event) = some { w.kept with queue := w.kept.queue ++ [event] } from
      if_pos notice)
  | endedRepository worker =>
    dsimp only
    rw [← List.append_assoc]
    exact h.ended_repository worker _
  | endedUpdate worker =>
    dsimp only
    rw [← List.append_assoc]
    exact h.ended_update worker _
  | took | timedOut | skipped | evaluated | started | failedToStart | gaveUp => cases hl

theorem of_draining {taken : EventLoop} (hphase : w.phase = .draining taken) (hprotocol : w.kept.Protocol)
    (hdropped : w.dropped.filterMap RuntimeEvent.finished = [] ∧ w.dropped.filterMap RuntimeEvent.outcome = [])
    (hwinding : Winding taken w.loop) : Ok w := by
  refine ⟨hprotocol, fun h => ?_, hdropped, fun taken' h => ?_, fun taken' h => ?_⟩
  · rw [hphase] at h
    cases h
  · rw [hphase] at h
    cases h
    exact hwinding
  · rw [hphase] at h
    cases h

/-- An answer that is taken while draining, brought to the front. -/
theorem front {event : RuntimeEvent} {queue : List RuntimeEvent} (h : Ok w) (hqueue : w.loop.queue = event :: queue)
    (hrequested : event.requested = none) (hupdate : event.isUpdate = false) :
    EventLoop.Protocol { w.loop with queue := event :: (w.dropped ++ queue) } := by
  have hkept : w.kept.queue = w.dropped ++ event :: queue := congrArg (w.dropped ++ ·) hqueue
  have hmove {β : Type} {f : RuntimeEvent → Option β} (hnone : w.dropped.filterMap f = []) :
      (event :: (w.dropped ++ queue)).filterMap f = w.kept.queue.filterMap f := by
    simp only [hkept, List.filterMap_cons, List.filterMap_append, hnone, List.nil_append]
  refine h.protocol.of_queue ?_ (hmove h.dropped.1) ?_ (hmove h.dropped.2)
  · simp [hkept, hrequested]
  · simp [hkept, hupdate]

theorem drain_event {event : RuntimeEvent} {queue : List RuntimeEvent} {taken : EventLoop} {now : DateTime} {written : Bool}
    (h : Ok w) (hphase : w.phase = .draining taken) (hqueue : w.loop.queue = event :: queue)
    (hs : Shutdown.drain_event ext { w with loop := { w.loop with queue } } now written event = some w') : Ok w' := by
  obtain ⟨hidle, hbackup, hrepository, hworker, hupdate, hcancelled⟩ := h.winding taken (congrArg ShutdownPhase.taken hphase)
  have hother (hfinished : event.finished = none) (houtcome : event.outcome = none) :
      Ok { w with loop := { w.loop with queue }, dropped := w.dropped ++ [event] } := by
    refine of_draining hphase ?_ ?_ ⟨hidle, hbackup, hrepository, hworker, hupdate, hcancelled⟩
    · have hkept := h.protocol
      unfold kept at hkept ⊢
      dsimp only
      rw [List.append_assoc, List.singleton_append, ← hqueue]
      exact hkept
    · rw [List.filterMap_append, List.filterMap_append, h.dropped.1, h.dropped.2]
      simp [hfinished, houtcome]
  cases event with
  | BackupFinished outcome =>
    simp only [Shutdown.drain_event] at hs
    obtain ⟨loop, hrecord, rfl⟩ := Option.map_eq_some_iff.1 hs
    obtain ⟨system, hstep, rfl⟩ := EventLoop.record_eq_some hrecord
    have hfront := h.front hqueue rfl rfl
    refine of_draining hphase ?_ h.dropped ⟨hidle, .inl rfl, hrepository, hworker, hupdate, hcancelled⟩
    exact hfront.finished_backup hstep rfl rfl rfl (hfront.outcome_first rfl hidle) (by rw [hidle]; decide)
  | RepositoryOperationFinished operation outcome =>
    simp only [Shutdown.drain_event] at hs
    obtain ⟨loop, hrecord, rfl⟩ := Option.map_eq_some_iff.1 hs
    obtain ⟨system, hstep, rfl⟩ := EventLoop.record_eq_some hrecord
    have hfront := h.front hqueue rfl rfl
    refine of_draining hphase ?_ h.dropped ⟨hidle, hbackup, .inl rfl, hworker, hupdate, hcancelled⟩
    exact hfront.finished_repository hstep rfl (.inr rfl) w.loop.tokens
  | _ =>
    cases hs
    exact hother rfl rfl

protected theorem step (h : Ok w) {l : ShutdownLabel} (hs : w.step ext l = some w') : Ok w' := by
  cases l with
  | loop l =>
    simp only [Shutdown.step] at hs
    split at hs
    · rename_i hphase
      split at hs
      · cases hs
      · obtain ⟨loop, hloop, rfl⟩ := Option.map_eq_some_iff.1 hs
        have hnone := h.running hphase
        refine ⟨?_, fun _ => hnone, h.dropped, fun taken hr => ?_, fun taken hr => ?_⟩
        · have hprotocol := h.protocol
          unfold kept at hprotocol ⊢
          rw [hnone] at hprotocol ⊢
          exact hprotocol.step hloop
        · exact absurd (hphase ▸ hr) nofun
        · exact absurd (hphase.symm.trans hr) nofun
    · rename_i taken hphase
      split at hs
      · rename_i helsewhere
        obtain ⟨loop, hloop, rfl⟩ := Option.map_eq_some_iff.1 hs
        exact of_draining hphase (protocol_elsewhere h.protocol hloop helsewhere) h.dropped
          ((h.winding taken (congrArg ShutdownPhase.taken hphase)).elsewhere hloop helsewhere)
      · cases hs
    · cases hs
  | stop =>
    simp only [Shutdown.step] at hs
    split at hs
    · cases hs
      exact ⟨h.protocol, h.running, h.dropped, h.winding, h.stopped⟩
    · cases hs
  | takeStop =>
    simp only [Shutdown.step] at hs
    split at hs
    · rename_i hphase
      split at hs
      · rename_i hnext
        cases hs
        refine of_draining rfl ?_ h.dropped (.of_cancel hnext.1)
        obtain ⟨hsound, hoperations, hupdates, hbackup, hrepository, houtcomes, hfailing⟩ := h.protocol
        exact ⟨hsound, hoperations, hupdates, hbackup, hrepository, houtcomes, hfailing⟩
      · cases hs
    · cases hs
  | drain now written =>
    simp only [Shutdown.step] at hs
    split at hs
    · rename_i taken event queue hphase hqueue
      split at hs
      · exact h.drain_event hphase hqueue hs
      · cases hs
    · cases hs
  | drained =>
    simp only [Shutdown.step] at hs
    split at hs
    · rename_i taken hphase
      split at hs
      · cases hs
      · rename_i hnone
        cases hs
        refine ⟨h.protocol, (fun hr => by cases hr), h.dropped, fun taken' hr => ?_, fun _ _ => by simpa using hnone⟩
        cases hr
        exact h.winding taken (congrArg ShutdownPhase.taken hphase)
    · cases hs
  | expire =>
    simp only [Shutdown.step] at hs
    split at hs
    · rename_i taken hphase
      split at hs
      · cases hs
        refine ⟨h.protocol, (fun hr => by cases hr), h.dropped, fun taken' hr => ?_, fun _ hr => by cases hr⟩
        cases hr
        exact h.winding taken (congrArg ShutdownPhase.taken hphase)
      · cases hs
    · cases hs

/-- Nothing is active any more: every worker is done, and no answer is left that was not recorded. -/
theorem settled (h : Ok w) (hnone : w.loop.conflict = false) : w.loop.system.backup = none ∧
    w.loop.repository_worker = none ∧ w.loop.queue.filterMap RuntimeEvent.finished = [] ∧
    w.loop.queue.filterMap RuntimeEvent.outcome = [] := by
  obtain ⟨hactive, hoperation⟩ := Bool.or_eq_false_iff.1 hnone
  have hbackup : w.loop.system.backup = none :=
    Option.isNone_iff_eq_none.1 (Option.isSome_eq_false_iff.1 (h.protocol.backup.symm.trans hactive))
  have hrepository := h.protocol.repository.symm.trans hoperation
  simp only [Bool.not_eq_false', List.isEmpty_iff, List.append_eq_nil_iff] at hrepository
  obtain ⟨hworker, hfinished⟩ := hrepository
  have houtcomes : w.kept.queue.filterMap RuntimeEvent.outcome = [] := by
    have houtcome : w.loop.system.outcome = none := by rw [System.outcome, hbackup]
    rw [h.protocol.outcomes]
    split
    · rfl
    · exact congrArg Option.toList houtcome
  unfold kept at hfinished houtcomes
  rw [List.filterMap_append, List.append_eq_nil_iff] at hfinished houtcomes
  exact ⟨hbackup, Option.toList_eq_nil_iff.1 hworker, hfinished.2, houtcomes.2⟩

end Ok

/-- In every run, once the loop has taken `Stop`: no backup, repository operation or update is started, whatever was
active then has been told to end, and a service that stops in time stops with no backup or repository worker left
and with all their outcomes recorded. -/
theorem shutdown_is_orderly {s₀ : System} {ls : List ShutdownLabel} (h₀ : System.Starts ext s₀)
    (h : Run (step ext) (fun _ _ => True) (start s₀) ls w) {taken : EventLoop} (htaken : w.phase.taken = some taken) :
    Winding taken w.loop ∧ (w.loop.system.backup.isSome = true → taken.active_backup.isSome = true) ∧
      (w.phase = .stopped taken false → w.loop.system.runtime.state.running = false ∧ w.loop.system.backup = none ∧
        w.loop.repository_worker = none ∧ w.loop.queue.filterMap RuntimeEvent.finished = [] ∧
        w.loop.queue.filterMap RuntimeEvent.outcome = []) := by
  have hok : Ok w := h.inv Ok (fun _ _ _ hok _ hs => hok.step hs) (.start h₀)
  have hwinding := hok.winding taken htaken
  refine ⟨hwinding, fun hbackup => ?_, fun hstopped => ?_⟩
  · have hactive : w.loop.active_backup.isSome = true := hok.protocol.backup.trans hbackup
    rcases hwinding.backup with hnone | hsame
    · rw [hnone] at hactive
      cases hactive
    · exact hsame ▸ hactive
  · have hsettled := hok.settled (hok.stopped taken hstopped)
    exact ⟨hok.protocol.sound.backup.trans (congrArg Option.isSome hsettled.1), hsettled⟩

namespace StoppedValidation

open EventLoop.Validation (started runtime_loads)

/-- A validation is under way when the service is told to stop. -/
def labels : List ShutdownLabel :=
  [.loop (.evaluate .UNIX_EPOCH System.HomeDevice.conditions true),
    .loop (.thread (.request .ValidateRepository true (.quiet .UNIX_EPOCH))), .loop (.take .UNIX_EPOCH true true),
    .stop, .takeStop, .loop (.notify .TimeChanged), .loop (.endRepository .Cancelled),
    .drain .UNIX_EPOCH true, .drain .UNIX_EPOCH true, .drained]

def stopped : Option Shutdown := runList (step .inert) (fun _ _ => True) (start started) labels

theorem stopped_isSome : stopped.isSome := by decide

theorem validation_is_recorded : ∃ w ∈ stopped, ∃ taken, w.phase = .stopped taken false ∧
    taken.active_repository_operation = some 0 ∧ 0 ∈ w.loop.cancelled ∧ w.loop.repository_worker = none ∧
    w.loop.queue.filterMap RuntimeEvent.finished = [] := by
  refine ⟨_, Option.get_mem stopped_isSome, _, rfl, rfl, ?_⟩
  obtain ⟨hwinding, -, hsettled⟩ := shutdown_is_orderly (.loaded _ _ _ _ runtime_loads) (.of_isSome stopped_isSome) rfl
  obtain ⟨-, -, hworker, hfinished, -⟩ := hsettled rfl
  exact ⟨hwinding.cancelled 0 (.inr rfl), hworker, hfinished⟩

end StoppedValidation

end Shutdown

end ResticPal
