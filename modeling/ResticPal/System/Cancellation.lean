import ResticPal.System.EventLoop
/-!
# Whose backup a cancellation cancels

A `Cancel` event carries no run. `Cancellations` remembers, for every `Cancel` in
the queue, the run that was active when the request was accepted.

- `cancel_hits_its_run`: a cancellation signals the run that it was accepted for,
  or none, as long as no backup starts while a `Cancel` is in the queue.
- `LateCancel.next_run_is_cancelled`: a run of the service in which one does.
-/

open Lib

namespace ResticPal

/-- The step is a request to cancel the backup, and it is accepted. -/
def Label.cancels (ext : External) (runtime : ServiceRuntime) : Label → Bool
  | .request .CancelBackup elevated io => (runtime.handle_request ext .CancelBackup elevated io).2.isAccepted
  | _ => false

structure Cancellations where
  loop : EventLoop
  /-- The runs that the queued `Cancel` events were accepted for, in their order. -/
  accepted : List Nat

namespace Cancellations

def start (s : System) : Cancellations := ⟨.start s, []⟩

def accepted_after (ext : External) (c : Cancellations) : LoopLabel → List Nat
  | .thread l =>
    if l.cancels ext c.loop.system.runtime then c.accepted ++ c.loop.active_backup.toList else c.accepted
  | .take _ _ _ => if c.loop.queue.head?.any RuntimeEvent.isCancel then c.accepted.tail else c.accepted
  | _ => c.accepted

def step (ext : External) (c : Cancellations) (l : LoopLabel) : Option Cancellations :=
  (c.loop.step ext l).map (fun loop => ⟨loop, c.accepted_after ext l⟩)

/-- No evaluation decides to start a backup while a `Cancel` is in the queue. -/
def Settled (c : Cancellations) : LoopLabel → Prop
  | .evaluate now conditions _ =>
    c.loop.active_backup.isSome = true ∨ c.loop.queue.any RuntimeEvent.isCancel = false ∨
    ∀ trigger, Schedule.decide c.loop.system.runtime.config.schedule (scheduler_snapshot c.loop.system.runtime.config
      (release_hold c.loop.system.runtime.state now) now conditions) ≠ some (.Start trigger)
  | _ => True

variable {ext : External} {c d : Cancellations} {l : LoopLabel}

/-! ## The queue -/

theorem sends_cancels (ext : External) (s u : System) (l : Label) :
    ((l.sends ext s u).filter RuntimeEvent.isCancel).length = (l.cancels ext s.runtime).toNat := by
  have outcomes (sent : Option BackupOutcome) :
      ((sent.toList.map RuntimeEvent.BackupFinished).filter RuntimeEvent.isCancel).length = 0 := by
    cases sent with
    | none => rfl
    | some outcome => rfl
  cases l with
  | request command elevated io =>
    simp only [Label.sends]
    split
    · rename_i haccepted
      cases command with
      | CancelBackup => exact (congrArg Bool.toNat haccepted).symm
      | Unenroll =>
        unfold RequestCommand.event
        dsimp only
        split
        · rfl
        · rfl
      | _ => rfl
    · rename_i haccepted
      cases command with
      | CancelBackup => exact (congrArg Bool.toNat (Bool.eq_false_iff.2 haccepted)).symm
      | _ => rfl
  | finishEnroll io =>
    simp only [Label.sends]
    split
    · rfl
    · rfl
  | applyPolicy policy expected now written =>
    simp only [Label.sends]
    split
    · rfl
    · rfl
  | endBackup outcome now => exact outcomes u.outcome
  | retain executable io now written => exact outcomes u.outcome
  | _ => rfl

/-- A cancellation is only accepted while a backup is running. -/
theorem running_of_cancels {runtime : ServiceRuntime} {label : Label} (h : label.cancels ext runtime = true) :
    runtime.state.running = true := by
  cases label with
  | request command elevated io =>
    cases command with
    | CancelBackup =>
      have h : (runtime.cancel_backup io).isAccepted = true := h
      unfold ServiceRuntime.cancel_backup at h
      by_contra hnot
      rw [if_neg hnot] at h
      cases h
    | _ => cases h
  | _ => cases h

/-- No arm of the loop but the evaluation sets a backup active. -/
theorem handle_active {loop after : EventLoop} {now : DateTime} {spawns written : Bool} {event : RuntimeEvent}
    (h : loop.handle ext now spawns written event = some after) :
    after.queue = loop.queue ∧ (after.active_backup = loop.active_backup ∨ after.active_backup = none) := by
  cases event with
  | RunNow | PowerStatusChanged | TimeChanged | Deferred | ConfigurationChanged | Cancel =>
    obtain rfl := Option.some.inj h
    exact ⟨rfl, .inl rfl⟩
  | BackupFinished outcome =>
    unfold EventLoop.handle at h
    obtain ⟨system, -, rfl⟩ := EventLoop.record_eq_some h
    exact ⟨rfl, .inr rfl⟩
  | RepositoryOperationFinished _ _ | UpdateInstallFinished _ | Resume =>
    unfold EventLoop.handle at h
    obtain ⟨system, -, rfl⟩ := EventLoop.record_eq_some h
    exact ⟨rfl, .inl rfl⟩
  | RepositoryOperationRequested _ | UpdateInstallRequested _ =>
    dsimp only [EventLoop.handle] at h
    split at h
    · obtain ⟨system, -, rfl⟩ := EventLoop.record_eq_some h
      exact ⟨rfl, .inl rfl⟩
    · split at h
      · obtain rfl := Option.some.inj h
        exact ⟨rfl, .inl rfl⟩
      · obtain ⟨system, -, rfl⟩ := EventLoop.record_eq_some h
        exact ⟨rfl, .inl rfl⟩

/-! ## The invariant -/

/-- There is a run for every `Cancel` in the queue, and no other run is active. -/
structure Owed (c : Cancellations) : Prop where
  protocol : c.loop.Protocol
  queued : (c.loop.queue.filter RuntimeEvent.isCancel).length = c.accepted.length
  current : ∀ run ∈ c.accepted, ∀ token ∈ c.loop.active_backup, token = run

namespace Owed

/-- Without a `Cancel` in the queue nothing is owed. -/
theorem accepted_eq_nil (h : Owed c) (hq : c.loop.queue.any RuntimeEvent.isCancel = false) : c.accepted = [] := by
  have hnone : c.loop.queue.filter RuntimeEvent.isCancel = [] := by
    rw [List.filter_eq_nil_iff]
    intro event hevent hcancel
    have hany : c.loop.queue.any RuntimeEvent.isCancel = true := List.any_eq_true.2 ⟨event, hevent, hcancel⟩
    rw [hq] at hany
    cases hany
  have hqueued := h.queued
  rw [hnone] at hqueued
  exact List.eq_nil_of_length_eq_zero hqueued.symm

/-- The loop goes on with the same `Cancel` events and no other run. -/
theorem of_loop {loop : EventLoop} (h : Owed c) (hp : loop.Protocol)
    (hq : loop.queue.filter RuntimeEvent.isCancel = c.loop.queue.filter RuntimeEvent.isCancel)
    (ha : loop.active_backup = c.loop.active_backup ∨ loop.active_backup = none ∨ c.accepted = []) :
    Owed ⟨loop, c.accepted⟩ := by
  refine ⟨hp, (congrArg List.length hq).trans h.queued, fun run hrun token htoken => ?_⟩
  dsimp only at hrun htoken
  rcases ha with ha | ha | ha
  · rw [ha] at htoken
    exact h.current run hrun token htoken
  · rw [ha] at htoken
    cases htoken
  · rw [ha] at hrun
    cases hrun

/-- The next event is taken. -/
theorem of_take {loop : EventLoop} {event : RuntimeEvent} (h : Owed c) (hp : loop.Protocol)
    (hq : c.loop.queue = event :: loop.queue)
    (ha : loop.active_backup = c.loop.active_backup ∨ loop.active_backup = none) :
    Owed ⟨loop, if event.isCancel then c.accepted.tail else c.accepted⟩ := by
  have hqueued := h.queued
  rw [hq] at hqueued
  cases he : event.isCancel with
  | true =>
    rw [List.filter_cons_of_pos he, List.length_cons] at hqueued
    refine ⟨hp, ?_, fun run hrun token htoken => ?_⟩
    · rw [if_pos rfl, List.length_tail]
      dsimp only
      omega
    · rcases ha with ha | ha
      · rw [show loop.active_backup = _ from ha] at htoken
        exact h.current run (List.mem_of_mem_tail hrun) token htoken
      · rw [show loop.active_backup = _ from ha] at htoken
        cases htoken
  | false =>
    have hsame : loop.queue.filter RuntimeEvent.isCancel = c.loop.queue.filter RuntimeEvent.isCancel := by
      rw [hq, List.filter_cons_of_neg (by rw [he]; exact Bool.false_ne_true)]
    exact h.of_loop hp hsame (ha.imp_right .inl)

theorem thread {label : Label} {system : System} (h : Owed c) (hp : ({ c.loop with
      system, queue := c.loop.queue ++ label.sends ext c.loop.system system } : EventLoop).Protocol) :
    Owed ⟨{ c.loop with system, queue := c.loop.queue ++ label.sends ext c.loop.system system },
      c.accepted_after ext (.thread label)⟩ := by
  have hsent := sends_cancels ext c.loop.system system label
  have hqueued := h.queued
  cases hcancels : label.cancels ext c.loop.system.runtime with
  | false =>
    have hafter : c.accepted_after ext (.thread label) = c.accepted := if_neg (by rw [hcancels]; exact Bool.false_ne_true)
    rw [hcancels] at hsent
    rw [hafter]
    refine h.of_loop hp ?_ (.inl rfl)
    rw [List.filter_append, List.eq_nil_of_length_eq_zero hsent, List.append_nil]
  | true =>
    have hrunning := running_of_cancels hcancels
    have hactive : c.loop.active_backup.isSome = true :=
      h.protocol.backup.trans (h.protocol.sound.backup.symm.trans hrunning)
    obtain ⟨active, ha⟩ := Option.isSome_iff_exists.1 hactive
    have hafter : c.accepted_after ext (.thread label) = c.accepted ++ [active] := by
      rw [accepted_after, if_pos hcancels, ha]
      rfl
    rw [hcancels] at hsent
    rw [hafter]
    refine ⟨hp, ?_, fun run hrun token htoken => ?_⟩
    · rw [List.filter_append, List.length_append, List.length_append, hsent, hqueued]
      rfl
    · rcases List.mem_append.1 hrun with hrun | hrun
      · exact h.current run hrun token htoken
      · rw [List.mem_singleton.1 hrun]
        have htoken : token ∈ c.loop.active_backup := htoken
        rw [ha] at htoken
        exact (Option.some.inj htoken).symm

theorem step (h : Owed c) (hl : c.Settled l) (hs : Cancellations.step ext c l = some d) : Owed d := by
  obtain ⟨loop, hloop, rfl⟩ := Option.map_eq_some_iff.1 hs
  have hp := h.protocol.step hloop
  have undisturbed {now : DateTime} {conditions : SystemConditions} {runtime : ServiceRuntime} {trigger : BackupTrigger}
      {spawns : Bool} (hl : c.Settled (.evaluate now conditions spawns)) (inactive : c.loop.active_backup = none)
      (evaluates : c.loop.system.runtime.evaluate_schedule now conditions = some (runtime, .Start trigger)) :
      c.accepted = [] := by
    rcases hl with hactive | hqueue | hnot
    · rw [inactive] at hactive
      cases hactive
    · exact h.accepted_eq_nil hqueue
    · obtain ⟨⟨state, action⟩, hsection, heq⟩ := Option.map_eq_some_iff.1 evaluates
      obtain ⟨-, rfl⟩ := Prod.mk.inj heq
      have hevaluation := evaluate_section_evaluation hsection
      generalize state.timing = timing at hevaluation
      cases hevaluation with
      | started _ _ _ decides => exact absurd decides (hnot trigger)
  cases EventLoop.step_turned hloop with
  | thread other steps => exact h.thread hp
  | @notified event notice =>
    refine h.of_loop hp ?_ (.inl rfl)
    rw [List.filter_append]
    cases event with
    | Resume | PowerStatusChanged | TimeChanged => exact List.append_nil _
    | _ => cases notice
  | endedRepository worker =>
    refine h.of_loop hp ?_ (.inl rfl)
    rw [List.filter_append]
    exact List.append_nil _
  | endedUpdate worker =>
    refine h.of_loop hp ?_ (.inl rfl)
    rw [List.filter_append]
    exact List.append_nil _
  | @took event queue now spawns written _ idle head handles =>
    obtain ⟨hqueue, hactive⟩ := handle_active handles
    have hafter : c.accepted_after ext (.take now spawns written) =
        if event.isCancel then c.accepted.tail else c.accepted := by
      rw [accepted_after, head]
      rfl
    rw [hafter]
    refine h.of_take hp ?_ hactive
    rw [hqueue]
    exact head
  | timedOut idle empty => exact h.of_loop hp rfl (.inl rfl)
  | skipped evaluating active => exact h.of_loop hp rfl (.inl rfl)
  | evaluated evaluating inactive evaluates steps => exact h.of_loop hp rfl (.inl rfl)
  | started evaluating inactive evaluates steps =>
    exact h.of_loop hp rfl (.inr (.inr (undisturbed hl inactive evaluates)))
  | failedToStart evaluating inactive evaluates steps fails =>
    exact h.of_loop hp rfl (.inr (.inr (undisturbed hl inactive evaluates)))
  | gaveUp failing steps => exact h.of_loop hp rfl (.inr (.inl rfl))

end Owed

/-- The run that a queued `Cancel` was accepted for is the only one that it
signals, in every run of the service in which no backup starts while a `Cancel`
is in the queue. -/
theorem cancel_hits_its_run {s₀ : System} {ls : List LoopLabel} {queue : List RuntimeEvent} {now : DateTime}
    {spawns written : Bool} (h₀ : System.Starts ext s₀) (h : Run (step ext) Settled (start s₀) ls c)
    (hq : c.loop.queue = .Cancel :: queue) (hs : step ext c (.take now spawns written) = some d) :
    ∃ run, c.accepted = run :: d.accepted ∧ ∀ token ∈ d.loop.cancelled, token = run ∨ token ∈ c.loop.cancelled := by
  have howed : Owed c := h.inv Owed (fun _ _ _ ho hl hs => ho.step hl hs)
    ⟨.of_starts h₀, rfl, fun _ hrun => by cases hrun⟩
  have hqueued := howed.queued
  rw [hq, List.filter_cons_of_pos rfl, List.length_cons] at hqueued
  obtain ⟨run, rest, haccepted⟩ := List.exists_cons_of_length_eq_add_one hqueued.symm
  obtain ⟨loop, hloop, rfl⟩ := Option.map_eq_some_iff.1 hs
  refine ⟨run, ?_, ?_⟩
  · rw [accepted_after, hq, haccepted]
    rfl
  · cases EventLoop.step_turned hloop with
    | took idle head handles =>
      obtain ⟨rfl, rfl⟩ := List.cons.inj (head.symm.trans hq)
      obtain rfl := Option.some.inj handles
      intro token htoken
      rcases List.mem_append.1 htoken with hactive | hbefore
      · exact .inl (howed.current run (haccepted ▸ List.mem_cons_self) token (Option.mem_toList.1 hactive))
      · exact .inr hbefore

open System.HomeDevice

namespace PromptCancel

theorem begun_isSome : (step External.inert (start started) (.evaluate due conditions true)).isSome := by decide

def begun : Cancellations := (step External.inert (start started) (.evaluate due conditions true)).get begun_isSome

theorem asked_isSome : (step External.inert begun (.thread (.request .CancelBackup false (.quiet due)))).isSome := by
  decide

def asked : Cancellations :=
  (step External.inert begun (.thread (.request .CancelBackup false (.quiet due)))).get asked_isSome

theorem taken_isSome : (step External.inert asked (.take due true true)).isSome := by decide

/-- A backup that is cancelled while it runs. -/
theorem first_run_is_cancelled : ∃ d ∈ step External.inert asked (.take due true true),
    d.loop.cancelled = [0] ∧
    ∃ run, asked.accepted = run :: d.accepted ∧ ∀ token ∈ d.loop.cancelled, token = run ∨ token ∈ asked.loop.cancelled := by
  have hrun : Run (step External.inert) Settled (start started)
      [.evaluate due conditions true, .thread (.request .CancelBackup false (.quiet due))] asked :=
    .snoc (.snoc .nil (.inr (.inl rfl)) (Option.some_get begun_isSome).symm) trivial (Option.some_get asked_isSome).symm
  exact ⟨_, Option.get_mem taken_isSome, rfl,
    cancel_hits_its_run (.loaded _ _ _ _ (loaded_loads verified)) hrun rfl (Option.some_get taken_isSome).symm⟩

end PromptCancel

namespace LateCancel

/-- The first backup has ended when its cancellation is accepted. A notice of the
power supply is in the queue before the `Cancel`, and a new backup is requested
before the loop takes it. -/
def races : List LoopLabel :=
  [.evaluate due conditions true, .thread .copyConfig, .thread (.endBackup (.failed "restic_failed") due),
    .notify .PowerStatusChanged, .thread (.request .CancelBackup false (.quiet due)), .take due true true,
    .thread (.request .RunBackupNow false (.quiet due)), .take due true true, .evaluate due conditions true]

def raced : Option Cancellations := runList (step .inert) (fun _ _ => True) (start started) races

theorem raced_isSome : raced.isSome := by decide

theorem cancelled_isSome : (step External.inert (raced.get raced_isSome) (.take due true true)).isSome := by decide

theorem next_run_is_cancelled : System.Starts External.inert started ∧
    ∃ c ∈ raced, ∃ d ∈ step External.inert c (.take due true true),
      c.loop.queue = [.Cancel, .RunNow] ∧ c.accepted = [0] ∧ c.loop.cancelled = [] ∧ d.loop.cancelled = [1] :=
  ⟨.loaded _ _ _ _ (loaded_loads verified), _, Option.get_mem raced_isSome, _, Option.get_mem cancelled_isSome, rfl, rfl, rfl, rfl⟩

end LateCancel

end Cancellations

end ResticPal
