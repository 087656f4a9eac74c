import ResticPal.System.Host
import ResticPal.System.Verified
/-!
# Verifications come from probes

- `Host.verification_was_probed`: on a computer that began without `state.json`,
  a service that starts with its repository ready has had exactly that
  repository probed, and what a successful worker has recorded is the
  repository it probed.

The record is made of the configuration in force when the worker's outcome
arrives, not of the worker's copy. The two agree because nothing changes the
connection while an operation runs; and `state.json` never names a repository
that the memory did not, wherever a crash cuts a step.
-/

open Lib

namespace ResticPal

/-- No repository is recorded that was not recorded before. -/
def ServiceStateSnapshot.Keeps (before after : ServiceStateSnapshot) : Prop :=
  after.verified_repository = before.verified_repository ∨ after.verified_repository = none

namespace ServiceStateSnapshot

variable {before after : ServiceStateSnapshot}

theorem Keeps.of_eq (h : after = before) : Keeps before after := .inl (by rw [h])

theorem Keeps.of_require (h : after = before.require_repository_validation) : Keeps before after := .inr (by rw [h]; rfl)

theorem Keeps.of_verification (h : after.verification = before.verification) : Keeps before after :=
  .inl (Prod.mk.inj h).2

end ServiceStateSnapshot

open ServiceStateSnapshot (Keeps)

theorem Revalidated.keeps {effective : EffectiveConfig} {before after : RuntimeState}
    (h : Revalidated effective before after) : Keeps before.service_state after.service_state := by
  rcases h with ⟨-, -, hs⟩ | ⟨-, hs⟩
  · exact .of_eq hs
  · exact .of_require hs

section Requests

variable {ext : External} {runtime after : ServiceRuntime} {command : RequestCommand} {elevated : Bool} {io : RequestIo}
  {response : ResponsePayload}

theorem EnrollFinished.keeps (h : EnrollFinished ext.parse_url runtime io after response) :
    Keeps runtime.state.service_state after.state.service_state := by
  cases h with
  | failed _ _ _ service_state => exact .of_eq service_state
  | committed _ _ committed =>
    obtain ⟨resolved, -, -, -, hre⟩ := committed.resolved
    exact hre.keeps

theorem RequestEffect.keeps (h : RequestEffect ext runtime command elevated io after response) :
    Keeps runtime.state.service_state after.state.service_state := by
  cases h with
  | kept _ _ service_state => exact .of_eq service_state
  | began _ _ _ _ _ _ _ _ service_state => exact .of_require service_state
  | held _ _ _ _ _ _ service_state => exact .of_eq service_state
  | edited _ _ _ _ _ _ _ _ connection =>
    rcases connection with ⟨-, -, hs⟩ | ⟨-, -, -, hs⟩
    · exact .of_eq hs
    · exact .of_require hs
  | unenrolled _ _ _ _ _ _ _ _ _ _ service_state => exact .of_eq service_state
  | enrolled _ begins finished =>
    obtain ⟨-, -, -, hs⟩ := begin_enrollment_activity begins
    exact hs ▸ finished.keeps

/-- A repository operation is accepted when none is running, and then runs. -/
theorem begin_repository_accepted {operation : RepositoryOperationKind}
    (h : (runtime.begin_repository_operation operation elevated io).2.isAccepted = true) :
    runtime.state.repository_operation.isRunning = false ∧
      (runtime.begin_repository_operation operation elevated io).1.state.repository_operation = .Running operation := by
  revert h
  unfold ServiceRuntime.begin_repository_operation
  split
  · intro h
    cases h
  · split
    · rename_i refused hcheck
      intro h
      have := Refuses.bind (.rejectIf rfl) (fun _ => Refuses.bind (.rejectIf rfl) fun _ => .rejectIf rfl) refused hcheck
      simp [this] at h
    · unfold begin_repository_section
      simp only
      split
      · intro h
        cases h
      · split
        · intro h
          cases h
        · split
          · intro h
            cases h
          · rename_i hoperation
            split
            · intro h
              cases h
            · rename_i saved hsaved
              split
              · intro h
                cases h
              · rw [save_state_eq_some hsaved]
                exact fun _ => ⟨by simpa using hoperation, rfl⟩

theorem requests_cases (ext : External) (runtime : ServiceRuntime) (l : Label) :
    l.requests ext runtime = [] ∨ ∃ command elevated io operation, l = .request command elevated io ∧
      l.requests ext runtime = [operation] ∧ runtime.state.repository_operation.isRunning = false ∧
      (runtime.handle_request ext command elevated io).1.state.repository_operation = .Running operation := by
  cases l with
  | request command elevated io =>
    by_cases haccepted : (runtime.handle_request ext command elevated io).2.isAccepted = true
    · have hr : Label.requests ext runtime (.request command elevated io) = command.operation.toList := if_pos haccepted
      cases command with
      | ValidateRepository =>
        exact .inr ⟨_, _, _, .Validate, rfl, hr, begin_repository_accepted haccepted⟩
      | InitializeRepository =>
        exact .inr ⟨_, _, _, .Initialize, rfl, hr, begin_repository_accepted haccepted⟩
      | _ => exact .inl hr
    · exact .inl (if_neg haccepted)
  | _ => exact .inl rfl

/-- While a repository operation runs, requests leave it and the connection alone. -/
theorem RequestEffect.running_operation (h : RequestEffect ext runtime command elevated io after response)
    (ho : runtime.state.repository_operation.isRunning = true) :
    after.state.repository_operation = runtime.state.repository_operation ∧
      RepositoryIdentity.from_config after.config = RepositoryIdentity.from_config runtime.config := by
  cases h with
  | kept same activity => exact ⟨congrArg Activity.repository_operation activity, by rw [same.config]⟩
  | began _ _ _ _ _ _ _ operation =>
    rw [ho] at operation
    cases operation
  | held same _ _ _ _ activity => exact ⟨congrArg Activity.repository_operation activity, by rw [same.config]⟩
  | edited _ _ _ _ _ _ _ _ connection =>
    rcases connection with ⟨hi, ha, -⟩ | ⟨-, -, operation, -⟩
    · exact ⟨congrArg Activity.repository_operation ha, hi⟩
    · rw [ho] at operation
      cases operation
  | unenrolled _ _ busy =>
    have := (busy_eq_false.1 busy).2.1
    rw [ho] at this
    cases this
  | enrolled _ begins =>
    obtain ⟨-, busy, -⟩ := begin_enrollment_activity begins
    have := (busy_eq_false.1 busy).2.1
    rw [ho] at this
    cases this

end Requests

namespace System

variable {ext : External} {s u : System} {l : Label}

theorem step_keeps (h : Sound s) (hs : step ext s l = some u) (hl : l.isFinishRepository = false) :
    Keeps s.runtime.state.service_state u.runtime.state.service_state := by
  cases step_effect h hs with
  | quiet _ _ verification => exact .of_verification verification
  | request _ effect => exact effect.keeps
  | beganEnroll begins =>
    obtain ⟨-, -, -, service_state⟩ := begin_enrollment_activity begins
    exact .of_eq service_state
  | finishedEnroll _ finished => exact finished.keeps
  | appliedPolicy _ _ installed => exact installed.revalidated.keeps
  | evaluated _ _ service_state => exact .of_eq service_state
  | finishedUpdate _ _ _ _ service_state => exact .of_eq service_state
  | finishedBackup _ _ verification => exact .of_verification verification
  | finishedRepository => cases hl

theorem step_running_operation (h : Sound s) (hs : step ext s l = some u) (hl : l.isFinishRepository = false)
    (ho : s.runtime.state.repository_operation.isRunning = true) :
    u.runtime.state.repository_operation = s.runtime.state.repository_operation ∧
      RepositoryIdentity.from_config u.runtime.config = RepositoryIdentity.from_config s.runtime.config := by
  cases step_effect h hs with
  | quiet same activity => exact ⟨congrArg Activity.repository_operation activity, by rw [same.config]⟩
  | request _ effect => exact effect.running_operation ho
  | beganEnroll begins =>
    obtain ⟨same, -, activity, -⟩ := begin_enrollment_activity begins
    exact ⟨congrArg Activity.repository_operation activity, by rw [same.config]⟩
  | finishedEnroll enrolling finished =>
    have := (h.exclusive.operation ho).2.symm.trans (h.enrolling.trans enrolling)
    cases this
  | appliedPolicy _ _ _ operation =>
    rw [ho] at operation
    cases operation
  | evaluated same evaluated =>
    refine ⟨?_, by rw [same.config]⟩
    cases evaluated with
    | held _ activity | idle _ activity | started _ _ _ _ _ activity =>
      exact congrArg Activity.repository_operation activity
  | finishedUpdate _ same _ activity => exact ⟨congrArg Activity.repository_operation activity, by rw [same.config]⟩
  | finishedBackup same activity => exact ⟨congrArg Activity.repository_operation activity, by rw [same.config]⟩
  | finishedRepository => cases hl

/-- The end of an operation records the repository in force, if it succeeded. -/
theorem finish_repository_recorded (runtime : ServiceRuntime) (operation : RepositoryOperationKind)
    (outcome : RepositoryOutcomeKind) (now : DateTime) (written : Bool) :
    Keeps runtime.state.service_state
        (runtime.finish_repository_operation operation outcome now written).state.service_state ∨
      outcome = .Succeeded ∧ runtime.state.repository_operation = .Running operation := by
  unfold ServiceRuntime.finish_repository_operation finish_repository_section
  split
  · exact .inl (.of_eq rfl)
  · rename_i hop
    cases outcome with
    | Succeeded => exact .inr ⟨rfl, by simpa using hop⟩
    | Failed code => exact .inl (.of_eq (apply_configuration_status_service_state _ _ _))
    | Cancelled => exact .inl (.of_eq (apply_configuration_status_service_state _ _ _))

theorem finish_repository_succeeded {runtime : ServiceRuntime} {operation : RepositoryOperationKind}
    (ho : runtime.state.repository_operation = .Running operation) (now : DateTime) (written : Bool) :
    (runtime.finish_repository_operation operation .Succeeded now written).state.service_state.verified_repository =
      some (RepositoryIdentity.from_config runtime.config) := by
  simp only [ServiceRuntime.finish_repository_operation, finish_repository_section, ho, ne_eq, not_true_eq_false,
    if_false, apply_configuration_status_service_state, record_repository_outcome]
  split
  · rfl
  · rename_i saved hsaved
    rw [save_state_eq_some hsaved]
    rfl

/-- What a step writes to `state.json` names no other repository than the memory. -/
theorem journal_keeps {snapshot : ServiceStateSnapshot} (h : .state snapshot ∈ s.journal ext l)
    (hl : l.isFinishRepository = false) : Keeps s.runtime.state.service_state snapshot := by
  cases l with
  | request command elevated io => exact .of_require (request_journal_state h)
  | finishEnroll io => exact .of_require (finish_enrollment_journal_state h)
  | applyPolicy policy expected now written => exact .of_require (policy_journal_state h)
  | retain executable io now written =>
    simp only [journal] at h
    split at h
    · rw [(mem_state_journal.1 h).2]
      exact .of_verification (record_retention_verification _ _ _)
    · cases h
  | finishBackup now written =>
    simp only [journal] at h
    split at h
    · unfold finish_backup_journal at h
      split at h
      · rw [(mem_state_journal.1 h).2]
        exact .of_verification rfl
      · cases h
    · cases h
  | finishRepository => cases hl
  | _ => cases h

theorem finish_repository_journal_recorded {runtime : ServiceRuntime} {operation : RepositoryOperationKind}
    {outcome : RepositoryOutcomeKind} {now : DateTime} {written : Bool} {snapshot : ServiceStateSnapshot}
    (h : .state snapshot ∈ finish_repository_journal runtime operation outcome now written) :
    outcome = .Succeeded ∧ runtime.state.repository_operation = .Running operation ∧
      snapshot.verified_repository = some (RepositoryIdentity.from_config runtime.config) := by
  unfold finish_repository_journal at h
  split at h
  · cases h
  · rename_i hop
    split at h
    · rw [(mem_state_journal.1 h).2]
      exact ⟨rfl, by simpa using hop, rfl⟩
    · cases h

end System

/-! ## Probes -/

/-- The recorded repository, if there is one, was probed. -/
def ServiceStateSnapshot.Probed (snapshot : ServiceStateSnapshot) (probes : List Probe) : Prop :=
  ∀ identity ∈ snapshot.verified_repository, ∃ operation, ⟨operation, identity⟩ ∈ probes

def Disk.Probed (disk : Disk) (probes : List Probe) : Prop :=
  ∀ file ∈ disk.state_store, ∀ snapshot, ScheduleStateStore.load file = some snapshot → snapshot.Probed probes

section Probed

variable {probes : List Probe}

theorem ServiceStateSnapshot.Probed.keeps {before after : ServiceStateSnapshot} (h : before.Probed probes)
    (hk : Keeps before after) : after.Probed probes := by
  intro identity hi
  rcases hk with hk | hk
  · exact h identity (hk ▸ hi)
  · rw [hk] at hi
    cases hi

theorem Disk.Probed.write {disk : Disk} {w : DiskWrite} (h : disk.Probed probes)
    (hw : ∀ snapshot, w = .state snapshot → snapshot.Probed probes) : (disk.write w).Probed probes := by
  cases w with
  | state snapshot =>
    intro file hf loaded hl
    obtain ⟨old, -, rfl⟩ := Option.map_eq_some_iff.1 hf
    obtain rfl : snapshot = loaded := Option.some.inj hl
    exact hw snapshot rfl
  | _ => exact h

/-- Every crash inside such a step leaves a probed repository on record, or none. -/
theorem Disk.Probed.safe {disk : Disk} {journal : List DiskWrite} (h : disk.Probed probes)
    (hj : ∀ snapshot, .state snapshot ∈ journal → snapshot.Probed probes) :
    Safe Disk.write (fun disk => disk.Probed probes) disk journal :=
  .of_forall h fun _ hw _ hd => hd.write fun snapshot hs => hj snapshot (hs ▸ hw)

theorem Disk.Probed.mono {disk : Disk} (h : disk.Probed probes) (more : List Probe) : disk.Probed (probes ++ more) := by
  intro file hf snapshot hs identity hi
  obtain ⟨operation, hp⟩ := h file hf snapshot hs identity hi
  exact ⟨operation, List.mem_append_left more hp⟩

end Probed

/-! ## The running service -/

namespace Service

/-- The operations that were requested and have not ended. -/
def pending (v : Service) : List RepositoryOperationKind := v.requested ++ v.worker.toList.map (·.operation)

/-- What is known of a running service. -/
structure Tracked (v : Service) (probes : List Probe) : Prop where
  sound : v.system.Sound
  pending : v.pending = [] ∨
    ∃ operation, v.pending = [operation] ∧ v.system.runtime.state.repository_operation = .Running operation
  copy : ∀ worker ∈ v.worker, ∀ config ∈ worker.phase.config,
    RepositoryIdentity.from_config config = RepositoryIdentity.from_config v.system.runtime.config
  ended : ∀ operation config, v.worker = some ⟨operation, .ended config .Succeeded⟩ →
    ⟨operation, RepositoryIdentity.from_config config⟩ ∈ probes
  memory : v.system.runtime.state.service_state.Probed probes
  disk : v.disk.Probed probes

namespace Tracked

variable {ext : External} {v w : Service} {probes : List Probe} {l : ServiceLabel}

theorem of_worker (h : v.Tracked probes) {operation : RepositoryOperationKind} {phase : ProbePhase}
    (hw : v.worker = some ⟨operation, phase⟩) :
    v.requested = [] ∧ v.system.runtime.state.repository_operation = .Running operation := by
  rcases h.pending with hp | ⟨running, hp, ho⟩
  · simp [Service.pending, hw] at hp
  · have hp : v.requested ++ [operation] = [] ++ [running] := by simpa [Service.pending, hw] using hp
    obtain ⟨hr, ho'⟩ := List.append_inj' hp rfl
    exact ⟨hr, by rw [ho, List.singleton_inj.1 ho']⟩

theorem of_requested (h : v.Tracked probes) {operation : RepositoryOperationKind} {rest : List RepositoryOperationKind}
    (hr : v.requested = operation :: rest) :
    rest = [] ∧ v.worker = none ∧ v.system.runtime.state.repository_operation = .Running operation := by
  rcases h.pending with hp | ⟨running, hp, ho⟩
  · simp [Service.pending, hr] at hp
  · simp only [Service.pending, hr, List.cons_append, List.cons.injEq, List.append_eq_nil_iff, List.map_eq_nil_iff,
      Option.toList_eq_nil_iff] at hp
    obtain ⟨rfl, hrest, hw⟩ := hp
    exact ⟨hrest, hw, ho⟩

/-- What a worker that ended with success will record is what it probed. -/
theorem recorded (h : v.Tracked probes) {operation : RepositoryOperationKind} {config : EffectiveConfig}
    (hw : v.worker = some ⟨operation, .ended config .Succeeded⟩) :
    v.system.runtime.state.repository_operation = .Running operation ∧
      ⟨operation, RepositoryIdentity.from_config v.system.runtime.config⟩ ∈ probes := by
  refine ⟨(h.of_worker hw).2, ?_⟩
  rw [← h.copy _ hw config rfl]
  exact h.ended operation config hw

theorem journal_probed (h : v.Tracked probes) {snapshot : ServiceStateSnapshot}
    (hs : .state snapshot ∈ v.journal ext l) : snapshot.Probed probes := by
  obtain ⟨label, makes, hm⟩ := mem_journal hs
  cases makes with
  | served other => exact h.memory.keeps (System.journal_keeps hm other)
  | @refused operation _ _ now written code _ =>
    obtain ⟨hc, -⟩ := @System.finish_repository_journal_recorded _ operation (.Failed code) now written snapshot hm
    cases hc
  | finished worker =>
    obtain ⟨rfl, -, hv⟩ := System.finish_repository_journal_recorded hm
    intro identity hi
    rw [hv] at hi
    obtain rfl := Option.some.inj hi
    exact ⟨_, (h.recorded worker).2⟩

/-- Wherever a crash cuts a step. -/
theorem safe (h : v.Tracked probes) (l : ServiceLabel) :
    Safe Disk.write (fun disk => disk.Probed probes) v.disk (v.journal ext l) :=
  h.disk.safe fun _ hs => h.journal_probed hs

theorem served (h : v.Tracked probes) {label : Label} {system : System} (hl : label.isFinishRepository = false)
    (hs : v.system.step ext label = some system) (hd : system.runtime.disk.Probed probes) :
    (v.after ext system (.serve label)).Tracked probes := by
  have hmemory := h.memory.keeps (System.step_keeps h.sound hs hl)
  rcases h.pending with hp | ⟨operation, hp, ho⟩
  · obtain ⟨hr, hw⟩ : v.requested = [] ∧ v.worker = none := by simpa [Service.pending] using hp
    refine ⟨h.sound.step hs, ?_, ?_, ?_, hmemory, hd⟩
    · rcases requests_cases ext v.system.runtime label with hq | ⟨command, elevated, io, operation, rfl, hq, -, ho⟩
      · exact .inl (by simp [Service.pending, Service.after, hr, hw, hq])
      · refine .inr ⟨operation, by simp [Service.pending, Service.after, hr, hw, hq], ?_⟩
        obtain ⟨t, ht, rfl⟩ := Option.map_eq_some_iff.1 hs
        simp only [System.advance] at ht
        split at ht
        · cases ht
        · cases ht
          exact ho
    · simp [Service.after, hw]
    · simp [Service.after, hw]
  · have hrunning : v.system.runtime.state.repository_operation.isRunning = true := by rw [ho]; rfl
    obtain ⟨hsame, hidentity⟩ := System.step_running_operation h.sound hs hl hrunning
    have hq : label.requests ext v.system.runtime = [] := by
      rcases requests_cases ext v.system.runtime label with hq | ⟨-, -, -, -, -, -, hidle, -⟩
      · exact hq
      · rw [hrunning] at hidle
        cases hidle
    refine ⟨h.sound.step hs, .inr ⟨operation, ?_, hsame.trans ho⟩, ?_, h.ended, hmemory, hd⟩
    · simpa [Service.pending, Service.after, hq] using hp
    · intro worker hw config hc
      exact (h.copy worker hw config hc).trans hidentity.symm

/-- The operation ends, and no other one is pending. -/
theorem finished (h : v.Tracked probes) {operation : RepositoryOperationKind} {outcome : RepositoryOutcomeKind}
    {now : DateTime} {written : Bool} {system : System}
    (hs : v.system.step ext (.finishRepository operation outcome now written) = some system)
    (ho : outcome = .Succeeded → ⟨operation, RepositoryIdentity.from_config v.system.runtime.config⟩ ∈ probes)
    (hd : system.runtime.disk.Probed probes) : Tracked ⟨system, [], none⟩ probes := by
  refine ⟨h.sound.step hs, .inl rfl, by simp, by simp, ?_, hd⟩
  obtain ⟨t, ht, rfl⟩ := Option.map_eq_some_iff.1 hs
  cases ht
  rcases System.finish_repository_recorded v.system.runtime operation outcome now written with hk | ⟨rfl, hrunning⟩
  · exact h.memory.keeps hk
  · intro identity hi
    have hv := System.finish_repository_succeeded hrunning now written
    obtain rfl := Option.some.inj (hv.symm.trans hi)
    exact ⟨operation, ho rfl⟩

theorem mono (h : v.Tracked probes) (more : List Probe) : v.Tracked (probes ++ more) where
  sound := h.sound
  pending := h.pending
  copy := h.copy
  ended operation config hw := List.mem_append_left more (h.ended operation config hw)
  memory identity hi := (h.memory identity hi).imp fun _ hp => List.mem_append_left more hp
  disk := h.disk.mono more

/-- A worker has the one operation that is pending. -/
theorem taken (h : v.Tracked probes) {operation : RepositoryOperationKind} {phase : ProbePhase}
    (ho : v.system.runtime.state.repository_operation = .Running operation)
    (copy : ∀ config ∈ phase.config,
      RepositoryIdentity.from_config config = RepositoryIdentity.from_config v.system.runtime.config)
    (ended : ∀ config, phase = .ended config .Succeeded → ⟨operation, RepositoryIdentity.from_config config⟩ ∈ probes) :
    Tracked ⟨v.system, [], some ⟨operation, phase⟩⟩ probes := by
  refine ⟨h.sound, .inr ⟨operation, rfl, ho⟩, ?_, ?_, h.memory, h.disk⟩
  · intro worker hw
    cases hw
    exact copy
  · intro _ config hw
    cases hw
    exact ended config rfl

theorem step (h : v.Tracked probes) (hs : Service.step ext v l = some w) : w.Tracked (probes ++ v.probe l) := by
  have hd : w.disk.Probed probes := step_replays hs ▸ (h.safe l).whole
  unfold Service.step at hs
  split at hs
  · rename_i label hl
    obtain ⟨system, hstep, rfl⟩ := Option.map_eq_some_iff.1 hs
    rw [Service.disk, after_system] at hd
    refine mono ?_ _
    cases system_label_makes hl with
    | served other => exact h.served other hstep hd
    | refused code requested =>
      obtain ⟨rfl, hw, -⟩ := h.of_requested requested
      simp only [Service.after, requested, hw, List.tail_cons]
      exact h.finished hstep (fun ho => by cases ho) hd
    | finished worker =>
      obtain ⟨hr, -⟩ := h.of_worker worker
      simp only [Service.after, hr]
      exact h.finished hstep (fun ho => (h.recorded (ho ▸ worker)).2) hd
  · cases l with
    | serve label | finish now written => cases hs
    | receive spawns now written =>
      simp only [Service.worker_step] at hs
      split at hs
      · rename_i operation rest hr
        cases hs
        obtain ⟨rfl, -, ho⟩ := h.of_requested hr
        exact (h.mono _).taken ho (fun _ hc => by cases hc) (fun _ hp => by cases hp)
      · cases hs
    | copyConfig =>
      simp only [Service.worker_step] at hs
      split at hs
      · rename_i operation hw
        cases hs
        obtain ⟨hr, ho⟩ := h.of_worker hw
        rw [hr]
        refine (h.mono _).taken ho (fun config hc => ?_) (fun _ hp => by cases hp)
        cases hc
        rfl
      · cases hs
    | probed outcome =>
      simp only [Service.worker_step] at hs
      split at hs
      · rename_i operation config hw
        cases hs
        obtain ⟨hr, ho⟩ := h.of_worker hw
        rw [hr]
        refine (h.mono _).taken ho (fun copied hc => h.copy _ hw copied hc) (fun copied hp => ?_)
        cases hp
        simp [Service.probe, hw]
      · cases hs

end Tracked

end Service

/-! ## The computer -/

namespace Host

/-- What is known of the computer, whether or not the service runs. -/
def Tracked (h : Host) : Prop :=
  match h.machine with
  | .up service => service.Tracked h.probes
  | .down disk => disk.Probed h.probes

variable {ext : External} {h g : Host} {l : HostLabel}

theorem Tracked.disk (ht : h.Tracked) : h.machine.disk.Probed h.probes := by
  obtain ⟨machine, probes⟩ := h
  cases machine with
  | up service => exact Service.Tracked.disk ht
  | down disk => exact ht

/-- What a service finds in `state.json` when it starts. -/
theorem load_probed {config_store : LocalConfigStore} {credential_store : Option CredentialStore}
    {state_store : StoredFile PersistedScheduleState} {policy_cache : ManagedPolicyCache}
    {policy : Option ManagedPolicy} {now : DateTime} {runtime : ServiceRuntime} {probes : List Probe}
    (hp : ∀ snapshot, ScheduleStateStore.load state_store = some snapshot → snapshot.Probed probes)
    (hl : load_with_credentials_and_policy ext.parse_url config_store credential_store state_store policy_cache policy now =
      .ok runtime) : runtime.state.service_state.Probed probes ∧ Verified runtime := by
  simp only [load_with_credentials_and_policy, bind_eq_ok, pure_eq_ok] at hl
  obtain ⟨loc, -, resolved, -, rfl⟩ := hl
  refine ⟨?_, from_resolved_verified⟩
  simp only [from_resolved_with_state]
  split
  · exact hp _ ‹_›
  · split <;> exact fun _ hi => by cases hi

theorem start_tracked {disk : Disk} {policy : Option ManagedPolicy} {now : DateTime} {system : System}
    {probes : List Probe} (hd : disk.Probed probes) (hs : disk.start ext policy now = some system) :
    Service.Tracked ⟨system, [], none⟩ probes := by
  obtain ⟨hstarts, hdisk⟩ := Disk.start_starts hs
  have hfiles : system.runtime.disk.Probed probes := hdisk.symm ▸ hd
  refine ⟨hstarts.sound, .inl rfl, by simp, by simp, ?_, hfiles⟩
  cases hstarts with
  | loaded config_store credential_store state_store policy_cache load =>
    have hstate : state_store ∈ disk.state_store := by
      simp only [load_with_credentials_and_policy, bind_eq_ok, pure_eq_ok] at load
      obtain ⟨loc, -, resolved, -, rfl⟩ := load
      exact (congrArg Disk.state_store hdisk).symm
    exact (load_probed (hd state_store hstate) load).1
  | configurationError => exact fun _ hi => by cases hi

theorem Tracked.step (ht : h.Tracked) (hs : Host.step ext h l = some g) : g.Tracked := by
  obtain ⟨machine, probes⟩ := h
  cases machine with
  | up service =>
    have ht : service.Tracked probes := ht
    cases l with
    | run l =>
      obtain ⟨after, hstep, rfl⟩ := Option.map_eq_some_iff.1 hs
      exact ht.step hstep
    | crash l writes =>
      simp only [Host.step] at hs
      split at hs
      · cases hs
        exact (ht.safe l).take writes
      · cases hs
    | stop =>
      cases hs
      exact ht.disk
    | _ => cases hs
  | down disk =>
    have ht : disk.Probed probes := ht
    cases l with
    | edit file =>
      cases hs
      exact ht
    | start policy now =>
      obtain ⟨system, hstart, rfl⟩ := Option.map_eq_some_iff.1 hs
      exact start_tracked ht hstart
    | _ => cases hs

/-- In every run that begins without `state.json`, through restarts, crashes
and edits of `config.toml`: a service that is loaded with its repository ready
has had that repository probed, and what is recorded at the end of a successful
worker is the repository it probed. -/
theorem verification_was_probed {disk : Disk} {ls : List HostLabel} (h₀ : disk.state_store = some .missing)
    (hrun : Run (Host.step ext) (fun _ _ => True) ⟨.down disk, []⟩ ls h) :
    (∀ config_store credential_store policy_cache policy now state_store runtime,
      h.machine.disk.state_store = some state_store →
      load_with_credentials_and_policy ext.parse_url config_store credential_store state_store policy_cache policy now =
        .ok runtime →
      ∀ operation completed_at, runtime.state.repository_operation = .Succeeded operation completed_at →
      runtime.config.repository.url.isSome →
      ∃ operation, ⟨operation, RepositoryIdentity.from_config runtime.config⟩ ∈ h.probes) ∧
    ∀ service operation config now written, h.machine = .up service →
      service.worker = some ⟨operation, .ended config .Succeeded⟩ →
      ⟨operation, RepositoryIdentity.from_config config⟩ ∈ h.probes ∧
      (service.system.runtime.finish_repository_operation operation .Succeeded now
        written).state.service_state.verified_repository = some (RepositoryIdentity.from_config config) := by
  have hinitial : Tracked ⟨.down disk, []⟩ := by
    intro file hf snapshot hs
    rw [h₀] at hf
    cases hf
    cases hs
    exact fun _ hi => by cases hi
  have ht : h.Tracked := hrun.inv Tracked (fun _ _ _ ht _ hs => ht.step hs) hinitial
  constructor
  · intro config_store credential_store policy_cache policy now state_store runtime hstate hload operation completed_at
      hready hurl
    obtain ⟨hprobed, hverified⟩ := load_probed (ht.disk state_store hstate) hload
    have hrecorded := ServiceStateSnapshot.not_requires_validation.1 (hverified (by rw [hready]; rfl)) hurl
    exact hprobed _ hrecorded.2
  · intro service operation config now written hup hw
    obtain ⟨machine, probes⟩ := h
    obtain rfl : machine = .up service := hup
    have ht : service.Tracked probes := ht
    refine ⟨ht.ended operation config hw, ?_⟩
    rw [System.finish_repository_succeeded (ht.of_worker hw).2, ht.copy _ hw config rfl]

namespace FirstValidation

open System.HomeDevice (password)

def loc : LocalConfig where
  repository := { url := some "D:\\home", secret_refs := some password }

def disk : Disk := ⟨some ⟨none, .contents loc⟩, some .missing, .missing, none⟩

/-- The first validation, up to a loss of power right after its record was written. -/
def validates : List HostLabel :=
  [.start none .UNIX_EPOCH, .run (.serve (.request .ValidateRepository true (.quiet .UNIX_EPOCH))),
    .run (.receive true .UNIX_EPOCH true), .run .copyConfig, .run (.probed .Succeeded),
    .crash (.finish .UNIX_EPOCH true) 1]

def validated : Option Host := runList (Host.step .inert) (fun _ _ => True) ⟨.down disk, []⟩ validates

theorem validated_isSome : validated.isSome := by decide

def runtime : ServiceRuntime :=
  from_resolved_with_state ⟨{ repository := { url := some "D:\\home", secret_refs := password } }, none,
    ((choose_all {} loc none).run ∅).2⟩ loc
    { verified_repository := some ⟨some "D:\\home", ∅, password⟩, verified_at := some .UNIX_EPOCH }
    ⟨none, .contents loc⟩ none (.contents ⟨STATE_SCHEMA_VERSION,
      { verified_repository := some ⟨some "D:\\home", ∅, password⟩, verified_at := some .UNIX_EPOCH }⟩) .missing .UNIX_EPOCH

/-- The next start finds the repository ready, and it was probed. -/
theorem ready_repository_was_probed : ∃ h ∈ validated,
    runtime.state.repository_operation = .Succeeded .Validate .UNIX_EPOCH ∧
    ∃ operation, ⟨operation, RepositoryIdentity.from_config runtime.config⟩ ∈ h.probes :=
  ⟨_, Option.get_mem validated_isSome, rfl,
    (verification_was_probed (h := validated.get validated_isSome) rfl (.of_isSome validated_isSome)).1
      ⟨none, .contents loc⟩ none .missing none .UNIX_EPOCH _ runtime (by rfl) (by decide) .Validate .UNIX_EPOCH rfl rfl⟩

end FirstValidation

end Host

end ResticPal
