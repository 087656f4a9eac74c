import ResticPal.System.ManagementWorker
/-!
# The worker's counter and its source

- `counter_stays_with_source`: the sequence below which the worker refuses
  manifests was accepted from the source it now reads, as long as an enabled
  source only replaces another when its first policy is applied at once.

A pass that finds a new management section always takes it for its source, but
moves the counter only when a policy has been applied. If the runtime is busy
then, the counter of the old source stays and is asked of the new one:
`SwitchedSource` is such a run.
-/

open Lib

namespace ResticPal

/-- The worker, and every manifest that a load or a refresh has returned: its source and its sequence. -/
structure Ledger where
  state : ManagementState
  accepted : List (LocalManagementConfig × UInt64)

namespace ManagementState

/-- The manifest a step accepts. -/
def accepts (ext : External) (s : ManagementState) : ManagementLabel → List (LocalManagementConfig × UInt64)
  | .start loc credentials io _ _ | .activate loc credentials io _ _ =>
    match load_best_policy ext loc s.cache credentials io with
    | some (_, .ok (some loaded)) => [(loc.management, loaded.sequence)]
    | _ => []
  | .refresh loc credentials io _ _ =>
    match refresh_policy ext loc s.cache s.worker.sequence credentials io with
    | some (_, .ok loaded) => [(loc.management, loaded.sequence)]
    | _ => []
  | .disable _ => []

/-- A section that is new to the worker comes when its counter is at zero, or brings a policy that is applied. -/
def StartsAfresh (ext : External) (s : ManagementState) : ManagementLabel → Prop
  | .activate loc credentials io outcome _ => s.worker.sequence = 0 ∨ outcome = .ok .Applied ∧
      ∃ cache loaded, load_best_policy ext loc s.cache credentials io = some (cache, .ok (some loaded))
  | _ => True

end ManagementState

namespace Ledger

def step (ext : External) (s : Ledger) (l : ManagementLabel) : Option Ledger :=
  (s.state.step ext l).map fun state => ⟨state, s.accepted ++ s.state.accepts ext l⟩

variable {ext : External} {s u : Ledger} {l : ManagementLabel}

/-- The counter is at zero, or it is the sequence of a manifest of the current source. -/
def Bound (s : Ledger) : Prop :=
  s.state.worker.sequence = 0 ∨
    ∃ management, s.state.worker.source_identity = some management ∧
      (management, s.state.worker.sequence) ∈ s.accepted

/-- Trying to apply a manifest moves the counter to it or nowhere. -/
theorem attempt_sequence (sequence : UInt64) (loaded : LoadedPolicy)
    (outcome : Except PolicyError ManagedPolicyApplyOutcome) :
    (attempt sequence loaded outcome).sequence = loaded.sequence ∨
      outcome ≠ .ok .Applied ∧ (attempt sequence loaded outcome).sequence = sequence := by
  unfold attempt
  split
  · exact .inl rfl
  all_goals exact .inr ⟨by simp, rfl⟩

theorem Bound.activate {loc : LocalConfig} {credentials : Option CredentialStore} {io : FetchIo}
    {outcome : Except PolicyError ManagedPolicyApplyOutcome} {now : Instant}
    (hk : s.state.StartsAfresh ext (.activate loc credentials io outcome now))
    (hs : step ext s (.activate loc credentials io outcome now) = some u) : Bound u := by
  obtain ⟨state, hstate, rfl⟩ := Option.map_eq_some_iff.1 hs
  simp only [ManagementState.step, ManagementState.activate] at hstate
  split at hstate
  · cases hstate
  · obtain ⟨⟨cache, result⟩, hbest, rfl⟩ := Option.map_eq_some_iff.1 hstate
    rcases result with e | _ | loaded
    · rcases hk with hzero | ⟨-, cache', loaded, hload⟩
      · exact .inl hzero
      · rw [hbest] at hload
        cases hload
    · exact .inl rfl
    · rcases attempt_sequence s.state.worker.sequence loaded outcome with ha | ⟨hne, ha⟩
      · refine .inr ⟨loc.management, rfl, List.mem_append_right _ ?_⟩
        simp [ManagementState.attempted, ManagementState.accepts, hbest, ha]
      · rcases hk with hzero | ⟨happlied, -⟩
        · exact .inl (ha.trans hzero)
        · exact absurd happlied hne

theorem Bound.refresh {loc : LocalConfig} {credentials : Option CredentialStore} {io : FetchIo}
    {outcome : Except PolicyError ManagedPolicyApplyOutcome} {now : Instant} (h : Bound s)
    (hs : step ext s (.refresh loc credentials io outcome now) = some u) : Bound u := by
  obtain ⟨state, hstate, rfl⟩ := Option.map_eq_some_iff.1 hs
  simp only [ManagementState.step, ManagementState.refresh] at hstate
  split at hstate
  · cases hstate
  · rename_i hdue
    obtain ⟨-, hsource, -⟩ : _ ∧ s.state.worker.source_identity = some loc.management ∧ _ := by
      simpa only [not_or, not_not] using hdue
    have kept {sequence : UInt64} (hseq : sequence = s.state.worker.sequence) :
        sequence = 0 ∨ ∃ management, some loc.management = some management ∧
          (management, sequence) ∈
            s.accepted ++ s.state.accepts ext (.refresh loc credentials io outcome now) := by
      subst hseq
      rcases h with hzero | ⟨management, hm, hmem⟩
      · exact .inl hzero
      · exact .inr ⟨management, hsource.symm.trans hm, List.mem_append_left _ hmem⟩
    obtain ⟨⟨cache, result⟩, hrefreshed, rfl⟩ := Option.map_eq_some_iff.1 hstate
    cases result with
    | error e => exact kept rfl
    | ok loaded =>
      dsimp only
      split
      · rcases attempt_sequence s.state.worker.sequence loaded outcome with ha | ⟨-, ha⟩
        · refine .inr ⟨loc.management, rfl, List.mem_append_right _ ?_⟩
          simp [ManagementState.attempted, ManagementState.accepts, hrefreshed, ha]
        · exact kept ha
      · exact kept rfl

theorem Bound.step (h : Bound s) (hk : s.state.StartsAfresh ext l) (hs : step ext s l = some u) : Bound u := by
  cases l with
  | start loc credentials io installed now =>
    obtain ⟨state, hstate, rfl⟩ := Option.map_eq_some_iff.1 hs
    obtain ⟨best, -, rfl⟩ := Option.map_eq_some_iff.1 hstate
    exact .inl rfl
  | activate loc credentials io outcome now => exact Bound.activate hk hs
  | refresh loc credentials io outcome now => exact h.refresh hs
  | disable loc =>
    obtain ⟨state, hstate, rfl⟩ := Option.map_eq_some_iff.1 hs
    simp only [ManagementState.step, ManagementState.disable] at hstate
    split at hstate
    · obtain rfl := Option.some.inj hstate
      exact .inl rfl
    · cases hstate

/-- In every run of service starts and worker passes, over any management
sections, fetches and answers of the runtime, in which an enabled source
replaces another only when the counter is at zero or its first policy is applied
at once: what the worker asks of its source is zero or at most the sequence of a
manifest accepted from that source; and a genuine, usable manifest that is not
older than any manifest accepted from that source is fetched, not refused. -/
theorem counter_stays_with_source {s₀ : Ledger} {ls : List ManagementLabel} {now : Instant}
    (h₀ : s₀.state.worker = .new now)
    (h : Run (step ext) (fun s => s.state.StartsAfresh ext) s₀ ls s) {loc : LocalConfig}
    (hsource : s.state.worker.source_identity = some loc.management) :
    (s.state.worker.sequence = 0 ∨ ∃ n, (loc.management, n) ∈ s.accepted ∧ s.state.worker.sequence ≤ n) ∧
      ∀ credentials io bytes document v, request_document loc.management credentials io = .ok bytes →
        Text.from_utf8 bytes = some document → Genuine ext loc.management bytes v → Usable v io.fetched_at →
        (∀ n, (loc.management, n) ∈ s.accepted → n ≤ v.payload.sequence) →
        fetch_policy ext loc.management (some s.state.worker.sequence) credentials io =
          some (.ok (v.loaded, document)) := by
  have hbound : Bound s := h.inv Bound (fun _ _ _ hi hk hs => hi.step hk hs) (.inl (by rw [h₀]; rfl))
  have hfirst : s.state.worker.sequence = 0 ∨
      ∃ n, (loc.management, n) ∈ s.accepted ∧ s.state.worker.sequence ≤ n := by
    rcases hbound with hzero | ⟨management, hm, hmem⟩
    · exact .inl hzero
    · obtain rfl : loc.management = management := Option.some.inj (hsource.symm.trans hm)
      exact .inr ⟨_, hmem, UInt64.le_refl _⟩
  refine ⟨hfirst, fun credentials io bytes document v hrequest hutf8 hgenuine husable hnewest => ?_⟩
  have hmin : s.state.worker.sequence ≤ v.payload.sequence := by
    rcases hfirst with hzero | ⟨n, hmem, hle⟩
    · rw [hzero]
      exact UInt64.zero_le
    · exact UInt64.le_trans hle (hnewest n hmem)
  have hverify : verify_document ext loc.management bytes io.fetched_at (some s.state.worker.sequence) =
      some (.ok v) :=
    verify_document_eq_ok.2 ⟨hgenuine, fun minimum hm => Option.some.inj hm ▸ hmin, husable⟩
  simp [fetch_policy, hrequest, hverify, hutf8, bind, Except.bind, pure, Except.pure]

namespace SwitchedSource

open MisfitManifest (bytes)

def source (url : String) : LocalConfig where
  management := { mode := .PlainManifest, manifest_url := some url }

def before : LocalConfig := source "https://files.example.test/old.json"

def after : LocalConfig := source "https://files.example.test/new.json"

def started : Ledger := ⟨⟨.missing, .new 0, []⟩, []⟩

/-- The old source is active, with a manifest of sequence 12, and then the new one is, with
one of sequence 5 that finds the runtime in this state. -/
def switches (outcome : ManagedPolicyApplyOutcome) : List ManagementLabel :=
  [.activate before none (MisfitManifest.io (bytes 12 24)) (.ok .Applied) 1,
    .activate after none (MisfitManifest.io (bytes 5 24)) (.ok outcome) 1000]

def switched (outcome : ManagedPolicyApplyOutcome) : Option Ledger :=
  runList (step MisfitManifest.ext) (fun _ _ => True) started (switches outcome)

theorem busy_level : (switched .RuntimeBusy).map (fun s =>
      (s.state.worker.source_identity, s.state.worker.sequence, s.accepted)) =
    some (some after.management, 12, [(before.management, 12), (after.management, 5)]) := by decide +kernel

/-- The manifest of the new source is accepted while a backup runs. The next
refresh asks for the old source's sequence and refuses the same manifest. -/
theorem counter_leaks_into_new_source : ∃ s,
    Run (step MisfitManifest.ext) (fun _ _ => True) started (switches .RuntimeBusy) s ∧
    s.state.worker.source_identity = some after.management ∧ s.state.worker.sequence = 12 ∧
    s.accepted = [(before.management, 12), (after.management, 5)] ∧
    fetch_policy MisfitManifest.ext after.management (some s.state.worker.sequence) none (MisfitManifest.io (bytes 5 24)) =
      some (.error (.Manifest .RollbackAttempt)) := by
  obtain ⟨s, hs, hlevel⟩ := Option.map_eq_some_iff.1 busy_level
  obtain ⟨hsource, hsequence, haccepted⟩ : _ ∧ _ ∧ _ := by simpa only [Prod.mk.injEq] using hlevel
  refine ⟨s, .of_runList hs, hsource, hsequence, haccepted, ?_⟩
  rw [hsequence]
  decide +kernel

def activates (loc : LocalConfig) (document : Text.Bytes) (now : Instant) : ManagementLabel :=
  .activate loc none (MisfitManifest.io document) (.ok .Applied) now

def first : Ledger := (step MisfitManifest.ext started (activates before (bytes 12 24) 1)).get (by decide +kernel)

def second : Ledger := (step MisfitManifest.ext first (activates after (bytes 5 24) 1000)).get (by decide +kernel)

theorem first_run : Run (step MisfitManifest.ext) (fun s => s.state.StartsAfresh MisfitManifest.ext) started
    [activates before (bytes 12 24) 1] first :=
  .snoc .nil (.inl rfl) (Option.some_get _).symm

theorem second_loads : ∃ cache loaded, load_best_policy MisfitManifest.ext after first.state.cache none
    (MisfitManifest.io (bytes 5 24)) = some (cache, .ok (some loaded)) := by
  have hloads : (load_best_policy MisfitManifest.ext after first.state.cache none (MisfitManifest.io (bytes 5 24))).map
      (·.2) = some (.ok (some ⟨(MisfitManifest.manifest 5 24).policy, 5⟩)) := by decide +kernel
  obtain ⟨⟨cache, result⟩, hload, rfl⟩ := Option.map_eq_some_iff.1 hloads
  exact ⟨cache, _, hload⟩

theorem second_run : Run (step MisfitManifest.ext) (fun s => s.state.StartsAfresh MisfitManifest.ext) started
    [activates before (bytes 12 24) 1, activates after (bytes 5 24) 1000] second :=
  .snoc first_run (.inr ⟨rfl, second_loads⟩) (Option.some_get _).symm

/-- Applied at once, the new source's manifest sets the counter. -/
theorem applied_source_keeps_counter : second.state.worker.sequence = 0 ∨
    ∃ n, (after.management, n) ∈ second.accepted ∧ second.state.worker.sequence ≤ n := by
  have hsource : second.state.worker.source_identity = some after.management := by decide +kernel
  exact (counter_stays_with_source rfl second_run hsource).1

end SwitchedSource

end Ledger

end ResticPal
