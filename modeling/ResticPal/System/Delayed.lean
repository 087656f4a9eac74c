import ResticPal.Runtime.Revision
import ResticPal.System.Locks
/-!
# Policies in flight

The management worker reads the management section from `config.toml`, talks to
the server, and only then applies what it got. `Courier` adds the policies on
their way to the service; any number of them, each with the section it was
fetched for.

- `policy_stays_with_source`: an application changes something only under the
  section its policy was fetched for; and once an unenrollment was accepted, no
  revision is reported and no field is locked until an enrollment commits,
  whatever is still in flight.
-/

open Lib

namespace ResticPal

/-- A policy on its way from the server, and the management section it was fetched for. -/
structure Fetched where
  policy : ManagedPolicy
  source : LocalManagementConfig

/-- The service and the policies in flight. -/
structure Courier where
  system : System
  inflight : List Fetched

inductive CourierLabel where
  | serve (l : Label)
  | fetch (policy : ManagedPolicy)
  | apply (i : Nat) (now : DateTime) (written : Bool)

def Label.isApplyPolicy : Label → Bool
  | .applyPolicy _ _ _ _ => true
  | _ => false

namespace Courier

/-- The worker reads `config.toml` and fetches a policy, unless management is disabled there. -/
def fetch (ext : External) (s : Courier) (policy : ManagedPolicy) : Option Courier := do
  let store ← s.system.runtime.config_store
  let loc ← (LocalConfigStore.load ext.parse_url store.file).toOption
  if loc.management.mode = .Disabled then none
  else some { s with inflight := s.inflight ++ [⟨policy, loc.management⟩] }

/-- Apply one of the policies in flight. -/
def apply (ext : External) (s : Courier) (i : Nat) (now : DateTime) (written : Bool) : Option Courier := do
  let fetched ← s.inflight[i]?
  let system ← s.system.step ext (.applyPolicy fetched.policy fetched.source now written)
  return ⟨system, s.inflight.eraseIdx i⟩

def step (ext : External) (s : Courier) : CourierLabel → Option Courier
  | .serve l => if l.isApplyPolicy then none else (s.system.step ext l).map fun system => { s with system }
  | .fetch policy => s.fetch ext policy
  | .apply i now written => s.apply ext i now written

end Courier

/-! ## One step of the service -/

theorem apply_managed_policy_reports {runtime : ServiceRuntime} {policy : ManagedPolicy}
    {expected : LocalManagementConfig} {now : DateTime} {written : Bool} {before : Option ManagedPolicy}
    (h : Reports runtime.state before) :
    Reports (runtime.apply_managed_policy_if_current policy expected now written).1.state
      (System.policy_applied policy (runtime.apply_managed_policy_if_current policy expected now written).2 before) := by
  unfold ServiceRuntime.apply_managed_policy_if_current
  split
  · exact h
  · split
    · exact h
    · rename_i resolved hres
      obtain ⟨-, -, -, hrevision, -⟩ := (resolve_config_eq_ok _ _ _).1 hres
      split
      · exact h
      · exact (install_resolved_revision resolved now written).trans hrevision

namespace System

variable {ext : External} {s u : System} {l : Label}

/-- The reported revision stays that of the policy in force. -/
theorem Reports.step (h : Reports s.runtime.state s.policy) (hs : step ext s l = some u) :
    Reports u.runtime.state u.policy := by
  cases step_ran hs with
  | request _ => exact request_reports h
  | beganEnroll begins =>
    obtain ⟨-, rfl⟩ := begin_enrollment_eq_some begins
    exact h
  | finishedEnroll _ => exact finish_enrollment_reports h
  | appliedPolicy => exact apply_managed_policy_reports h
  | evaluated evaluates => exact (evaluate_section_passedOn evaluates).revision.trans h
  | finishedUpdate _ => exact (finish_update_install_passedOn _ _ _).revision.trans h
  | finishedRepository => exact (finish_repository_revision _ _ _ _ _).trans h
  | progressed _ => exact (update_progress_revision _ _).trans h
  | beganRetention _ => exact (begin_retention_revision _ _).trans h
  | retained _ finishes =>
    subst finishes
    rw [finish_retention_runtime]
    exact h
  | finishedBackup _ finishes => exact (finish_backup_revision finishes).trans h
  | resumed | spawnFailed _ | copiedConfig _ | endedBackup _ => exact h

/-- A policy that is applied was fetched for a management section that is in use. -/
def ManagedSource : Label → Prop
  | .applyPolicy _ expected _ _ => expected.mode ≠ .Disabled
  | _ => True

/-- Without management there is no policy. -/
def Unruled (s : System) : Prop := s.runtime.local_config.management.mode = .Disabled → s.policy = none

theorem Unruled.of_same (h : Unruled s) (hl : u.runtime.local_config.management = s.runtime.local_config.management)
    (hp : u.policy = s.policy) : Unruled u := by
  intro hmode
  rw [hl] at hmode
  exact hp.trans (h hmode)

theorem Unruled.step (h : Unruled s) (hsound : Sound s) (hm : ManagedSource l) (hs : step ext s l = some u) :
    Unruled u := by
  cases config_effect hsound hs with
  | same same policy => exact h.of_same (congrArg _ same.local_config) policy
  | edited _ _ edited _ local_config _ _ policy =>
    exact h.of_same ((congrArg _ local_config).trans edited.management) policy
  | unenrolled _ _ _ _ _ policy => exact fun _ => policy
  | enrolled _ _ committed =>
    intro hmode
    rw [committed.managed] at hmode
    cases hmode
  | applied label _ installed =>
    subst label
    intro hmode
    rw [installed.local_config] at hmode
    exact absurd hmode hm

/-- Out of management there is nothing to apply, and only an enrollment leads back. -/
theorem unmanaged_step (hsound : Sound s) (hmode : s.runtime.local_config.management.mode = .Disabled)
    (hm : ManagedSource l) (hc : s.commits ext l = false) (hs : step ext s l = some u) :
    u.runtime.local_config.management.mode = .Disabled := by
  cases config_effect hsound hs with
  | same same => rw [same.local_config, hmode]
  | edited _ _ edited _ local_config => rw [local_config, edited.management, hmode]
  | unenrolled _ local_config =>
    rw [local_config]
    rfl
  | enrolled commits => exact absurd (commits.symm.trans hc) (by decide)
  | applied label =>
    subst label
    exact absurd hmode hm

/-- An accepted unenrollment leaves no management. -/
theorem unenrolled_mode {elevated : Bool} {io : RequestIo}
    (ha : (s.runtime.handle_request ext .Unenroll elevated io).2.isAccepted = true)
    (hs : step ext s (.request .Unenroll elevated io) = some u) :
    u.runtime.local_config.management.mode = .Disabled := by
  cases step_ran hs
  simp only [ServiceRuntime.handle_request, ServiceRuntime.unenroll] at ha ⊢
  split at ha
  · cases ha
  · split at ha
    · cases ha
    · rename_i helevated hbusy
      simp only [helevated, hbusy, if_false, Bool.false_eq_true]
      split at ha
      · rename_i response hwrites
        rcases unenroll_writes_eq_error hwrites with hr | hmode
        · rw [hr] at ha
          cases ha
        · exact hmode
      · rename_i written resolved hwrites
        obtain ⟨-, -, hwritten⟩ := unenroll_writes_eq_ok hwrites
        dsimp only
        rw [hwritten]
        rfl

end System

/-! ## Runs -/

namespace Courier

variable {ext : External} {s u : Courier} {l : CourierLabel}

/-- The step commits an enrollment. -/
def commits (ext : External) (s : Courier) : CourierLabel → Bool
  | .serve l => s.system.commits ext l
  | _ => false

/-- Every policy in flight was fetched for a management section that was in use. -/
def Managed (s : Courier) : Prop := ∀ fetched ∈ s.inflight, fetched.source.mode ≠ .Disabled

/-- A step fetches, or is a step of the service; what it applies was in flight. -/
theorem step_cases (h : Managed s) (hs : step ext s l = some u) : Managed u ∧
    (u.system = s.system ∨ ∃ label, System.ManagedSource label ∧ s.system.commits ext label = s.commits ext l ∧
      s.system.step ext label = some u.system) := by
  cases l with
  | serve l =>
    simp only [step] at hs
    split at hs
    · cases hs
    · rename_i hl
      obtain ⟨system, hsystem, rfl⟩ := Option.map_eq_some_iff.1 hs
      refine ⟨h, .inr ⟨l, ?_, rfl, hsystem⟩⟩
      cases l with
      | applyPolicy => exact absurd rfl hl
      | _ => trivial
  | fetch policy =>
    obtain ⟨store, -, hs⟩ := Option.bind_eq_some_iff.1 hs
    obtain ⟨loc, -, hs⟩ := Option.bind_eq_some_iff.1 hs
    split at hs
    · cases hs
    · rename_i hmode
      obtain rfl := Option.some.inj hs
      refine ⟨fun fetched hf => ?_, .inl rfl⟩
      rcases List.mem_append.1 hf with hf | hf
      · exact h fetched hf
      · rw [List.mem_singleton.1 hf]
        exact hmode
  | apply i now written =>
    obtain ⟨fetched, hf, hs⟩ := Option.bind_eq_some_iff.1 hs
    obtain ⟨system, hsystem, hs⟩ := Option.bind_eq_some_iff.1 hs
    obtain rfl := Option.some.inj hs
    refine ⟨fun fetched' hf' => h fetched' (List.mem_of_mem_eraseIdx hf'), .inr ⟨_, ?_, rfl, hsystem⟩⟩
    exact h fetched (List.mem_of_getElem? hf)

/-- Locks and revision are those of the policy in force, and without management there is none. -/
structure Attributed (s : Courier) : Prop where
  sound : s.system.Sound
  locks : Locks s.system.runtime s.system.policy
  reports : Reports s.system.runtime.state s.system.policy
  unruled : s.system.Unruled
  managed : Managed s

theorem Attributed.step (h : Attributed s) (hs : step ext s l = some u) : Attributed u := by
  obtain ⟨hm, hsystem | ⟨label, hsource, -, hstep⟩⟩ := step_cases h.managed hs
  · exact ⟨hsystem ▸ h.sound, hsystem ▸ h.locks, hsystem ▸ h.reports, hsystem ▸ h.unruled, hm⟩
  · exact ⟨h.sound.step hstep, System.Locks.step h.locks h.sound hstep, System.Reports.step h.reports hstep,
      h.unruled.step h.sound hsource hstep, hm⟩

theorem Attributed.start (h₀ : System.Starts ext s.system)
    (hp : ∀ policy ∈ s.system.policy, LoadedFor ext s.system.runtime.local_config policy) (hq : s.inflight = []) :
    Attributed s := by
  refine ⟨h₀.sound, h₀.locks, ?_, fun hmode => ?_, fun fetched hf => ?_⟩
  · generalize s.system = system at h₀
    cases h₀ with
    | loaded config_store credential_store state_store policy_cache load =>
      simp only [load_with_credentials_and_policy, bind_eq_ok, pure_eq_ok, mapError_eq_ok] at load
      obtain ⟨loc, -, resolved, hres, rfl⟩ := load
      exact ((resolve_config_eq_ok _ _ _).1 hres).2.2.2.1
    | configurationError => rfl
  · rw [Option.eq_none_iff_forall_not_mem]
    intro policy hpolicy
    obtain ⟨cache, credentials, io, cache', loaded, hload, -⟩ := hp policy hpolicy
    simp [load_best_policy, hmode] at hload
  · rw [hq] at hf
    cases hf

/-- What an attributed service without management reports. -/
theorem Attributed.unlocked (h : Attributed s) (hmode : s.system.runtime.local_config.management.mode = .Disabled) :
    s.system.runtime.state.status.managed_revision = none ∧ ∀ f, s.system.runtime.field_locked f = false := by
  have hnone := h.unruled hmode
  refine ⟨?_, fun f => ?_⟩
  · have := h.reports
    rw [hnone] at this
    exact this
  · rw [h.locks.locked f, hnone]
    rfl

/-- In every run of a service that starts with what `load_best_policy` gave it,
with any policies fetched and applied at any time: an application that changes
the effective configuration, the locks or the reported revision happens under
the management section its policy was fetched for; and after an accepted
unenrollment, until an enrollment commits, no revision is reported and no field
is locked. -/
theorem policy_stays_with_source {s₀ : Courier} {ls : List CourierLabel} (h₀ : System.Starts ext s₀.system)
    (hp : ∀ policy ∈ s₀.system.policy, LoadedFor ext s₀.system.runtime.local_config policy)
    (hq : s₀.inflight = []) (h : Run (step ext) (fun _ _ => True) s₀ ls s) :
    (∀ i fetched now written u, s.inflight[i]? = some fetched → step ext s (.apply i now written) = some u →
      (u.system.runtime.config ≠ s.system.runtime.config ∨
        u.system.runtime.field_resolutions ≠ s.system.runtime.field_resolutions ∨
        u.system.runtime.state.status.managed_revision ≠ s.system.runtime.state.status.managed_revision) →
      s.system.runtime.local_config.management = fetched.source) ∧
    ∀ elevated io t, (s.system.runtime.handle_request ext .Unenroll elevated io).2.isAccepted = true →
      step ext s (.serve (.request .Unenroll elevated io)) = some t →
      ∀ ls' u, Run (step ext) (fun s l => s.commits ext l = false) t ls' u →
        u.system.runtime.state.status.managed_revision = none ∧ ∀ f, u.system.runtime.field_locked f = false := by
  have hinv : Attributed s := h.inv Attributed (fun _ _ _ hi _ hs => hi.step hs) (.start h₀ hp hq)
  refine ⟨fun i fetched now written u hf hs hchanged => ?_, fun elevated io t haccepted hs ls' u hu => ?_⟩
  · obtain ⟨fetched', hf', hs⟩ := Option.bind_eq_some_iff.1 hs
    obtain rfl : fetched = fetched' := Option.some.inj (hf.symm.trans hf')
    obtain ⟨system, hsystem, hs⟩ := Option.bind_eq_some_iff.1 hs
    obtain rfl := Option.some.inj hs
    obtain ⟨after, hafter, rfl⟩ := Option.map_eq_some_iff.1 hsystem
    cases hafter
    rcases @apply_managed_policy_applied s.system.runtime fetched.policy fetched.source now written with
      ⟨hr, -⟩ | ⟨-, hm, -⟩
    · rw [hr] at hchanged
      simp at hchanged
    · exact hm
  · obtain ⟨system, hsystem, rfl⟩ := Option.map_eq_some_iff.1 hs
    have hmode : system.runtime.local_config.management.mode = .Disabled := System.unenrolled_mode haccepted hsystem
    have hleft := hu.inv
      (fun u => Attributed u ∧ u.system.runtime.local_config.management.mode = .Disabled) (fun v l w hi hc hs => ?_)
      ⟨hinv.step hs, hmode⟩
    · exact hleft.1.unlocked hleft.2
    · refine ⟨hi.1.step hs, ?_⟩
      obtain ⟨-, hsame | ⟨label, hsource, hcommits, hstep⟩⟩ := step_cases hi.1.managed hs
      · rw [hsame]
        exact hi.2
      · exact System.unmanaged_step hi.1.sound hi.2 hsource (hcommits.trans hc) hstep

namespace LatePolicy

open System.LockedSchedule (started_starts policy_loaded)
open MisfitManifest (manifest)

/-- A service that started offline, under the cached policy that locks a daily schedule. -/
def started : Courier := ⟨System.LockedSchedule.started, []⟩

/-- A later policy is fetched. -/
def fetched : Courier := (step MisfitManifest.ext started (.fetch (manifest 13 48).policy)).get (by decide)

def unenroll : Label := .request .Unenroll true (.quiet .UNIX_EPOCH)

/-- The administrator takes the device out of management. -/
def left : Courier := (step MisfitManifest.ext fetched (.serve unenroll)).get (by decide)

/-- The policy arrives. -/
def arrived : Courier := (step MisfitManifest.ext left (.apply 0 .UNIX_EPOCH true)).get (by decide)

/-- A policy that was in flight when the device left management locks nothing. -/
theorem late_policy_locks_nothing : fetched.inflight.length = 1 ∧
    fetched.system.runtime.field_locked .ScheduleIntervalHours = true ∧
    arrived.system.runtime.state.status.managed_revision = none ∧
    arrived.system.runtime.field_locked .ScheduleIntervalHours = false := by
  have hp : ∀ policy ∈ started.system.policy,
      LoadedFor MisfitManifest.ext started.system.runtime.local_config policy := by
    rintro policy ⟨⟩
    exact policy_loaded
  have hfetched : Run (step MisfitManifest.ext) (fun _ _ => True) started [.fetch (manifest 13 48).policy] fetched :=
    .snoc .nil trivial (Option.some_get _).symm
  have harrived : Run (step MisfitManifest.ext) (fun s l => s.commits MisfitManifest.ext l = false) left
      [.apply 0 .UNIX_EPOCH true] arrived := .snoc .nil rfl (Option.some_get _).symm
  have hleft := (policy_stays_with_source started_starts hp rfl hfetched).2 true (.quiet .UNIX_EPOCH) left (by decide)
    (Option.some_get _).symm _ _ harrived
  exact ⟨by decide, by decide, hleft.1, hleft.2 _⟩

end LatePolicy

end Courier

end ResticPal
