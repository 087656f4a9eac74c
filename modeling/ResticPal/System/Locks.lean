import ResticPal.System.Steps
/-!
# Managed locks

Each editing handler writes its own lock checks, and policies arrive from the
startup, the management worker and enrollments. `managed_locks_hold` says that
the fields the policy in force locks always have its values, whatever requests
come in between, and that an enrolled device uses the credentials its
enrollment stored and no others.
-/

open Lib

namespace ResticPal

/-- The runtime reports the locks of the policy, and keeps its values. -/
structure Locks (runtime : ServiceRuntime) (policy : Option ManagedPolicy) : Prop where
  locked : ∀ f, runtime.field_locked f = (managedField policy f).any (·.locked)
  value : ∀ f, ∀ m ∈ managedField policy f, m.locked = true → runtime.config.get f = m.value

namespace Locks

variable {before after : ServiceRuntime} {policy : Option ManagedPolicy}

theorem of_same (h : Locks before policy) (hc : SameConfig before after) : Locks after policy where
  locked f := by
    unfold ServiceRuntime.field_locked
    rw [hc.field_resolutions]
    exact h.locked f
  value f m hm hl := by
    rw [hc.config]
    exact h.value f m hm hl

theorem of_resolved {loc : LocalConfig} {resolved : ResolvedConfig}
    (hr : resolve_config {} loc policy = .ok resolved) (hc : after.config = resolved.effective)
    (hf : after.field_resolutions = resolved.fields) : Locks after policy := by
  obtain ⟨-, -, -, -, hget, hfields⟩ := (resolve_config_eq_ok _ _ _).1 hr
  constructor
  · intro f
    unfold ServiceRuntime.field_locked
    rw [hf, hfields, Option.any_some, resolved_locked]
  · intro f m hm hl
    rw [hc, hget]
    exact resolved_of_locked hm hl

/-- An edit leaves every locked field alone. -/
theorem edited {edits : Edits} {candidate : Candidate} (h : Locks before policy) (he : Edited before edits candidate)
    (hc : after.config = candidate.effective) (hf : after.field_resolutions = before.field_resolutions) :
    Locks after policy where
  locked f := by
    unfold ServiceRuntime.field_locked
    rw [hf]
    exact h.locked f
  value f m hm hl := by
    have hlocked : before.field_locked f = true := by
      rw [h.locked f, Option.mem_def.1 hm]
      exact hl
    have hnone : edits f = none := by
      by_contra hne
      have := he.unlocked f (Option.isSome_iff_ne_none.2 hne)
      simp [hlocked] at this
    rw [hc, he.get_of_none hnone]
    exact h.value f m hm hl

end Locks

/-- An enrolled device uses the credentials of its local configuration. -/
def OwnSecrets (runtime : ServiceRuntime) : Prop :=
  runtime.local_config.management.enrolled = true →
    runtime.config.repository.secret_refs = runtime.local_config.repository.secret_refs.getD ∅

/-- Without a managed value the resolver takes the local credentials. -/
theorem resolve_config_secret_refs {loc : LocalConfig} {policy : Option ManagedPolicy} {resolved : ResolvedConfig}
    (h : resolve_config {} loc policy = .ok resolved) (hp : managedField policy .RepositorySecretRefs = none) :
    resolved.effective.repository.secret_refs = loc.repository.secret_refs.getD ∅ := by
  obtain ⟨-, -, -, -, hget, -⟩ := (resolve_config_eq_ok _ _ _).1 h
  refine (hget .RepositorySecretRefs).trans ?_
  rw [ResticPal.resolved, hp]
  cases hl : loc.repository.secret_refs <;> simp [LocalConfig.get, choice, EffectiveConfig.get, hl]

theorem enrolled_key {management : LocalManagementConfig} (h : management.enrolled = true) :
    management.enrollment_key_ref.isSome = true :=
  (Bool.and_eq_true_iff.1 h).2

theorem OwnSecrets.of_same {before after : ServiceRuntime} (h : OwnSecrets before) (hc : SameConfig before after) :
    OwnSecrets after := by
  intro he
  rw [hc.local_config] at he ⊢
  rw [hc.config]
  exact h he

/-- An edit leaves the credentials of an enrolled device alone, in both layers. -/
theorem Edited.secrets_of_enrolled {runtime : ServiceRuntime} {edits : Edits} {candidate : Candidate}
    (h : Edited runtime edits candidate) (he : runtime.local_config.management.enrolled = true) :
    candidate.loc.repository.secret_refs = runtime.local_config.repository.secret_refs ∧
      candidate.effective.repository.secret_refs = runtime.config.repository.secret_refs := by
  have hnone : edits .RepositorySecretRefs = none := by
    by_contra hne
    have := h.unenrolled (Option.isSome_iff_ne_none.2 hne)
    simp [he] at this
  have hfields := h.fields .RepositorySecretRefs
  rw [hnone] at hfields
  exact Prod.mk.inj hfields

theorem OwnSecrets.edited {before after : ServiceRuntime} {edits : Edits} {candidate : Candidate} (h : OwnSecrets before)
    (he : Edited before edits candidate) (hc : after.config = candidate.effective)
    (hl : after.local_config = candidate.loc) : OwnSecrets after := by
  intro henrolled
  rw [hl, he.management] at henrolled
  obtain ⟨hloc, heff⟩ := he.secrets_of_enrolled henrolled
  rw [hc, hl, hloc, heff]
  exact h henrolled

/-- What a resolution installs uses the local credentials, if its policy names none for an enrolled device. -/
theorem OwnSecrets.of_resolved {after : ServiceRuntime} {policy : Option ManagedPolicy} {resolved : ResolvedConfig}
    (hr : resolve_config {} after.local_config policy = .ok resolved) (hc : after.config = resolved.effective)
    (hs : after.local_config.management.enrolled = true → managedField policy .RepositorySecretRefs = none) :
    OwnSecrets after := by
  intro henrolled
  rw [hc]
  exact resolve_config_secret_refs hr (hs henrolled)

/-- The policy in force governs the runtime. -/
structure Governed (runtime : ServiceRuntime) (policy : Option ManagedPolicy) : Prop where
  locks : Locks runtime policy
  secrets : OwnSecrets runtime

namespace System

variable {ext : External} {s u : System} {l : Label}

/-- Policies are applied as the management worker does: from `load_best_policy`
or `refresh_policy`, for a local configuration of the management they are
applied under. -/
def Delivered (ext : External) (_ : System) : Label → Prop
  | .applyPolicy policy expected _ _ =>
    ∃ loc, loc.management = expected ∧ (LoadedFor ext loc policy ∨ RefreshedFor ext loc policy)
  | _ => True

theorem delivered_no_secret_refs {loc : LocalConfig} {policy : ManagedPolicy}
    (h : LoadedFor ext loc policy ∨ RefreshedFor ext loc policy) (he : loc.management.enrolled = true) :
    managedField (some policy) .RepositorySecretRefs = none :=
  (validate_effective_policy_resolves (h.elim (·.validated) (·.validated))).1 (enrolled_key he)

theorem Locks.step (h : Locks s.runtime s.policy) (hsound : Sound s) (hs : step ext s l = some u) :
    Locks u.runtime u.policy := by
  cases config_effect hsound hs with
  | same same policy => exact policy ▸ h.of_same same
  | edited _ _ edited config _ field_resolutions _ policy => exact policy ▸ h.edited edited config field_resolutions
  | unenrolled resolves _ config field_resolutions _ policy => exact policy ▸ .of_resolved resolves config field_resolutions
  | enrolled _ _ committed policy =>
    obtain ⟨resolved, hr, hc, hfields, -⟩ := committed.resolved
    exact policy ▸ .of_resolved hr hc hfields
  | applied _ resolves installed policy =>
    exact policy ▸ .of_resolved resolves installed.config installed.field_resolutions

theorem OwnSecrets.step (h : OwnSecrets s.runtime) (hsound : Sound s) (hd : Delivered ext s l)
    (hs : step ext s l = some u) : OwnSecrets u.runtime := by
  cases config_effect hsound hs with
  | same same => exact h.of_same same
  | edited _ _ edited config local_config => exact h.edited edited config local_config
  | unenrolled resolves local_config config => exact .of_resolved (local_config ▸ resolves) config fun _ => rfl
  | enrolled _ _ committed =>
    obtain ⟨resolved, hr, hc, -, -⟩ := committed.resolved
    exact .of_resolved hr hc fun _ => committed.no_secret_refs
  | applied label resolves installed =>
    subst label
    obtain ⟨loc, hm, hdelivered⟩ := hd
    refine .of_resolved (installed.local_config ▸ resolves) installed.config fun he => ?_
    rw [installed.local_config, ← hm] at he
    exact delivered_no_secret_refs hdelivered he

theorem Governed.step (h : Governed s.runtime s.policy) (hsound : Sound s) (hd : Delivered ext s l)
    (hs : step ext s l = some u) : Governed u.runtime u.policy :=
  ⟨Locks.step h.locks hsound hs, OwnSecrets.step h.secrets hsound hd hs⟩

theorem Starts.locks (h : Starts ext s) : Locks s.runtime s.policy := by
  cases h with
  | loaded config_store credential_store state_store policy_cache load =>
    simp only [load_with_credentials_and_policy, bind_eq_ok, pure_eq_ok, mapError_eq_ok] at load
    obtain ⟨loc, -, resolved, hres, rfl⟩ := load
    exact .of_resolved hres rfl rfl
  | configurationError => exact ⟨fun _ => rfl, fun _ _ hm => by cases hm⟩

/-- The startup's policy is what `load_best_policy` returned for the local configuration. -/
theorem Starts.governed (h : Starts ext s) (hp : ∀ policy ∈ s.policy, LoadedFor ext s.runtime.local_config policy) :
    Governed s.runtime s.policy := by
  refine ⟨h.locks, ?_⟩
  cases h with
  | @loaded _ _ policy _ _ _ _ load =>
    simp only [load_with_credentials_and_policy, bind_eq_ok, pure_eq_ok, mapError_eq_ok] at load
    obtain ⟨loc, -, resolved, hres, rfl⟩ := load
    refine .of_resolved hres rfl fun he => ?_
    cases policy with
    | none => rfl
    | some policy => exact delivered_no_secret_refs (.inl (hp policy rfl)) he
  | configurationError => exact fun _ => rfl

/-! ## Requests -/

/-- A request that neither enters nor leaves management. -/
def Label.isOrdinaryRequest : Label → Bool
  | .request (.Enroll _) _ _ | .request .Unenroll _ _ => false
  | .request _ _ _ => true
  | _ => false

theorem ordinary_request_policy (hsound : Sound s) (hl : Label.isOrdinaryRequest l = true)
    (hs : step ext s l = some u) : u.policy = s.policy ∧ Delivered ext s l := by
  cases l with
  | request command elevated io =>
    cases step_effect hsound hs with
    | quiet => exact ⟨rfl, trivial⟩
    | request =>
      refine ⟨?_, trivial⟩
      cases command <;> first | rfl | cases hl
  | _ => cases hl

/-- Ordinary requests, however many, leave the policy in force and what it governs. -/
theorem ordinary_requests_governed {ls : List Label} (hsound : Sound s) (h : Governed s.runtime s.policy)
    (hr : Run (step ext) (fun _ l => Label.isOrdinaryRequest l = true) s ls u) :
    u.policy = s.policy ∧ Governed u.runtime u.policy := by
  refine (hr.inv (fun u => Sound u ∧ u.policy = s.policy ∧ Governed u.runtime u.policy) ?_ ⟨hsound, rfl, h⟩).2
  rintro t l u ⟨ht, hp, hg⟩ hl hs
  obtain ⟨hp', hd⟩ := ordinary_request_policy ht hl hs
  exact ⟨ht.step hs, hp'.trans hp, Governed.step hg ht hd hs⟩

/-- The credential references of both layers. -/
def secretRefs (s : System) : SecretRefs × Option SecretRefs :=
  (s.runtime.config.repository.secret_refs, s.runtime.local_config.repository.secret_refs)

/-- The credentials of an enrolled device only change when an enrollment commits. -/
theorem enrolled_secretRefs (hsound : Sound s) (h : Governed s.runtime s.policy) (hd : Delivered ext s l)
    (he : s.runtime.local_config.management.enrolled = true) (hs : step ext s l = some u)
    (hc : s.commits ext l = false) : u.secretRefs = s.secretRefs := by
  have resolved_same {policy : Option ManagedPolicy} {resolved : ResolvedConfig} {loc : LocalConfig}
      (hr : resolve_config {} loc policy = .ok resolved) (hp : managedField policy .RepositorySecretRefs = none)
      (hl : loc.repository = s.runtime.local_config.repository) (hul : u.runtime.local_config = loc)
      (huc : u.runtime.config = resolved.effective) : u.secretRefs = s.secretRefs := by
    have hsecrets := resolve_config_secret_refs hr hp
    rw [secretRefs, secretRefs, huc, hul, hsecrets, hl, h.secrets he]
  cases config_effect hsound hs with
  | same same => rw [secretRefs, same.config, same.local_config, ← secretRefs]
  | edited _ _ edited config local_config =>
    obtain ⟨hloc, heff⟩ := edited.secrets_of_enrolled he
    refine Prod.ext ?_ ?_
    · exact (congrArg (·.repository.secret_refs) config).trans heff
    · exact (congrArg (·.repository.secret_refs) local_config).trans hloc
  | unenrolled resolves local_config config => exact resolved_same resolves rfl rfl local_config config
  | enrolled commits => exact absurd (commits.symm.trans hc) (by decide)
  | applied label resolves installed =>
    subst label
    obtain ⟨loc, hm, hdelivered⟩ := hd
    refine resolved_same resolves ?_ rfl installed.local_config installed.config
    exact delivered_no_secret_refs hdelivered (hm ▸ he)

/-- In every run whose policies come from the startup, the management worker
and enrollments: each field that the policy in force locks has its value and is
reported as locked, and stays so under any requests other than `Enroll` and
`Unenroll`; an enrolled device uses its local credentials, which only an
enrollment that commits can change. -/
theorem managed_locks_hold {s₀ : System} {ls : List Label} (h₀ : Starts ext s₀)
    (hp : ∀ policy ∈ s₀.policy, LoadedFor ext s₀.runtime.local_config policy)
    (h : Run (step ext) (Delivered ext) s₀ ls s) :
    (∀ policy ∈ s.policy, ∀ f, ∀ m ∈ policy.get f, m.locked = true →
      (s.runtime.config.get f = m.value ∧ s.runtime.field_locked f = true) ∧
      ∀ requests u, Run (step ext) (fun _ l => Label.isOrdinaryRequest l = true) s requests u →
        u.policy = some policy ∧ u.runtime.config.get f = m.value ∧ u.runtime.field_locked f = true) ∧
    (s.runtime.local_config.management.enrolled = true →
      s.runtime.config.repository.secret_refs = s.runtime.local_config.repository.secret_refs.getD ∅ ∧
      ∀ l u, Delivered ext s l → step ext s l = some u → s.commits ext l = false → u.secretRefs = s.secretRefs) := by
  obtain ⟨hsound, hg⟩ : Sound s ∧ Governed s.runtime s.policy :=
    run_inv (fun s => Governed s.runtime s.policy) (fun _ _ _ hsound hi hd hs => Governed.step hi hsound hd hs) h₀
      (h₀.governed hp) h
  have locked {t : System} {policy : ManagedPolicy} {f : PolicyField} {m : Managed f.Value}
      (ht : Governed t.runtime t.policy) (hpolicy : t.policy = some policy) (hm : policy.get f = some m)
      (hl : m.locked = true) : t.runtime.config.get f = m.value ∧ t.runtime.field_locked f = true := by
    have hfield : managedField t.policy f = some m := by rw [hpolicy]; exact hm
    refine ⟨ht.locks.value f m hfield hl, ?_⟩
    rw [ht.locks.locked f, hfield]
    exact hl
  refine ⟨fun policy hpolicy f m hm hl => ⟨locked hg hpolicy hm hl, fun requests u hr => ?_⟩, fun he => ?_⟩
  · obtain ⟨hu, hgu⟩ := ordinary_requests_governed hsound hg hr
    exact ⟨hu.trans hpolicy, locked hgu (hu.trans hpolicy) hm hl⟩
  · exact ⟨hg.secrets he, fun l u hd hs => enrolled_secretRefs hsound hg hd he hs⟩

namespace LockedSchedule

open MisfitManifest (ext loc cache cached io)

/-- A service that started offline, under the cached policy that locks a daily schedule. -/
def started : System :=
  ⟨from_resolved_with_state ⟨{}, some "plain", ((choose_all {} loc (some cached.policy)).run ∅).2⟩ loc {}
    ⟨none, .contents loc⟩ none .missing cache .UNIX_EPOCH, .UNIX_EPOCH, none, false, false, some cached.policy⟩

theorem started_starts : Starts MisfitManifest.ext started :=
  .loaded ⟨none, .contents loc⟩ none .missing cache (by decide +kernel)

theorem policy_loaded : LoadedFor MisfitManifest.ext loc cached.policy :=
  ⟨cache, none, { io [] with response := .error "offline" }, cache, cached, by decide +kernel, rfl⟩

/-- An administrator asks for a backup every two days. -/
def label : Label := .request (.UpdateSchedule (some 48) none none none none) true (.quiet .UNIX_EPOCH)

def after : Option System := step MisfitManifest.ext started label

theorem after_isSome : after.isSome := by decide

theorem interval_stays_locked : (after.get after_isSome).runtime.config.schedule.interval_hours = 24 := by
  have hrun : Run (step MisfitManifest.ext) (fun _ l => Label.isOrdinaryRequest l = true) started [label]
      (after.get after_isSome) := .snoc .nil rfl (Option.some_get after_isSome).symm
  have hp : ∀ policy ∈ started.policy, LoadedFor MisfitManifest.ext started.runtime.local_config policy := by
    rintro policy ⟨⟩
    exact policy_loaded
  exact (((managed_locks_hold started_starts hp .nil).1 _ rfl .ScheduleIntervalHours _ rfl rfl).2 _ _ hrun).2.1

end LockedSchedule

end System

end ResticPal
