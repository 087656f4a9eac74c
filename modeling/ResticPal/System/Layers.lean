import ResticPal.System.Locks
/-!
# The live configuration and a restart

The editing requests patch the effective configuration field by field and never
resolve it again. `live_config_is_resolved` says when that comes to the same as
a restart: in every run in which no edit clears a field, or replaces the
credentials, while an unlocked recommendation for it is in force. Blank text
means "none" to an edit but "not set" to the resolver, which then takes the
recommendation; `ClearedUrl` is such a run.
-/

open Lib

namespace ResticPal

/-! ## One field -/

/-- The effective value is what the resolver chooses for the local one. -/
def Layered {α : Type} (default : α) (managed : Option (Managed α)) (layers : Option α × α) : Prop :=
  layers.2 = (choice default layers.1 managed).1

section Field

variable {α : Type} {default : α} {managed : Option (Managed α)}

theorem layered_some (hu : managed.any (·.locked) = false) (value : α) :
    Layered default managed (some value, value) := by
  unfold Layered choice
  cases managed with
  | none => rfl
  | some m =>
    have : m.locked = false := hu
    simp [this]

/-- Without a local value, the effective one must be the recommendation or the default. -/
theorem layered_none {value : α} (hu : managed.any (·.locked) = false)
    (hv : value = managed.elim default (·.value)) : Layered default managed (none, value) := by
  unfold Layered choice
  cases managed with
  | none => exact hv
  | some m =>
    have : m.locked = false := hu
    simpa [this] using hv

theorem assign_layered {value : Option α} {edit : Option α × α → Option α × α} (he : assign value = some edit)
    (hu : managed.any (·.locked) = false) (layers : Option α × α) : Layered default managed (edit layers) := by
  obtain ⟨v, -, rfl⟩ := Option.map_eq_some_iff.1 he
  exact layered_some hu v

end Field

/-- The text does not clear the field, or there is no recommendation the resolver would take instead. -/
def KeepsText (managed : Option (Managed (Option String))) (text : Option String) : Prop :=
  ∀ t ∈ text, nonempty_trimmed t = none → ∀ m ∈ managed, m.locked = false → m.value = none

theorem assign_text_layered {managed : Option (Managed (Option String))} {text : Option String}
    {edit : Option (Option String) × Option String → Option (Option String) × Option String}
    (he : assign_text text = some edit) (hu : managed.any (·.locked) = false) (hk : KeepsText managed text)
    (layers : Option (Option String) × Option String) : Layered none managed (edit layers) := by
  obtain ⟨t, ht, rfl⟩ := Option.map_eq_some_iff.1 he
  dsimp only
  cases hb : nonempty_trimmed t with
  | some value => exact layered_some hu (some value)
  | none =>
    refine layered_none hu ?_
    cases managed with
    | none => rfl
    | some m => exact (hk t ht hb m rfl hu).symm

/-- References that differ only where the edits write are edited to the same. -/
theorem edit_refs_congr {secret_updates : List RepositorySecretUpdate} {references : List String}
    (hl : references.length = (stored_secrets secret_updates).length) {refs refs' : SecretRefs}
    (h : ∀ v, v ∉ secret_updates.map (·.target) → refs.get? v = refs'.get? v) :
    edit_refs refs secret_updates references = edit_refs refs' secret_updates references := by
  induction secret_updates generalizing references refs refs' with
  | nil =>
    have : refs = refs' := BTreeMap.ext_get? fun v => h v (by simp)
    rw [this]
  | cons update updates ih =>
    cases update with
    | Set v value =>
      cases references with
      | nil => simp [stored_secrets] at hl
      | cons reference references =>
        simp only [edit_refs]
        refine ih (by simpa [stored_secrets] using hl) fun w hw => ?_
        simp only [BTreeMap.get?_insert]
        split
        · rfl
        · rename_i hne
          exact h w (by simpa [RepositorySecretUpdate.target, hne] using hw)
    | Remove v =>
      have hstep (r : SecretRefs) : edit_refs r (.Remove v :: updates) references =
          edit_refs (r.erase v) updates references := by simp [edit_refs]
      rw [hstep, hstep]
      refine ih (by simpa [stored_secrets] using hl) fun w hw => ?_
      simp only [BTreeMap.get?_erase]
      split
      · rfl
      · rename_i hne
        exact h w (by simpa [RepositorySecretUpdate.target, hne] using hw)

/-- The local configuration has credentials already, or the changes cover every recommended one. -/
def KeepsSecrets (managed : Option (Managed SecretRefs)) (loc : Option SecretRefs)
    (secret_updates : List RepositorySecretUpdate) : Prop :=
  secret_updates ≠ [] → loc = none → ∀ m ∈ managed, m.locked = false →
    ∀ v ∈ m.value.keys, v ∈ secret_updates.map (·.target)

theorem assign_secrets_layered {managed : Option (Managed SecretRefs)} {secret_updates : List RepositorySecretUpdate}
    {references : List String} {edit : Option SecretRefs × SecretRefs → Option SecretRefs × SecretRefs}
    (he : assign_secrets secret_updates references = some edit) (hu : managed.any (·.locked) = false)
    (hl : references.length = (stored_secrets secret_updates).length) {layers : Option SecretRefs × SecretRefs}
    (hk : KeepsSecrets managed layers.1 secret_updates) (h : Layered ∅ managed layers) :
    Layered ∅ managed (edit layers) := by
  have hne := assign_secrets_isSome (Option.isSome_iff_exists.2 ⟨_, he⟩)
  obtain rfl : _ = edit := by simpa [assign_secrets, hne] using he
  obtain ⟨loc, effective⟩ := layers
  have hsame : edit_refs (loc.getD ∅) secret_updates references = edit_refs effective secret_updates references := by
    have heff : effective = (choice ∅ loc managed).1 := h
    cases loc with
    | some refs =>
      have : (choice ∅ (some refs) managed).1 = refs := (layered_some hu refs).symm
      rw [heff, this, Option.getD_some]
    | none =>
      cases managed with
      | none => rw [heff]; rfl
      | some m =>
        have hm : m.locked = false := hu
        have heff : effective = m.value := by simpa [choice, hm] using heff
        rw [heff]
        refine edit_refs_congr hl fun v hv => ?_
        rw [Option.getD_none, BTreeMap.get?_empty]
        by_contra hget
        exact hv (hk (by simpa using hne) rfl m rfl hm v (BTreeMap.mem_keys.2 (Option.isSome_iff_ne_none.2 (Ne.symm hget))))
  dsimp only
  rw [hsame]
  exact layered_some hu _

/-! ## All fields -/

/-- The request drops no recommendation that a restart would bring back. -/
def RequestCommand.KeepsRecommendations (policy : Option ManagedPolicy) (loc : LocalConfig) : RequestCommand → Prop
  | .UpdateRepository display_name url _ _ secret_updates =>
    KeepsText (managedField policy .RepositoryDisplayName) display_name ∧
      KeepsText (managedField policy .RepositoryUrl) url ∧
      KeepsSecrets (managedField policy .RepositorySecretRefs) loc.repository.secret_refs secret_updates
  | _ => True

/-- An accepted edit leaves every field as the resolver would choose it. -/
theorem Edited.layered {ext : External} {runtime : ServiceRuntime} {policy : Option ManagedPolicy}
    {command : RequestCommand} {references : List String} {candidate : Candidate}
    (h : Edited runtime (command.edits ext references) candidate) (hlocks : Locks runtime policy)
    (hstored : references.length = (stored_secrets command.secret_updates).length)
    (hk : command.KeepsRecommendations policy runtime.local_config)
    (hlayers : ∀ f, runtime.config.get f = (resolved {} runtime.local_config policy f).1) (f : PolicyField) :
    candidate.effective.get f = (resolved {} candidate.loc policy f).1 := by
  have hfields := h.fields f
  cases he : command.edits ext references f with
  | none =>
    rw [he] at hfields
    obtain ⟨hloc, heff⟩ := Prod.mk.inj hfields
    rw [heff, resolved, hloc]
    exact hlayers f
  | some edit =>
    have hu : (managedField policy f).any (·.locked) = false := by
      rw [← hlocks.locked f]
      exact h.unlocked f (by rw [he]; rfl)
    rw [he, Option.getD_some] at hfields
    suffices hl : Layered (({} : EffectiveConfig).get f) (managedField policy f)
        (edit (runtime.local_config.get f, runtime.config.get f)) by
      rw [← hfields] at hl
      exact hl
    cases command with
    | UpdateRepository display_name url mode options secret_updates =>
      obtain ⟨hname, hurl, hsecrets⟩ := hk
      cases f with
      | RepositoryDisplayName => exact assign_text_layered he hu hname _
      | RepositoryUrl => exact assign_text_layered he hu hurl _
      | RepositoryMode => exact assign_layered he hu _
      | RepositoryOptions => exact assign_layered he hu _
      | RepositorySecretRefs =>
        exact assign_secrets_layered he hu hstored hsecrets (hlayers .RepositorySecretRefs)
      | _ => cases he
    | UpdateUpdateSettings automatic_install =>
      cases f with
      | UpdateAutomaticInstall => exact @assign_layered Bool _ _ (some automatic_install) edit he hu _
      | _ => cases he
    | UpdateRetention | UpdateSchedule | UpdateBackupSources =>
      cases f <;> first | exact assign_layered he hu _ | cases he
    | _ => cases he

/-- What is loaded has a valid management section. -/
theorem local_config_management {parse_url : String → Option Url} {file : StoredFile LocalConfig} {loc : LocalConfig}
    (h : LocalConfigStore.load parse_url file = .ok loc) : loc.management.validate parse_url = .ok () := by
  cases file with
  | missing =>
    cases h
    rfl
  | contents config =>
    simp only [LocalConfigStore.load, LocalConfig.from_toml, check_bind_eq_ok, rejectIf_eq_ok, mapError_eq_ok,
      pure_eq_ok] at h
    obtain ⟨-, hm, rfl⟩ := h
    exact hm
  | _ => cases h

/-- A restart on the files of the runtime would compute its configuration. -/
structure Restartable (parse_url : String → Option Url) (runtime : ServiceRuntime) (policy : Option ManagedPolicy) :
    Prop where
  locks : Locks runtime policy
  resolved : ∃ resolved, resolve_config {} runtime.local_config policy = .ok resolved ∧
    runtime.config = resolved.effective
  management : runtime.local_config.management.validate parse_url = .ok ()
  store : ∃ store, runtime.config_store = some store ∧
    LocalConfigStore.load parse_url store.file = .ok runtime.local_config

namespace Restartable

variable {parse_url : String → Option Url} {before after : ServiceRuntime} {policy policy' : Option ManagedPolicy}

theorem of_same (h : Restartable parse_url before policy) (hc : SameConfig before after) :
    Restartable parse_url after policy where
  locks := h.locks.of_same hc
  resolved := by rw [hc.local_config, hc.config]; exact h.resolved
  management := by rw [hc.local_config]; exact h.management
  store := by rw [hc.local_config, hc.config_store]; exact h.store

/-- A configuration that was saved can be loaded again. -/
theorem of_stored (h : Restartable parse_url before policy) (hlocks : Locks after policy') {resolved : ResolvedConfig}
    (hr : resolve_config {} after.local_config policy' = .ok resolved) (hc : after.config = resolved.effective)
    (hm : after.local_config.management.validate parse_url = .ok ())
    (hs : after.config_store = before.stored after.local_config) : Restartable parse_url after policy' where
  locks := hlocks
  resolved := ⟨resolved, hr, hc⟩
  management := hm
  store := by
    obtain ⟨store, hstore, -⟩ := h.store
    have hschema : after.local_config.schema_version = CONFIG_SCHEMA_VERSION := ((resolve_config_eq_ok _ _ _).1 hr).1
    refine ⟨{ store with file := .contents after.local_config }, by rw [hs, ServiceRuntime.stored, hstore]; rfl, ?_⟩
    simp only [LocalConfigStore.load, LocalConfig.from_toml, check_bind_eq_ok, rejectIf_eq_ok, mapError_eq_ok,
      pure_eq_ok]
    exact ⟨by simp [hschema], hm, trivial⟩

theorem edited {ext : External} {command : RequestCommand} {references : List String} {candidate : Candidate}
    (h : Restartable parse_url before policy) (he : Edited before (command.edits ext references) candidate)
    (hstored : references.length = (stored_secrets command.secret_updates).length)
    (hk : command.KeepsRecommendations policy before.local_config) (hc : after.config = candidate.effective)
    (hl : after.local_config = candidate.loc) (hf : after.field_resolutions = before.field_resolutions)
    (hs : after.config_store = before.stored candidate.loc) : Restartable parse_url after policy := by
  obtain ⟨resolved, hr, hconfig⟩ := h.resolved
  obtain ⟨hschema, hpolicy, hvalid, -, hget, -⟩ := (resolve_config_eq_ok _ _ _).1 hr
  rw [← hconfig] at hvalid
  have hlayers := he.layered h.locks hstored hk fun f => by rw [hconfig]; exact hget f
  have hresolves : resolve_config {} candidate.loc policy = .ok ⟨candidate.effective, policy.map (·.revision),
      ((choose_all {} candidate.loc policy).run ∅).2⟩ :=
    (resolve_config_eq_ok _ _ _).2 ⟨he.schema_version.trans hschema, hpolicy, he.valid hvalid, rfl, hlayers,
      choose_all_fields _ _ _⟩
  refine h.of_stored (h.locks.edited he hc hf) (hl ▸ hresolves) hc ?_ (by rw [hs, hl])
  rw [hl, he.management]
  exact h.management

end Restartable

namespace System

variable {ext : External} {s u : System} {l : Label}

/-- No accepted request drops a recommendation that a restart would bring back. -/
def KeepsLayers (ext : External) (s : System) : Label → Prop
  | .request command elevated io => (s.runtime.handle_request ext command elevated io).2.isAccepted = true →
    command.KeepsRecommendations s.policy s.runtime.local_config
  | _ => True

theorem Restartable.step (h : Restartable ext.parse_url s.runtime s.policy) (hsound : Sound s)
    (hk : s.KeepsLayers ext l) (hs : step ext s l = some u) : Restartable ext.parse_url u.runtime u.policy := by
  cases config_effect hsound hs with
  | same same policy => exact policy ▸ h.of_same same
  | edited _ label edited config local_config field_resolutions config_store policy stored accepted =>
    subst label
    rw [policy]
    exact h.edited edited stored (hk accepted) config local_config field_resolutions config_store
  | unenrolled resolves local_config config field_resolutions config_store policy =>
    rw [policy]
    refine h.of_stored (.of_resolved resolves config field_resolutions) (local_config ▸ resolves) config ?_
      (by rw [config_store, local_config])
    rw [local_config]
    rfl
  | enrolled _ begins committed policy =>
    obtain ⟨resolved, hr, hc, hfields, -⟩ := committed.resolved
    rw [policy]
    exact (h.of_same begins).of_stored (.of_resolved hr hc hfields) hr hc committed.management committed.config_store
  | applied _ resolves installed policy =>
    have hlocal := installed.local_config
    rw [policy]
    exact ⟨.of_resolved resolves installed.config installed.field_resolutions,
      ⟨_, by rw [hlocal]; exact resolves, installed.config⟩, by rw [hlocal]; exact h.management,
      by rw [hlocal, installed.config_store]; exact h.store⟩

/-- In every run of a service that loaded its configuration, in which no accepted
request drops a recommendation: `config.toml` holds the local configuration in memory,
and resolving it with the policy in force gives the effective one. -/
theorem live_config_is_resolved {runtime : ServiceRuntime} {now : DateTime} {policy : Option ManagedPolicy}
    {config_store : LocalConfigStore} {credential_store : Option CredentialStore}
    {state_store : StoredFile PersistedScheduleState} {policy_cache : ManagedPolicyCache} {ls : List Label}
    (load : load_with_credentials_and_policy ext.parse_url config_store credential_store state_store policy_cache policy
      now = .ok runtime)
    (h : Run (step ext) (KeepsLayers ext) ⟨runtime, now, none, false, false, policy⟩ ls s) :
    ∃ store resolved, s.runtime.config_store = some store ∧
      LocalConfigStore.load ext.parse_url store.file = .ok s.runtime.local_config ∧
      resolve_config {} s.runtime.local_config s.policy = .ok resolved ∧ s.runtime.config = resolved.effective := by
  have h₀ : Restartable ext.parse_url runtime policy := by
    simp only [load_with_credentials_and_policy, bind_eq_ok, pure_eq_ok, mapError_eq_ok] at load
    obtain ⟨loc, hloc, resolved, hres, rfl⟩ := load
    refine ⟨.of_resolved hres rfl rfl, ⟨resolved, hres, rfl⟩, ?_, ⟨config_store, rfl, hloc⟩⟩
    exact local_config_management hloc
  obtain ⟨-, hs⟩ := run_inv (fun s => Restartable ext.parse_url s.runtime s.policy)
    (fun _ _ _ hsound hi hk hs => Restartable.step hi hsound hk hs) (.loaded _ _ _ _ load) h₀ h
  obtain ⟨store, hstore, hload⟩ := hs.store
  obtain ⟨resolved, hres, hc⟩ := hs.resolved
  exact ⟨store, resolved, hstore, hload, hres, hc⟩

namespace ClearedUrl

/-- A managed device with a repository of its own. -/
def loc : LocalConfig where
  repository := { url := some "D:\\home" }
  management := OfficeServer.management

/-- A policy that recommends another repository, without a lock. -/
def policy : ManagedPolicy :=
  { revision := "office", repository := { url := some { value := some "E:\\office", locked := false } } }

def runtime : ServiceRuntime :=
  from_resolved_with_state ⟨{ repository := { url := some "D:\\home" } }, some "office",
    ((choose_all {} loc (some policy)).run ∅).2⟩ loc {} ⟨none, .contents loc⟩ none .missing .missing .UNIX_EPOCH

theorem runtime_loads : load_with_credentials_and_policy MisfitManifest.ext.parse_url ⟨none, .contents loc⟩ none .missing
    .missing (some policy) .UNIX_EPOCH = .ok runtime := by decide

def started : System := ⟨runtime, .UNIX_EPOCH, none, false, false, some policy⟩

/-- The administrator enters a repository URL. -/
def edit (url : String) : Label := .request (.UpdateRepository none (some url) none none []) true (.quiet .UNIX_EPOCH)

def after (url : String) : Option System := step MisfitManifest.ext started (edit url)

theorem moved_isSome : (after "F:\\disk").isSome := by decide

theorem cleared_isSome : (after "").isSome := by decide

/-- An edit that names a repository is what a restart resolves to. -/
theorem moved_is_resolved : ∃ resolved,
    resolve_config {} ((after "F:\\disk").get moved_isSome).runtime.local_config (some policy) = .ok resolved ∧
      ((after "F:\\disk").get moved_isSome).runtime.config = resolved.effective := by
  have hk : started.KeepsLayers MisfitManifest.ext (edit "F:\\disk") := by
    refine fun _ => ⟨nofun, fun t ht hb => ?_, fun h => absurd rfl h⟩
    obtain rfl := Option.some.inj ht
    exact absurd hb (by decide)
  obtain ⟨store, resolved, -, -, hres, hc⟩ :=
    live_config_is_resolved runtime_loads (.snoc .nil hk (Option.some_get moved_isSome).symm)
  exact ⟨resolved, hres, hc⟩

/-- After an edit that clears the URL there is no repository, until a restart brings the recommended one. -/
theorem cleared_is_recommended : ∃ s, load_with_credentials_and_policy MisfitManifest.ext.parse_url
      ⟨none, .contents loc⟩ none .missing .missing (some policy) .UNIX_EPOCH = .ok runtime ∧
    Run (step MisfitManifest.ext) (fun _ _ => True) started [edit ""] s ∧ s.policy = some policy ∧
    s.runtime.config.repository.url = none ∧
    (resolve_config {} s.runtime.local_config s.policy).map (·.effective.repository.url) = .ok (some "E:\\office") :=
  ⟨(after "").get cleared_isSome, runtime_loads, .snoc .nil trivial (Option.some_get cleared_isSome).symm,
    by decide, by decide, by decide⟩

end ClearedUrl

end System

end ResticPal
