import ResticPal.Core.Validity
import ResticPal.Runtime.References
import ResticPal.System.Frozen
import ResticPal.System.Layers
/-!
# The local configuration without a policy

- `saved_config_stands_alone`: what is saved in `config.toml` can be used
  without a managed policy, so that an unenrollment is not refused for it and a
  start without a policy succeeds, in every run in which no retention edit
  leaves all four local counts at zero while the effective ones are not.

The edits are validated in the effective configuration only. Field by field
that is enough, since an edit writes the same value to both layers. The rule
about the four retention counts is the one a locked count can hide:
`MaskedRetention` is such a run.
-/

open Lib

namespace ResticPal

/-- The local configuration can be resolved without a policy. -/
def LocalConfig.StandsAlone (loc : LocalConfig) : Prop := ∃ resolved, resolve_config {} loc none = .ok resolved

/-! ## Edits -/

section Edits

variable {ext : External} {runtime : ServiceRuntime} {command : RequestCommand} {references : List String}
  {candidate : Candidate}

theorem assign_local {α : Type} {value : Option α} {edit : Option α × α → Option α × α} (he : assign value = some edit)
    (layers : Option α × α) {v : α} (hv : v ∈ (edit layers).1) : v = (edit layers).2 := by
  obtain ⟨w, -, rfl⟩ := Option.map_eq_some_iff.1 he
  exact (Option.some.inj hv).symm

theorem assign_text_local {text : Option String}
    {edit : Option (Option String) × Option String → Option (Option String) × Option String}
    (he : assign_text text = some edit) (layers : Option (Option String) × Option String) {v : Option String}
    (hv : v ∈ (edit layers).1) : v = (edit layers).2 := by
  obtain ⟨t, -, rfl⟩ := Option.map_eq_some_iff.1 he
  obtain ⟨trimmed, ht, rfl⟩ := Option.map_eq_some_iff.1 hv
  exact ht.symm

/-- But for the credentials, an edit that sets a local value sets the effective one to it. -/
theorem RequestCommand.edits_local {f : PolicyField} {edit : Option f.Value × f.Value → Option f.Value × f.Value}
    (he : command.edits ext references f = some edit) (hf : f ≠ .RepositorySecretRefs)
    (layers : Option f.Value × f.Value) {v : f.Value} (hv : v ∈ (edit layers).1) : v = (edit layers).2 := by
  cases command with
  | UpdateRepository display_name url mode options secret_updates =>
    cases f with
    | RepositoryDisplayName | RepositoryUrl => exact assign_text_local he layers hv
    | RepositoryMode | RepositoryOptions => exact assign_local he layers hv
    | RepositorySecretRefs => exact absurd rfl hf
    | _ => cases he
  | UpdateUpdateSettings automatic_install =>
    cases f with
    | UpdateAutomaticInstall => exact @assign_local Bool (some automatic_install) edit he layers v hv
    | _ => cases he
  | UpdateRetention | UpdateSchedule | UpdateBackupSources =>
    cases f <;> first | exact assign_local he layers hv | cases he
  | _ => cases he

/-- The edited credentials of the local layer are new, and then also in effect, or were there before. -/
theorem edit_refs_valid {loc effective : SecretRefs} {updates : List RepositorySecretUpdate}
    (hl : references.length = (stored_secrets updates).length)
    (hloc : PolicyField.Valid .RepositorySecretRefs loc)
    (heff : PolicyField.Valid .RepositorySecretRefs (edit_refs effective updates references)) :
    PolicyField.Valid .RepositorySecretRefs (edit_refs loc updates references) := by
  intro reference hr
  obtain ⟨v, hv⟩ := BTreeMap.mem_values.1 hr
  by_cases ht : v ∈ updates.map (·.target)
  · rw [edit_refs_of_mem loc effective hl ht] at hv
    exact heff reference (BTreeMap.mem_values.2 ⟨v, hv⟩)
  · rw [edit_refs_of_not_mem loc ht] at hv
    exact hloc reference (BTreeMap.mem_values.2 ⟨v, hv⟩)

theorem assign_secrets_valid {secret_updates : List RepositorySecretUpdate}
    {edit : Option SecretRefs × SecretRefs → Option SecretRefs × SecretRefs}
    (he : assign_secrets secret_updates references = some edit)
    (hl : references.length = (stored_secrets secret_updates).length) {layers : Option SecretRefs × SecretRefs}
    (hloc : ∀ refs ∈ layers.1, PolicyField.Valid .RepositorySecretRefs refs)
    (heff : PolicyField.Valid .RepositorySecretRefs (edit layers).2) :
    ∀ refs ∈ (edit layers).1, PolicyField.Valid .RepositorySecretRefs refs := by
  have hne := assign_secrets_isSome (Option.isSome_iff_exists.2 ⟨_, he⟩)
  obtain rfl : _ = edit := by simpa [assign_secrets, hne] using he
  intro refs hr
  obtain rfl := Option.some.inj hr
  refine edit_refs_valid hl ?_ heff
  cases hs : layers.1 with
  | none => exact PolicyField.default_valid .RepositorySecretRefs
  | some refs => exact hloc refs hs

/-- Every value an accepted edit leaves in the local layer is valid. -/
theorem Edited.valid_local (h : Edited runtime (command.edits ext references) candidate)
    (hstored : references.length = (stored_secrets command.secret_updates).length)
    (hvalid : ∀ f : PolicyField, f.Valid (candidate.effective.get f))
    (hloc : ∀ f : PolicyField, ∀ value ∈ runtime.local_config.get f, f.Valid value) :
    ∀ f : PolicyField, ∀ value ∈ candidate.loc.get f, f.Valid value := by
  intro f value hv
  obtain ⟨hl, he⟩ := Prod.ext_iff.1 (h.fields f)
  have hvalid := hvalid f
  dsimp only at hl he
  rw [hl] at hv
  rw [he] at hvalid
  rcases Option.eq_none_or_eq_some (command.edits ext references f) with hnone | ⟨edit, hsome⟩
  · rw [hnone] at hv
    exact hloc f value hv
  · rw [hsome, Option.getD_some] at hv hvalid
    by_cases hf : f = .RepositorySecretRefs
    · subst hf
      cases command with
      | UpdateRepository display_name url mode options secret_updates =>
        exact assign_secrets_valid hsome hstored (hloc .RepositorySecretRefs) hvalid value hv
      | _ => cases hsome
    · rw [RequestCommand.edits_local hsome hf _ hv]
      exact hvalid

/-- The request leaves the four local counts at zero only when the effective
ones, which are validated, are too. -/
def RequestCommand.Unmasked (runtime : ServiceRuntime) : RequestCommand → Prop
  | .UpdateRetention daily weekly monthly yearly _ =>
    let loc := runtime.local_config.retention
    let effective := runtime.config.retention
    daily.or loc.daily = some 0 ∧ weekly.or loc.weekly = some 0 ∧ monthly.or loc.monthly = some 0 ∧
        yearly.or loc.yearly = some 0 →
      daily.getD effective.daily = 0 ∧ weekly.getD effective.weekly = 0 ∧ monthly.getD effective.monthly = 0 ∧
        yearly.getD effective.yearly = 0
  | _ => True

theorem assign_layers {α : Type} (value loc : Option α) (effective : α) :
    (assign value).getD id (loc, effective) = (value.or loc, value.getD effective) := by
  cases value <;> rfl

/-- An accepted edit keeps a count in the local layer. -/
theorem Edited.keeps_some (h : Edited runtime (command.edits ext references) candidate)
    (hvalid : candidate.effective.retention.keeps_none = false) (hu : command.Unmasked runtime)
    (hloc : runtime.local_config.keeps_none = false) : candidate.loc.keeps_none = false := by
  have hd := h.fields .RetentionDaily
  have hw := h.fields .RetentionWeekly
  have hm := h.fields .RetentionMonthly
  have hy := h.fields .RetentionYearly
  cases command with
  | UpdateRetention daily weekly monthly yearly prune_interval_days =>
    obtain ⟨hd, hd'⟩ := Prod.mk.inj (hd.trans (assign_layers daily _ _))
    obtain ⟨hw, hw'⟩ := Prod.mk.inj (hw.trans (assign_layers weekly _ _))
    obtain ⟨hm, hm'⟩ := Prod.mk.inj (hm.trans (assign_layers monthly _ _))
    obtain ⟨hy, hy'⟩ := Prod.mk.inj (hy.trans (assign_layers yearly _ _))
    simp only [LocalConfig.get, EffectiveConfig.get] at hd hd' hw hw' hm hm' hy hy'
    by_contra hnone
    rw [LocalConfig.keeps_none, hd, hw, hm, hy] at hnone
    simp only [Bool.not_eq_false, Bool.and_eq_true, beq_iff_eq] at hnone
    obtain ⟨zd, zw, zm, zy⟩ := hu ⟨hnone.1.1.1, hnone.1.1.2, hnone.1.2, hnone.2⟩
    rw [RetentionConfig.keeps_none, hd', hw', hm', hy', zd, zw, zm, zy] at hvalid
    cases hvalid
  | _ =>
    have hd : candidate.loc.retention.daily = runtime.local_config.retention.daily := congrArg Prod.fst hd
    have hw : candidate.loc.retention.weekly = runtime.local_config.retention.weekly := congrArg Prod.fst hw
    have hm : candidate.loc.retention.monthly = runtime.local_config.retention.monthly := congrArg Prod.fst hm
    have hy : candidate.loc.retention.yearly = runtime.local_config.retention.yearly := congrArg Prod.fst hy
    rw [LocalConfig.keeps_none, hd, hw, hm, hy]
    exact hloc

/-- An accepted edit leaves a local configuration that stands alone. -/
theorem Edited.standsAlone (h : Edited runtime (command.edits ext references) candidate)
    (hstored : references.length = (stored_secrets command.secret_updates).length)
    (hvalid : runtime.config.validate = .ok ()) (hu : command.Unmasked runtime)
    (hloc : runtime.local_config.StandsAlone) : candidate.loc.StandsAlone := by
  obtain ⟨hschema, hfields, hnone⟩ := resolves_alone_iff.1 hloc
  obtain ⟨heff, heffnone⟩ := EffectiveConfig.validate_iff.1 (h.valid hvalid)
  exact resolves_alone_iff.2 ⟨h.schema_version.trans hschema, h.valid_local hstored heff hfields,
    h.keeps_some heffnone hu hnone⟩

end Edits

/-! ## The other changes -/

/-- Leaving management changes no field. -/
theorem LocalConfig.StandsAlone.unmanaged {loc : LocalConfig} (h : loc.StandsAlone) :
    (unmanaged_config loc).StandsAlone := by
  have hget (f : PolicyField) : (unmanaged_config loc).get f = loc.get f := by cases f <;> rfl
  obtain ⟨hschema, hfields, hnone⟩ := resolves_alone_iff.1 h
  refine resolves_alone_iff.2 ⟨hschema, fun f => ?_, hnone⟩
  rw [hget f]
  exact hfields f

/-- An enrollment writes credentials only, and its policy leaves them to the local layer. -/
theorem EnrollCommitted.standsAlone {parse_url : String → Option Url} {before after : ServiceRuntime}
    {policy : ManagedPolicy} (h : EnrollCommitted parse_url before after policy)
    (hloc : before.local_config.StandsAlone) : after.local_config.StandsAlone := by
  obtain ⟨hschema, hfields, hnone⟩ := resolves_alone_iff.1 hloc
  refine resolves_alone_iff.2 ⟨h.schema_version.trans hschema, fun f value hv => ?_, ?_⟩
  · by_cases hf : f = .RepositorySecretRefs
    · subst hf
      obtain ⟨resolved, hres, -⟩ := h.resolved
      obtain ⟨-, -, hvalid, -, hget, -⟩ := (resolve_config_eq_ok _ _ _).1 hres
      have hm : managedField (some policy) .RepositorySecretRefs = none := h.no_secret_refs
      have hrefs := hget .RepositorySecretRefs
      rw [ResticPal.resolved, hm, Option.mem_def.1 hv] at hrefs
      have hvalid := (EffectiveConfig.validate_iff.1 hvalid).1 .RepositorySecretRefs
      rwa [hrefs] at hvalid
    · rw [h.fields f hf] at hv
      exact hfields f value hv
  · have hd : after.local_config.retention.daily = _ := h.fields .RetentionDaily (by simp)
    have hw : after.local_config.retention.weekly = _ := h.fields .RetentionWeekly (by simp)
    have hm : after.local_config.retention.monthly = _ := h.fields .RetentionMonthly (by simp)
    have hy : after.local_config.retention.yearly = _ := h.fields .RetentionYearly (by simp)
    rw [LocalConfig.keeps_none, hd, hw, hm, hy]
    exact hnone

/-- The local configuration in memory and the one in `config.toml` stand alone. -/
structure ServiceRuntime.Alone (parse_url : String → Option Url) (runtime : ServiceRuntime) : Prop where
  alone : runtime.local_config.StandsAlone
  management : runtime.local_config.management.validate parse_url = .ok ()
  saved : ∃ store loc, runtime.config_store = some store ∧
    LocalConfigStore.load parse_url store.file = .ok loc ∧ loc.StandsAlone

namespace ServiceRuntime.Alone

variable {parse_url : String → Option Url} {before after : ServiceRuntime}

theorem of_same (h : before.Alone parse_url) (hs : SameConfig before after) : after.Alone parse_url where
  alone := hs.local_config ▸ h.alone
  management := hs.local_config ▸ h.management
  saved := by rw [hs.config_store]; exact h.saved

/-- A configuration that was saved can be loaded again. -/
theorem of_stored (h : before.Alone parse_url) (ha : after.local_config.StandsAlone)
    (hm : after.local_config.management.validate parse_url = .ok ())
    (hs : after.config_store = before.stored after.local_config) : after.Alone parse_url where
  alone := ha
  management := hm
  saved := by
    obtain ⟨store, -, hstore, -⟩ := h.saved
    have hschema := (resolves_alone_iff.1 ha).1
    refine ⟨{ store with file := .contents after.local_config }, after.local_config, ?_, ?_, ha⟩
    · rw [hs, ServiceRuntime.stored, hstore]
      rfl
    · simp only [LocalConfigStore.load, LocalConfig.from_toml, check_bind_eq_ok, rejectIf_eq_ok, mapError_eq_ok,
        pure_eq_ok]
      exact ⟨by simp [hschema], hm, trivial⟩

/-- What a restart without a policy finds can be loaded. -/
theorem loads (h : before.Alone parse_url) : ∃ store, before.config_store = some store ∧
    ∀ credential_store state_store policy_cache now, ∃ runtime, load_with_credentials_and_policy parse_url store
      credential_store state_store policy_cache none now = .ok runtime := by
  obtain ⟨store, loc, hstore, hload, resolved, hres⟩ := h.saved
  refine ⟨store, hstore, fun credential_store state_store policy_cache now => ?_⟩
  simp only [load_with_credentials_and_policy, bind_eq_ok, pure_eq_ok, mapError_eq_ok]
  exact ⟨_, loc, hload, resolved, hres, rfl⟩

/-- Leaving management is not refused for what would remain. -/
theorem unenrolls (h : before.Alone parse_url) (elevated : Bool) (io : RequestIo) (message : String) :
    (before.unenroll elevated io).2 ≠ rejected "configuration_invalid" message := by
  obtain ⟨resolved, hres⟩ := h.alone.unmanaged
  have hcode (code other : String) (hne : code ≠ "configuration_invalid") :
      rejected code other ≠ rejected "configuration_invalid" message := fun he => hne (ResponsePayload.Rejected.inj he).1
  unfold ServiceRuntime.unenroll
  split
  · exact hcode _ _ (by decide)
  · split
    · exact hcode _ _ (by decide)
    · simp only [unenroll_writes, hres]
      cases before.config_store with
      | none => exact hcode _ _ (by decide)
      | some store =>
        by_cases hmode : before.local_config.management.mode = .Disabled
        · simp only [hmode, if_pos]
          exact fun he => by cases he
        · simp only [hmode, if_neg, not_false_eq_true]
          cases before.save_config (unmanaged_config before.local_config) io.config_written with
          | none => exact hcode _ _ (by decide)
          | some saved => exact fun he => by cases he

end ServiceRuntime.Alone

/-! ## Runs -/

namespace System

variable {ext : External} {s u : System} {l : Label}

/-- No retention edit that is accepted hides from validation that it leaves no local count. -/
def Unmasked (ext : External) (s : System) : Label → Prop
  | .request command elevated io =>
    (s.runtime.handle_request ext command elevated io).2.isAccepted = true → command.Unmasked s.runtime
  | _ => True

theorem alone_step (h : s.runtime.Alone ext.parse_url) (hsound : Sound s) (hf : Frozen s) (hu : s.Unmasked ext l)
    (hs : step ext s l = some u) : u.runtime.Alone ext.parse_url := by
  cases config_effect hsound hs with
  | same same => exact h.of_same same
  | edited references label edited _ local_config _ config_store _ stored accepted =>
    subst label
    refine h.of_stored ?_ ?_ (local_config ▸ config_store)
    · rw [local_config]
      exact edited.standsAlone stored hf.valid (hu accepted) h.alone
    · rw [local_config, edited.management]
      exact h.management
  | unenrolled _ local_config _ _ config_store =>
    refine h.of_stored ?_ ?_ (local_config ▸ config_store)
    · rw [local_config]
      exact h.alone.unmanaged
    · rw [local_config]
      rfl
  | enrolled _ begins committed =>
    have hb := h.of_same begins
    exact hb.of_stored (committed.standsAlone hb.alone) committed.management committed.config_store
  | applied _ _ installed =>
    have hlocal := installed.local_config
    exact ⟨hlocal ▸ h.alone, hlocal ▸ h.management, by rw [installed.config_store]; exact h.saved⟩

/-- A service started on a file that stands alone. After a configuration error
the memory holds the defaults, whatever the file says. -/
theorem Starts.alone (h : Starts ext s) {store : LocalConfigStore} {loc : LocalConfig}
    (hstore : s.runtime.config_store = some store) (hload : LocalConfigStore.load ext.parse_url store.file = .ok loc)
    (hloc : loc.StandsAlone) : s.runtime.Alone ext.parse_url := by
  cases h with
  | loaded config_store credential_store state_store policy_cache load =>
    simp only [load_with_credentials_and_policy, bind_eq_ok, pure_eq_ok, mapError_eq_ok] at load
    obtain ⟨loc', hload', resolved, -, rfl⟩ := load
    obtain rfl : config_store = store := Option.some.inj hstore
    obtain rfl : loc' = loc := Except.ok.inj (hload'.symm.trans hload)
    exact ⟨hloc, local_config_management hload', _, _, rfl, hload', hloc⟩
  | configurationError =>
    refine ⟨resolves_alone_iff.2 ⟨rfl, fun f value hv => ?_, rfl⟩, rfl, store, loc, hstore, hload, hloc⟩
    cases f <;> cases hv

/-- In every run of a service whose `config.toml` stands alone at the start, in
which no retention edit leaves all four local counts at zero behind effective
ones that are not: the local configuration resolves without a policy, leaving
management is never refused as invalid, and a start that finds no policy loads
what is saved. -/
theorem saved_config_stands_alone {s₀ : System} {ls : List Label} {store₀ : LocalConfigStore} {loc₀ : LocalConfig}
    (h₀ : Starts ext s₀) (hstore : s₀.runtime.config_store = some store₀)
    (hload : LocalConfigStore.load ext.parse_url store₀.file = .ok loc₀)
    (hloc : ∃ resolved, resolve_config {} loc₀ none = .ok resolved) (h : Run (step ext) (Unmasked ext) s₀ ls s) :
    (∃ resolved, resolve_config {} s.runtime.local_config none = .ok resolved) ∧
      (∀ elevated io message,
        (s.runtime.handle_request ext .Unenroll elevated io).2 ≠ rejected "configuration_invalid" message) ∧
      ∃ store, s.runtime.config_store = some store ∧ ∀ credential_store state_store policy_cache now, ∃ runtime,
        load_with_credentials_and_policy ext.parse_url store credential_store state_store policy_cache none now =
          .ok runtime := by
  obtain ⟨-, -, ha⟩ := run_inv (fun s => Frozen s ∧ s.runtime.Alone ext.parse_url)
    (fun _ _ _ hsound hi hu hs => ⟨hi.1.step hsound hs, alone_step hi.2 hsound hi.1 hu hs⟩) h₀
    ⟨h₀.frozen, h₀.alone hstore hload hloc⟩ h
  exact ⟨ha.alone, ha.unenrolls, ha.loads⟩

namespace MaskedRetention

/-- A managed device that keeps no daily snapshots of its own. -/
def loc : LocalConfig where
  retention := { daily := some 0 }
  management := OfficeServer.management

/-- A policy that locks a week of daily snapshots. -/
def policy : ManagedPolicy := { revision := "office", retention := { daily := some { value := 7, locked := true } } }

def runtime : ServiceRuntime :=
  from_resolved_with_state ⟨{}, some "office", ((choose_all {} loc (some policy)).run ∅).2⟩ loc {}
    ⟨none, .contents loc⟩ none .missing .missing .UNIX_EPOCH

theorem runtime_loads : load_with_credentials_and_policy MisfitManifest.ext.parse_url ⟨none, .contents loc⟩ none .missing
    .missing (some policy) .UNIX_EPOCH = .ok runtime := by decide

def started : System := ⟨runtime, .UNIX_EPOCH, none, false, false, some policy⟩

/-- The administrator gives up weekly and monthly snapshots, and sets the yearly ones. -/
def edit (yearly : UInt32) : Label :=
  .request (.UpdateRetention none (some 0) (some 0) (some yearly) none) true (.quiet .UNIX_EPOCH)

def after (yearly : UInt32) : Option System := step MisfitManifest.ext started (edit yearly)

theorem one_isSome : (after 1).isSome := by decide

theorem none_isSome : (after 0).isSome := by decide

/-- With one yearly snapshot left, a start without the policy succeeds. -/
theorem yearly_stands_alone : ∃ store, ((after 1).get one_isSome).runtime.config_store = some store ∧
    ∃ runtime, load_with_credentials_and_policy MisfitManifest.ext.parse_url store none .missing .missing none
      .UNIX_EPOCH = .ok runtime := by
  have hu : started.Unmasked MisfitManifest.ext (edit 1) := fun _ hzero => absurd hzero.2.2.2 (by decide)
  have hrun : Run (step MisfitManifest.ext) (Unmasked MisfitManifest.ext) started [edit 1] ((after 1).get one_isSome) :=
    .snoc .nil hu (Option.some_get one_isSome).symm
  obtain ⟨-, -, store, hstore, hload⟩ := saved_config_stands_alone (.loaded _ _ _ _ runtime_loads) rfl rfl ⟨_, rfl⟩ hrun
  exact ⟨store, hstore, hload none .missing .missing .UNIX_EPOCH⟩

/-- Without it the edit is accepted too, behind the locked daily snapshots: then
leaving management is refused, and a start without the policy fails. -/
theorem masked_retention_is_saved : ∃ s store, load_with_credentials_and_policy MisfitManifest.ext.parse_url
      ⟨none, .contents loc⟩ none .missing .missing (some policy) .UNIX_EPOCH = .ok runtime ∧
    (resolve_config {} loc none).isOk = true ∧ Run (step MisfitManifest.ext) (fun _ _ => True) started [edit 0] s ∧
    resolve_config {} s.runtime.local_config none = .error (.InvalidEffectiveConfig .EmptyRetentionPolicy) ∧
    (s.runtime.handle_request MisfitManifest.ext .Unenroll true (.quiet .UNIX_EPOCH)).2 =
      rejected "configuration_invalid" "The remaining local configuration is invalid." ∧
    s.runtime.config_store = some store ∧
    load_with_credentials_and_policy MisfitManifest.ext.parse_url store none .missing .missing none .UNIX_EPOCH =
      .error (.Policy (.InvalidEffectiveConfig .EmptyRetentionPolicy)) :=
  ⟨(after 0).get none_isSome, _, runtime_loads, by decide, .snoc .nil trivial (Option.some_get none_isSome).symm,
    by decide, by decide, rfl, by decide⟩

end MaskedRetention

end System

end ResticPal
