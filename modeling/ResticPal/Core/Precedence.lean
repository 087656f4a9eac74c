import ResticPal.Core.Policy
/-!
# Precedence of the configuration layers

What resolution is for, said without the resolver: a locked managed value wins,
then the local value, then a managed recommendation, then the product default.
`resolve_config_precedence` states when the resolver of `Policy.lean` succeeds
and that it then gives every field exactly this value and this source.
-/

open Lib

namespace ResticPal

section

variable {α : Type} (default : α) (loc : Option α) (managed : Option (Managed α))

/-- The value in force and the layer it comes from. -/
def precedence : α × ValueSource :=
  ((managed.filter (·.locked)).map fun m => (m.value, .ManagedLocked)).getD <|
  (loc.map fun value => (value, .LocalAdministrator)).getD <|
  (managed.map fun m => (m.value, .ManagedRecommendation)).getD (default, .ProductDefault)

theorem choice_eq_precedence : choice default loc managed =
    ((precedence default loc managed).1, ⟨(precedence default loc managed).2, managed.any (·.locked)⟩) := by
  rcases managed with _ | ⟨value, _ | _⟩
  · cases loc <;> rfl
  · cases loc <;> rfl
  · rfl

end

/-- A configuration given field by field. -/
def EffectiveConfig.ofFields (value : (f : PolicyField) → f.Value) : EffectiveConfig where
  backup := { paths := value .BackupPaths, exclusions := value .BackupExclusions }
  repository := {
    display_name := value .RepositoryDisplayName
    url := value .RepositoryUrl
    mode := value .RepositoryMode
    options := value .RepositoryOptions
    secret_refs := value .RepositorySecretRefs }
  schedule := {
    interval_hours := value .ScheduleIntervalHours
    wake_grace_seconds := value .ScheduleWakeGraceSeconds
    wake_lock_timeout_seconds := value .ScheduleWakeLockTimeoutSeconds
    allow_on_battery := value .ScheduleAllowOnBattery
    allow_metered_network := value .ScheduleAllowMeteredNetwork }
  retention := {
    daily := value .RetentionDaily
    weekly := value .RetentionWeekly
    monthly := value .RetentionMonthly
    yearly := value .RetentionYearly
    prune_interval_days := value .RetentionPruneIntervalDays }
  updates := { automatic_install := value .UpdateAutomaticInstall }

@[simp] theorem EffectiveConfig.get_ofFields (value : (f : PolicyField) → f.Value) (f : PolicyField) :
    (EffectiveConfig.ofFields value).get f = value f := by
  cases f <;> rfl

/-- The policy in force locks a field. -/
def locks (managed : Option ManagedPolicy) (f : PolicyField) : Bool := (managedField managed f).any (·.locked)

section

variable (defaults : EffectiveConfig) (loc : LocalConfig) (managed : Option ManagedPolicy)

/-- The value in force for a field, and its source. -/
def in_force (f : PolicyField) : f.Value × ValueSource :=
  precedence (defaults.get f) (loc.get f) (managedField managed f)

/-- Every field with the value in force. -/
def combined : EffectiveConfig := .ofFields fun f => (in_force defaults loc managed f).1

theorem resolved_eq (f : PolicyField) : resolved defaults loc managed f =
    ((in_force defaults loc managed f).1, ⟨(in_force defaults loc managed f).2, locks managed f⟩) :=
  choice_eq_precedence _ _ _

theorem choose_all_eq_combined : ((choose_all defaults loc managed).run ∅).1 = combined defaults loc managed := by
  refine EffectiveConfig.ext_get fun f => ?_
  rw [choose_all_get, resolved_eq, combined, EffectiveConfig.get_ofFields]

end

/-! ## Acceptable policies -/

/-- What the resolver requires of a policy document. -/
structure ManagedPolicy.Acceptable (policy : ManagedPolicy) : Prop where
  schema : policy.schema_version = 1 ∨ policy.schema_version = 2
  updates : policy.schema_version = 1 → policy.updates = none
  not_blank : ∃ c ∈ policy.revision.toList, Text.is_whitespace c = false
  size : policy.revision.length ≤ 256
  single_line : '\r' ∉ policy.revision.toList ∧ '\n' ∉ policy.revision.toList
  no_nul : '\x00' ∉ policy.revision.toList

theorem check_policy_eq_ok {policy : ManagedPolicy} : check_policy policy = .ok () ↔ policy.Acceptable := by
  have blank : Text.is_empty (Text.trim policy.revision) = false ↔
      ∃ c ∈ policy.revision.toList, Text.is_whitespace c = false := by
    rw [← Bool.not_eq_true, Text.trim_is_empty]
    simp
  have lines : Text.hasBreak policy.revision = false ↔ '\x00' ∉ policy.revision.toList ∧
      '\r' ∉ policy.revision.toList ∧ '\n' ∉ policy.revision.toList := by
    simp only [Text.hasBreak, List.any_eq_false, Bool.not_eq_true, Bool.or_eq_false_iff, beq_eq_false_iff_ne]
    constructor
    · intro h
      exact ⟨fun hc => (h _ hc).1.1 rfl, fun hc => (h _ hc).1.2 rfl, fun hc => (h _ hc).2 rfl⟩
    · rintro ⟨hnul, hcr, hlf⟩ c hc
      exact ⟨⟨fun h => hnul (h ▸ hc), fun h => hcr (h ▸ hc)⟩, fun h => hlf (h ▸ hc)⟩
  simp only [check_policy, check_bind_eq_ok, rejectIf_eq_ok, Bool.or_eq_false_iff, blank, lines,
    LEGACY_MANAGED_POLICY_SCHEMA_VERSION, MANAGED_POLICY_SCHEMA_VERSION, MAX_POLICY_REVISION_CHARACTERS]
  constructor
  · rintro ⟨hschema, hupdates, ⟨hblank, hsize⟩, hnul, hlines⟩
    have hversion : policy.schema_version = 1 ∨ policy.schema_version = 2 := by
      simpa only [Bool.not_eq_false', Bool.or_eq_true, beq_iff_eq] using hschema
    refine ⟨hversion, fun h => ?_, hblank, by simpa using hsize, hlines, hnul⟩
    simpa [h] using hupdates
  · rintro ⟨hschema, hupdates, hblank, hsize, hlines, hnul⟩
    refine ⟨?_, ?_, ⟨hblank, by simpa using hsize⟩, hnul, hlines⟩
    · simpa only [Bool.not_eq_false', Bool.or_eq_true, beq_iff_eq] using hschema
    · by_cases h : policy.schema_version = 1
      · simp [hupdates h]
      · simp [h]

/-! ## Resolution -/

section

variable {defaults : EffectiveConfig} {loc : LocalConfig} {managed : Option ManagedPolicy}

theorem resolve_config_effective {r : ResolvedConfig} (h : resolve_config defaults loc managed = .ok r) :
    r.effective = combined defaults loc managed := by
  obtain ⟨-, -, -, -, hget, -⟩ := (resolve_config_eq_ok _ _ _).1 h
  refine EffectiveConfig.ext_get fun f => ?_
  rw [hget, resolved_eq, combined, EffectiveConfig.get_ofFields]

theorem resolve_config_succeeds : (∃ r, resolve_config defaults loc managed = .ok r) ↔
    loc.schema_version = CONFIG_SCHEMA_VERSION ∧ (∀ policy ∈ managed, policy.Acceptable) ∧
      (combined defaults loc managed).validate = .ok () := by
  constructor
  · rintro ⟨r, hr⟩
    obtain ⟨hs, hp, hv, -⟩ := (resolve_config_eq_ok _ _ _).1 hr
    rw [resolve_config_effective hr] at hv
    exact ⟨hs, fun policy hm => check_policy_eq_ok.1 (hp policy hm), hv⟩
  · rintro ⟨hs, hp, hv⟩
    rw [← choose_all_eq_combined] at hv
    exact ⟨⟨_, _, _⟩, (resolve_config_eq_ok _ _ _).2 ⟨hs, fun policy hm => check_policy_eq_ok.2 (hp policy hm), hv, rfl,
      choose_all_get defaults loc managed, choose_all_fields defaults loc managed⟩⟩

theorem resolve_config_entries {r : ResolvedConfig} (h : resolve_config defaults loc managed = .ok r) :
    r.fields.entries = PolicyField.all.map
      (fun f => (f, ⟨(in_force defaults loc managed f).2, locks managed f⟩)) := by
  obtain ⟨-, -, -, -, -, hfields⟩ := (resolve_config_eq_ok _ _ _).1 h
  refine BTreeMap.entries_of_total (by decide) PolicyField.mem_all fun f => ?_
  rw [hfields, resolved_eq]

/-- A locked value does not depend on the layers below. -/
theorem in_force_of_locks {defaults' : EffectiveConfig} {loc' : LocalConfig} {f : PolicyField}
    (h : locks managed f = true) : in_force defaults loc managed f = in_force defaults' loc' managed f := by
  unfold locks at h
  unfold in_force precedence
  rcases Option.eq_none_or_eq_some (managedField managed f) with hm | ⟨m, hm⟩
  · simp [hm] at h
  · rw [hm] at h ⊢
    simp only [Option.any_some] at h
    simp [Option.filter, h]

end

/-- When resolution succeeds, and what it gives: every field has the value in
force, the map has the 18 fields with their sources, and a field the policy
locks does not depend on the local layer or the defaults. -/
theorem resolve_config_precedence (defaults : EffectiveConfig) (loc : LocalConfig) (managed : Option ManagedPolicy) :
    ((∃ r, resolve_config defaults loc managed = .ok r) ↔
      loc.schema_version = CONFIG_SCHEMA_VERSION ∧ (∀ policy ∈ managed, policy.Acceptable) ∧
        (combined defaults loc managed).validate = .ok ()) ∧
    ∀ r, resolve_config defaults loc managed = .ok r →
      (∀ f, r.effective.get f = (in_force defaults loc managed f).1) ∧
      r.fields.entries = PolicyField.all.map
        (fun f => (f, ⟨(in_force defaults loc managed f).2, locks managed f⟩)) ∧
      r.locked_fields = PolicyField.all.filter (locks managed) ∧
      ∀ defaults' loc' r', resolve_config defaults' loc' managed = .ok r' →
        ∀ f, locks managed f = true → r.effective.get f = r'.effective.get f := by
  refine ⟨resolve_config_succeeds, fun r hr => ?_⟩
  have hget (f : PolicyField) : r.effective.get f = (in_force defaults loc managed f).1 := by
    rw [resolve_config_effective hr, combined, EffectiveConfig.get_ofFields]
  refine ⟨hget, resolve_config_entries hr, ?_, ?_⟩
  · rw [ResolvedConfig.locked_fields, resolve_config_entries hr, List.filterMap_map, ← List.filterMap_eq_filter]
    rfl
  · intro defaults' loc' r' hr' f hl
    rw [hget, resolve_config_effective hr', combined, EffectiveConfig.get_ofFields, in_force_of_locks hl]

/-- A revision with a NUL is one line, and is refused. -/
theorem nul_revision_is_refused :
    ∃ policy : ManagedPolicy, policy.schema_version = 2 ∧ policy.updates = none ∧
      (∃ c ∈ policy.revision.toList, Text.is_whitespace c = false) ∧ policy.revision.length ≤ 256 ∧
      '\r' ∉ policy.revision.toList ∧ '\n' ∉ policy.revision.toList ∧
      (combined {} {} (some policy)).validate = .ok () ∧
      resolve_config {} {} (some policy) = .error .InvalidManagedRevision :=
  ⟨{ revision := "r\x00" }, rfl, rfl, ⟨'r', by decide, by decide⟩, by decide, by decide, by decide, by decide, by decide⟩

/-- A policy that locks the interval and recommends a daily count, under two local configurations. -/
theorem locked_interval_is_the_policys :
    ∃ policy : ManagedPolicy, locks (some policy) .ScheduleIntervalHours = true ∧
      ∃ r r', resolve_config {} {} (some policy) = .ok r ∧
        resolve_config {} { schedule := { interval_hours := some 48 } } (some policy) = .ok r' ∧
        r.effective.get .ScheduleIntervalHours = r'.effective.get .ScheduleIntervalHours := by
  let policy : ManagedPolicy := {
    revision := "r1"
    schedule := { interval_hours := some ⟨12, true⟩ }
    retention := { daily := some ⟨3, false⟩ } }
  have hp : ∀ p ∈ some policy, p.Acceptable := by
    rintro _ ⟨rfl⟩
    exact check_policy_eq_ok.1 (by decide)
  have hlock : locks (some policy) .ScheduleIntervalHours = true := by decide
  obtain ⟨r, hr⟩ := (resolve_config_precedence {} {} (some policy)).1.2 ⟨rfl, hp, by decide⟩
  obtain ⟨r', hr'⟩ := (resolve_config_precedence {} { schedule := { interval_hours := some 48 } } (some policy)).1.2
    ⟨rfl, hp, by decide⟩
  exact ⟨policy, hlock, r, r', hr, hr', ((resolve_config_precedence _ _ _).2 r hr).2.2.2 _ _ r' hr' _ hlock⟩

end ResticPal
