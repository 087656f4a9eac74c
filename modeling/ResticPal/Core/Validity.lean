import ResticPal.Core.Policy
/-!
# Validation, field by field

All checks of `EffectiveConfig::validate` but one look at a single field. The
exception is the retention rule: at least one of the four counts must be above
zero. So a local configuration stands on its own when each value it sets is
valid and it does not set all four counts to zero (`resolves_alone_iff`), since
every default is valid.
-/

open Lib

namespace ResticPal

/-- The checks on one field. -/
def PolicyField.Valid : (f : PolicyField) → f.Value → Prop
  | .BackupPaths, paths => paths.length ≤ MAX_BACKUP_PATHS ∧ ∀ path ∈ paths, validate_path path = .ok ()
  | .BackupExclusions, exclusions => exclusions.length ≤ MAX_EXCLUSIONS ∧ ∀ exclusion ∈ exclusions,
      (Text.is_empty exclusion || exclusion.length > MAX_EXCLUSION_CHARACTERS || Text.hasBreak exclusion) = false
  | .RepositoryDisplayName, name => name.any (fun name => Text.is_empty (Text.trim name) ||
      name.length > MAX_REPOSITORY_DISPLAY_NAME_CHARACTERS || Text.hasBreak name) = false
  | .RepositoryUrl, url => ∀ text ∈ url, validate_url text = .ok ()
  | .RepositoryOptions, options =>
    options.length ≤ MAX_REPOSITORY_OPTIONS ∧ ∀ option ∈ options.entries, validate_option option = .ok ()
  | .RepositorySecretRefs, refs => ∀ reference ∈ refs.values, is_valid_secret_reference reference = true
  | .ScheduleIntervalHours, hours => 1 ≤ hours ∧ hours ≤ MAX_SCHEDULE_INTERVAL_HOURS
  | .ScheduleWakeGraceSeconds, seconds => seconds ≤ 24 * 60 * 60
  | .ScheduleWakeLockTimeoutSeconds, seconds => seconds ≠ 0 ∧ seconds ≤ 24 * 60 * 60
  | .RetentionDaily, count | .RetentionWeekly, count | .RetentionMonthly, count | .RetentionYearly, count =>
    count ≤ MAX_RETENTION_COUNT
  | .RetentionPruneIntervalDays, days => 1 ≤ days ∧ days ≤ MAX_PRUNE_INTERVAL_DAYS
  | .RepositoryMode, _ | .ScheduleAllowOnBattery, _ | .ScheduleAllowMeteredNetwork, _ | .UpdateAutomaticInstall, _ =>
    True

/-- The retention rule is the only one about several fields. -/
def RetentionConfig.keeps_none (retention : RetentionConfig) : Bool :=
  retention.daily == 0 && retention.weekly == 0 && retention.monthly == 0 && retention.yearly == 0

theorem EffectiveConfig.validate_iff {c : EffectiveConfig} :
    c.validate = .ok () ↔ (∀ f : PolicyField, f.Valid (c.get f)) ∧ c.retention.keeps_none = false := by
  have range {n low high : UInt32} : (!(decide (low ≤ n) && decide (n ≤ high))) = false ↔ low ≤ n ∧ n ≤ high := by simp
  have timeout {n high : UInt64} : (n == 0 || decide (n > high)) = false ↔ n ≠ 0 ∧ n ≤ high := by simp
  simp only [validate, check_bind_eq_ok, rejectIf_eq_ok, forM_eq_ok, Option.mem_toList]
  constructor
  · rintro ⟨hurl, hname, hinterval, hgrace, hlock, hnpaths, hpaths, hnexclusions, hexclusions, hnoptions, hoptions,
      hsecrets, hcounts, hnone, hprune⟩
    simp only [List.any_cons, List.any_nil, Bool.or_false, Bool.or_eq_false_iff, decide_eq_false_iff_not,
      UInt32.not_lt] at hcounts
    refine ⟨fun f => ?_, hnone⟩
    cases f with
    | BackupPaths => exact ⟨Nat.not_lt.1 (of_decide_eq_false hnpaths), hpaths⟩
    | BackupExclusions => exact ⟨Nat.not_lt.1 (of_decide_eq_false hnexclusions), hexclusions⟩
    | RepositoryDisplayName => exact hname
    | RepositoryUrl => exact hurl
    | RepositoryOptions => exact ⟨Nat.not_lt.1 (of_decide_eq_false hnoptions), hoptions⟩
    | RepositorySecretRefs => exact fun reference hr => by simpa using hsecrets reference hr
    | ScheduleIntervalHours => exact range.1 hinterval
    | ScheduleWakeGraceSeconds => exact UInt64.not_lt.1 (of_decide_eq_false hgrace)
    | ScheduleWakeLockTimeoutSeconds => exact timeout.1 hlock
    | RetentionDaily => exact hcounts.1
    | RetentionWeekly => exact hcounts.2.1
    | RetentionMonthly => exact hcounts.2.2.1
    | RetentionYearly => exact hcounts.2.2.2
    | RetentionPruneIntervalDays => exact range.1 hprune
    | _ => trivial
  · rintro ⟨hvalid, hnone⟩
    obtain ⟨hnpaths, hpaths⟩ := hvalid .BackupPaths
    obtain ⟨hnexclusions, hexclusions⟩ := hvalid .BackupExclusions
    obtain ⟨hnoptions, hoptions⟩ := hvalid .RepositoryOptions
    have hgrace : c.schedule.wake_grace_seconds ≤ 24 * 60 * 60 := hvalid .ScheduleWakeGraceSeconds
    refine ⟨hvalid .RepositoryUrl, hvalid .RepositoryDisplayName, range.2 (hvalid .ScheduleIntervalHours),
      decide_eq_false (UInt64.not_lt.2 hgrace), timeout.2 (hvalid .ScheduleWakeLockTimeoutSeconds),
      decide_eq_false (Nat.not_lt.2 hnpaths), hpaths, decide_eq_false (Nat.not_lt.2 hnexclusions), hexclusions,
      decide_eq_false (Nat.not_lt.2 hnoptions), hoptions, fun reference hr => ?_, ?_, hnone,
      range.2 (hvalid .RetentionPruneIntervalDays)⟩
    · simpa using hvalid .RepositorySecretRefs reference hr
    · simp only [List.any_cons, List.any_nil, Bool.or_false, Bool.or_eq_false_iff, decide_eq_false_iff_not,
        UInt32.not_lt]
      exact ⟨hvalid .RetentionDaily, hvalid .RetentionWeekly, hvalid .RetentionMonthly, hvalid .RetentionYearly⟩

/-- Every default passes its own check. -/
theorem PolicyField.default_valid (f : PolicyField) : f.Valid (({} : EffectiveConfig).get f) :=
  (EffectiveConfig.validate_iff.1 (by decide)).1 f

/-! ## Without a policy -/

theorem resolved_alone (loc : LocalConfig) (f : PolicyField) :
    (resolved {} loc none f).1 = (loc.get f).getD (({} : EffectiveConfig).get f) := by
  unfold resolved choice managedField
  cases loc.get f <;> rfl

/-- All four counts are set, to zero. -/
def LocalConfig.keeps_none (loc : LocalConfig) : Bool :=
  loc.retention.daily == some 0 && loc.retention.weekly == some 0 && loc.retention.monthly == some 0 &&
    loc.retention.yearly == some 0

/-- A count that is not set has a default above zero. -/
theorem keeps_none_alone {loc : LocalConfig} {c : EffectiveConfig}
    (h : ∀ f, c.get f = (loc.get f).getD (({} : EffectiveConfig).get f)) :
    c.retention.keeps_none = loc.keeps_none := by
  have count (set : Option UInt32) (default : UInt32) (hd : default ≠ 0) :
      (set.getD default == 0) = (set == some 0) := by
    cases set with
    | none => simpa using hd
    | some n => simp
  have hd : c.retention.daily = loc.retention.daily.getD 7 := h .RetentionDaily
  have hw : c.retention.weekly = loc.retention.weekly.getD 5 := h .RetentionWeekly
  have hm : c.retention.monthly = loc.retention.monthly.getD 12 := h .RetentionMonthly
  have hy : c.retention.yearly = loc.retention.yearly.getD 3 := h .RetentionYearly
  unfold RetentionConfig.keeps_none LocalConfig.keeps_none
  rw [hd, hw, hm, hy, count _ 7 (by decide), count _ 5 (by decide), count _ 12 (by decide), count _ 3 (by decide)]

/-- What a local configuration needs so that it can be used without a policy. -/
theorem resolves_alone_iff {loc : LocalConfig} : (∃ r, resolve_config {} loc none = .ok r) ↔
    loc.schema_version = CONFIG_SCHEMA_VERSION ∧ (∀ f : PolicyField, ∀ value ∈ loc.get f, f.Valid value) ∧
      loc.keeps_none = false := by
  constructor
  · rintro ⟨r, hr⟩
    obtain ⟨hschema, -, hvalid, -, hget, -⟩ := (resolve_config_eq_ok _ _ _).1 hr
    have hget (f : PolicyField) := (hget f).trans (resolved_alone loc f)
    obtain ⟨hfields, hnone⟩ := EffectiveConfig.validate_iff.1 hvalid
    refine ⟨hschema, fun f value hv => ?_, keeps_none_alone hget ▸ hnone⟩
    have := hfields f
    rwa [hget f, Option.mem_def.1 hv] at this
  · rintro ⟨hschema, hfields, hnone⟩
    have hget (f : PolicyField) := (choose_all_get {} loc none f).trans (resolved_alone loc f)
    have hvalid : ((choose_all {} loc none).run ∅).1.validate = .ok () := by
      refine EffectiveConfig.validate_iff.2 ⟨fun f => ?_, (keeps_none_alone hget).trans hnone⟩
      rw [hget f]
      rcases Option.eq_none_or_eq_some (loc.get f) with hf | ⟨value, hf⟩
      · rw [hf]
        exact f.default_valid
      · rw [hf]
        exact hfields f value hf
    exact ⟨⟨_, none, _⟩, (resolve_config_eq_ok _ _ _).2 ⟨hschema, fun p hp => (by cases hp), hvalid, rfl,
      choose_all_get {} loc none, choose_all_fields {} loc none⟩⟩

end ResticPal
