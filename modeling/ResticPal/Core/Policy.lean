import ResticPal.Core.Config
/-!
# Managed policy

`resticpal-core/src/policy.rs`: a managed policy recommends or locks settings,
and `resolve_config` layers it over the local configuration and the product
defaults. `resolve_get` says what the resolver does to each of the 18 fields,
so that later proofs speak of a field and not of the record it lives in.
-/

open Lib

namespace ResticPal

def MAX_POLICY_REVISION_CHARACTERS : Nat := 256
def MANAGED_POLICY_SCHEMA_VERSION : UInt32 := 2
def LEGACY_MANAGED_POLICY_SCHEMA_VERSION : UInt32 := 1

structure Managed (α : Type) where
  value : α
  locked : Bool := false
  deriving DecidableEq

structure ManagedBackupPolicy where
  paths : Option (Managed (List PathBuf)) := none
  exclusions : Option (Managed (List String)) := none
  deriving DecidableEq

structure ManagedRepositoryPolicy where
  display_name : Option (Managed (Option String)) := none
  url : Option (Managed (Option String)) := none
  mode : Option (Managed RepositoryMode) := none
  options : Option (Managed Options) := none
  secret_refs : Option (Managed SecretRefs) := none
  deriving DecidableEq

structure ManagedSchedulePolicy where
  interval_hours : Option (Managed UInt32) := none
  wake_grace_seconds : Option (Managed UInt64) := none
  wake_lock_timeout_seconds : Option (Managed UInt64) := none
  allow_on_battery : Option (Managed Bool) := none
  allow_metered_network : Option (Managed Bool) := none
  deriving DecidableEq

structure ManagedRetentionPolicy where
  daily : Option (Managed UInt32) := none
  weekly : Option (Managed UInt32) := none
  monthly : Option (Managed UInt32) := none
  yearly : Option (Managed UInt32) := none
  prune_interval_days : Option (Managed UInt32) := none
  deriving DecidableEq

structure ManagedUpdatePolicy where
  automatic_install : Option (Managed Bool) := none
  deriving DecidableEq

structure ManagedPolicy where
  schema_version : UInt32 := MANAGED_POLICY_SCHEMA_VERSION
  revision : String := ""
  backup : ManagedBackupPolicy := {}
  repository : ManagedRepositoryPolicy := {}
  schedule : ManagedSchedulePolicy := {}
  retention : ManagedRetentionPolicy := {}
  updates : Option ManagedUpdatePolicy := none
  deriving DecidableEq

inductive PolicyField where
  | BackupPaths
  | BackupExclusions
  | RepositoryDisplayName
  | RepositoryUrl
  | RepositoryMode
  | RepositoryOptions
  | RepositorySecretRefs
  | ScheduleIntervalHours
  | ScheduleWakeGraceSeconds
  | ScheduleWakeLockTimeoutSeconds
  | ScheduleAllowOnBattery
  | ScheduleAllowMeteredNetwork
  | RetentionDaily
  | RetentionWeekly
  | RetentionMonthly
  | RetentionYearly
  | RetentionPruneIntervalDays
  | UpdateAutomaticInstall
  deriving DecidableEq, Repr

/-- Every field, in declaration order. -/
def PolicyField.all : List PolicyField :=
  [.BackupPaths, .BackupExclusions, .RepositoryDisplayName, .RepositoryUrl, .RepositoryMode, .RepositoryOptions,
    .RepositorySecretRefs, .ScheduleIntervalHours, .ScheduleWakeGraceSeconds, .ScheduleWakeLockTimeoutSeconds,
    .ScheduleAllowOnBattery, .ScheduleAllowMeteredNetwork, .RetentionDaily, .RetentionWeekly, .RetentionMonthly,
    .RetentionYearly, .RetentionPruneIntervalDays, .UpdateAutomaticInstall]

theorem PolicyField.mem_all (f : PolicyField) : f ∈ PolicyField.all := by cases f <;> decide

instance : LinearOrder PolicyField :=
  LinearOrder.lift' PolicyField.ctorIdx (Function.LeftInverse.injective PolicyField.ofNat_ctorIdx)

inductive ValueSource where
  | ProductDefault
  | LocalAdministrator
  | ManagedRecommendation
  | ManagedLocked
  deriving DecidableEq, Repr

structure FieldResolution where
  source : ValueSource
  locked : Bool
  deriving DecidableEq, Repr

abbrev FieldResolutions := BTreeMap PolicyField FieldResolution

structure ResolvedConfig where
  effective : EffectiveConfig
  managed_revision : Option String
  fields : FieldResolutions
  deriving DecidableEq

/-- A `BTreeSet`: the fields in increasing order. -/
def ResolvedConfig.locked_fields (r : ResolvedConfig) : List PolicyField :=
  r.fields.entries.filterMap fun (field, resolution) => if resolution.locked then some field else none

inductive PolicyError where
  | UnsupportedLocalSchema (version : UInt32)
  | UnsupportedManagedSchema (version : UInt32)
  | UpdatesRequireManagedSchemaV2
  | InvalidManagedRevision
  | InvalidEffectiveConfig (error : ConfigValidationError)
  deriving DecidableEq

/-! ## The resolver -/

/-- The value and resolution of one field: a lock wins, then the local value,
then a recommendation, then the default. -/
def choice {α : Type} (default : α) (loc : Option α) (managed : Option (Managed α)) : α × FieldResolution :=
  match managed with
  | some managed =>
    if managed.locked then (managed.value, ⟨.ManagedLocked, true⟩)
    else match loc with
      | some loc => (loc, ⟨.LocalAdministrator, false⟩)
      | none => (managed.value, ⟨.ManagedRecommendation, false⟩)
  | none => match loc with
    | some loc => (loc, ⟨.LocalAdministrator, false⟩)
    | none => (default, ⟨.ProductDefault, false⟩)

/-- `choose` also records the resolution. -/
def choose {α : Type} (field : PolicyField) (default : α) (loc : Option α) (managed : Option (Managed α)) :
    StateM FieldResolutions α := do
  let (value, resolution) := choice default loc managed
  modify (·.insert field resolution)
  return value

/-- What `resolve_config` requires of a managed policy. -/
def check_policy (policy : ManagedPolicy) : Except PolicyError Unit := do
  rejectIf (!(policy.schema_version == LEGACY_MANAGED_POLICY_SCHEMA_VERSION ||
    policy.schema_version == MANAGED_POLICY_SCHEMA_VERSION)) (.UnsupportedManagedSchema policy.schema_version)
  rejectIf (policy.schema_version == LEGACY_MANAGED_POLICY_SCHEMA_VERSION && policy.updates.isSome)
    .UpdatesRequireManagedSchemaV2
  rejectIf (Text.is_empty (Text.trim policy.revision) ||
    policy.revision.length > MAX_POLICY_REVISION_CHARACTERS || Text.hasBreak policy.revision)
    .InvalidManagedRevision

section Resolve

variable (defaults : EffectiveConfig) (loc : LocalConfig) (managed : Option ManagedPolicy)

/-- The `EffectiveConfig` that `resolve_config` builds, choosing field by field. -/
def choose_all : StateM FieldResolutions EffectiveConfig := do
  let managed_backup := managed.elim {} (·.backup)
  let managed_repository := managed.elim {} (·.repository)
  let managed_schedule := managed.elim {} (·.schedule)
  let managed_retention := managed.elim {} (·.retention)
  let managed_updates := (managed.bind (·.updates)).getD {}
  let local_repository_display_name := loc.repository.display_name.map some
  let local_repository_url := loc.repository.url.map some
  return {
    backup := {
      paths := ← choose .BackupPaths defaults.backup.paths loc.backup.paths managed_backup.paths
      exclusions := ← choose .BackupExclusions defaults.backup.exclusions loc.backup.exclusions
        managed_backup.exclusions }
    repository := {
      display_name := ← choose .RepositoryDisplayName defaults.repository.display_name
        local_repository_display_name managed_repository.display_name
      url := ← choose .RepositoryUrl defaults.repository.url local_repository_url managed_repository.url
      mode := ← choose .RepositoryMode defaults.repository.mode loc.repository.mode managed_repository.mode
      options := ← choose .RepositoryOptions defaults.repository.options loc.repository.options
        managed_repository.options
      secret_refs := ← choose .RepositorySecretRefs defaults.repository.secret_refs loc.repository.secret_refs
        managed_repository.secret_refs }
    schedule := {
      interval_hours := ← choose .ScheduleIntervalHours defaults.schedule.interval_hours
        loc.schedule.interval_hours managed_schedule.interval_hours
      wake_grace_seconds := ← choose .ScheduleWakeGraceSeconds defaults.schedule.wake_grace_seconds
        loc.schedule.wake_grace_seconds managed_schedule.wake_grace_seconds
      wake_lock_timeout_seconds := ← choose .ScheduleWakeLockTimeoutSeconds
        defaults.schedule.wake_lock_timeout_seconds loc.schedule.wake_lock_timeout_seconds
        managed_schedule.wake_lock_timeout_seconds
      allow_on_battery := ← choose .ScheduleAllowOnBattery defaults.schedule.allow_on_battery
        loc.schedule.allow_on_battery managed_schedule.allow_on_battery
      allow_metered_network := ← choose .ScheduleAllowMeteredNetwork defaults.schedule.allow_metered_network
        loc.schedule.allow_metered_network managed_schedule.allow_metered_network }
    retention := {
      daily := ← choose .RetentionDaily defaults.retention.daily loc.retention.daily managed_retention.daily
      weekly := ← choose .RetentionWeekly defaults.retention.weekly loc.retention.weekly managed_retention.weekly
      monthly := ← choose .RetentionMonthly defaults.retention.monthly loc.retention.monthly
        managed_retention.monthly
      yearly := ← choose .RetentionYearly defaults.retention.yearly loc.retention.yearly managed_retention.yearly
      prune_interval_days := ← choose .RetentionPruneIntervalDays defaults.retention.prune_interval_days
        loc.retention.prune_interval_days managed_retention.prune_interval_days }
    updates := {
      automatic_install := ← choose .UpdateAutomaticInstall defaults.updates.automatic_install
        loc.updates.automatic_install managed_updates.automatic_install } }

def resolve_config : Except PolicyError ResolvedConfig := do
  rejectIf (loc.schema_version != CONFIG_SCHEMA_VERSION) (.UnsupportedLocalSchema loc.schema_version)
  forM managed.toList check_policy
  let chosen := (choose_all defaults loc managed).run ∅
  chosen.1.validate.mapError .InvalidEffectiveConfig
  return { effective := chosen.1, managed_revision := managed.map (·.revision), fields := chosen.2 }

end Resolve

/-! ## Fields -/

/-- The type of a field's value. -/
abbrev PolicyField.Value : PolicyField → Type
  | .BackupPaths => List PathBuf
  | .BackupExclusions => List String
  | .RepositoryDisplayName | .RepositoryUrl => Option String
  | .RepositoryMode => ResticPal.RepositoryMode
  | .RepositoryOptions => Options
  | .RepositorySecretRefs => SecretRefs
  | .ScheduleWakeGraceSeconds | .ScheduleWakeLockTimeoutSeconds => UInt64
  | .ScheduleAllowOnBattery | .ScheduleAllowMeteredNetwork | .UpdateAutomaticInstall => Bool
  | .ScheduleIntervalHours | .RetentionDaily | .RetentionWeekly | .RetentionMonthly | .RetentionYearly
  | .RetentionPruneIntervalDays => UInt32

def EffectiveConfig.get (c : EffectiveConfig) : (f : PolicyField) → f.Value
  | .BackupPaths => c.backup.paths
  | .BackupExclusions => c.backup.exclusions
  | .RepositoryDisplayName => c.repository.display_name
  | .RepositoryUrl => c.repository.url
  | .RepositoryMode => c.repository.mode
  | .RepositoryOptions => c.repository.options
  | .RepositorySecretRefs => c.repository.secret_refs
  | .ScheduleIntervalHours => c.schedule.interval_hours
  | .ScheduleWakeGraceSeconds => c.schedule.wake_grace_seconds
  | .ScheduleWakeLockTimeoutSeconds => c.schedule.wake_lock_timeout_seconds
  | .ScheduleAllowOnBattery => c.schedule.allow_on_battery
  | .ScheduleAllowMeteredNetwork => c.schedule.allow_metered_network
  | .RetentionDaily => c.retention.daily
  | .RetentionWeekly => c.retention.weekly
  | .RetentionMonthly => c.retention.monthly
  | .RetentionYearly => c.retention.yearly
  | .RetentionPruneIntervalDays => c.retention.prune_interval_days
  | .UpdateAutomaticInstall => c.updates.automatic_install

/-- What the local layer says about a field. A name or URL it leaves out is no
statement at all: it cannot say that there is none. -/
def LocalConfig.get (c : LocalConfig) : (f : PolicyField) → Option f.Value
  | .BackupPaths => c.backup.paths
  | .BackupExclusions => c.backup.exclusions
  | .RepositoryDisplayName => c.repository.display_name.map some
  | .RepositoryUrl => c.repository.url.map some
  | .RepositoryMode => c.repository.mode
  | .RepositoryOptions => c.repository.options
  | .RepositorySecretRefs => c.repository.secret_refs
  | .ScheduleIntervalHours => c.schedule.interval_hours
  | .ScheduleWakeGraceSeconds => c.schedule.wake_grace_seconds
  | .ScheduleWakeLockTimeoutSeconds => c.schedule.wake_lock_timeout_seconds
  | .ScheduleAllowOnBattery => c.schedule.allow_on_battery
  | .ScheduleAllowMeteredNetwork => c.schedule.allow_metered_network
  | .RetentionDaily => c.retention.daily
  | .RetentionWeekly => c.retention.weekly
  | .RetentionMonthly => c.retention.monthly
  | .RetentionYearly => c.retention.yearly
  | .RetentionPruneIntervalDays => c.retention.prune_interval_days
  | .UpdateAutomaticInstall => c.updates.automatic_install

def ManagedPolicy.get (p : ManagedPolicy) : (f : PolicyField) → Option (Managed f.Value)
  | .BackupPaths => p.backup.paths
  | .BackupExclusions => p.backup.exclusions
  | .RepositoryDisplayName => p.repository.display_name
  | .RepositoryUrl => p.repository.url
  | .RepositoryMode => p.repository.mode
  | .RepositoryOptions => p.repository.options
  | .RepositorySecretRefs => p.repository.secret_refs
  | .ScheduleIntervalHours => p.schedule.interval_hours
  | .ScheduleWakeGraceSeconds => p.schedule.wake_grace_seconds
  | .ScheduleWakeLockTimeoutSeconds => p.schedule.wake_lock_timeout_seconds
  | .ScheduleAllowOnBattery => p.schedule.allow_on_battery
  | .ScheduleAllowMeteredNetwork => p.schedule.allow_metered_network
  | .RetentionDaily => p.retention.daily
  | .RetentionWeekly => p.retention.weekly
  | .RetentionMonthly => p.retention.monthly
  | .RetentionYearly => p.retention.yearly
  | .RetentionPruneIntervalDays => p.retention.prune_interval_days
  | .UpdateAutomaticInstall => p.updates.bind (·.automatic_install)

/-- What the managed policy in force says about a field. -/
def managedField (p : Option ManagedPolicy) (f : PolicyField) : Option (Managed f.Value) := p.bind (·.get f)

theorem EffectiveConfig.ext_get {c d : EffectiveConfig} (h : ∀ f, c.get f = d.get f) : c = d := by
  obtain ⟨⟨_, _⟩, ⟨_, _, _, _, _⟩, ⟨_, _, _, _, _⟩, ⟨_, _, _, _, _⟩, ⟨_⟩⟩ := c
  obtain ⟨⟨_, _⟩, ⟨_, _, _, _, _⟩, ⟨_, _, _, _, _⟩, ⟨_, _, _, _, _⟩, ⟨_⟩⟩ := d
  simp only [EffectiveConfig.mk.injEq, BackupConfig.mk.injEq, RepositoryConfig.mk.injEq, ScheduleConfig.mk.injEq,
    RetentionConfig.mk.injEq, UpdateConfig.mk.injEq]
  exact ⟨⟨h .BackupPaths, h .BackupExclusions⟩,
    ⟨h .RepositoryDisplayName, h .RepositoryUrl, h .RepositoryMode, h .RepositoryOptions, h .RepositorySecretRefs⟩,
    ⟨h .ScheduleIntervalHours, h .ScheduleWakeGraceSeconds, h .ScheduleWakeLockTimeoutSeconds,
      h .ScheduleAllowOnBattery, h .ScheduleAllowMeteredNetwork⟩,
    ⟨h .RetentionDaily, h .RetentionWeekly, h .RetentionMonthly, h .RetentionYearly, h .RetentionPruneIntervalDays⟩,
    h .UpdateAutomaticInstall⟩

section Resolve

variable (defaults : EffectiveConfig) (loc : LocalConfig) (managed : Option ManagedPolicy)

/-- The resolver's choice for a field. -/
def resolved (f : PolicyField) : f.Value × FieldResolution :=
  choice (defaults.get f) (loc.get f) (managedField managed f)

variable {defaults loc managed} in
theorem resolved_locked {f : PolicyField} :
    (resolved defaults loc managed f).2.locked = (managedField managed f).any (·.locked) := by
  unfold resolved choice
  repeat' split
  all_goals simp_all

variable {defaults loc managed} in
/-- A locked field has the policy's value. -/
theorem resolved_of_locked {f : PolicyField} {m : Managed f.Value} (h : managedField managed f = some m)
    (hl : m.locked = true) : (resolved defaults loc managed f).1 = m.value := by
  simp [resolved, choice, h, hl]

theorem choose_all_get (f : PolicyField) :
    ((choose_all defaults loc managed).run ∅).1.get f = (resolved defaults loc managed f).1 := by
  cases managed with
  | none => cases f <;> rfl
  | some p => cases f with
    | UpdateAutomaticInstall =>
      obtain ⟨_, _, _, _, _, _, updates⟩ := p
      cases updates <;> rfl
    | _ => rfl

theorem choose_all_resolutions : ((choose_all defaults loc managed).run ∅).2 =
    PolicyField.all.foldl (fun fields f => fields.insert f (resolved defaults loc managed f).2) ∅ := by
  cases managed with
  | none => rfl
  | some p =>
    obtain ⟨_, _, _, _, _, _, updates⟩ := p
    cases updates <;> rfl

theorem choose_all_fields (f : PolicyField) :
    ((choose_all defaults loc managed).run ∅).2.get? f = some (resolved defaults loc managed f).2 := by
  rw [choose_all_resolutions, BTreeMap.get?_foldl_insert, if_pos f.mem_all]

/-- What a successful resolution is, field by field. -/
theorem resolve_config_eq_ok {r : ResolvedConfig} : resolve_config defaults loc managed = .ok r ↔
    loc.schema_version = CONFIG_SCHEMA_VERSION ∧ (∀ p ∈ managed, check_policy p = .ok ()) ∧
      r.effective.validate = .ok () ∧ r.managed_revision = managed.map (·.revision) ∧
      (∀ f, r.effective.get f = (resolved defaults loc managed f).1) ∧
      ∀ f, r.fields.get? f = some (resolved defaults loc managed f).2 := by
  simp only [resolve_config, check_bind_eq_ok, rejectIf_eq_ok, forM_eq_ok, mapError_eq_ok, pure_eq_ok,
    Option.mem_toList]
  constructor
  · rintro ⟨hs, hp, hv, rfl⟩
    exact ⟨by simpa using hs, hp, hv, rfl, choose_all_get defaults loc managed, choose_all_fields defaults loc managed⟩
  · rintro ⟨hs, hp, hv, hr, hg, hf⟩
    have he : ((choose_all defaults loc managed).run ∅).1 = r.effective :=
      EffectiveConfig.ext_get fun f => (choose_all_get defaults loc managed f).trans (hg f).symm
    have hm : ((choose_all defaults loc managed).run ∅).2 = r.fields :=
      BTreeMap.ext_get? fun f => (choose_all_fields defaults loc managed f).trans (hf f).symm
    refine ⟨by simpa using hs, hp, ?_, ?_⟩
    · rw [he]; exact hv
    · rw [he, hm, ← hr]

end Resolve

/-- The local configuration and the policy name a repository and something to back up. -/
def names_backup (loc : LocalConfig) (managed : Option ManagedPolicy) : Bool :=
  let url : Option String := (resolved {} loc managed .RepositoryUrl).1
  let paths : List PathBuf := (resolved {} loc managed .BackupPaths).1
  url.isSome && !paths.isEmpty

theorem resolve_config_is_configured {loc : LocalConfig} {managed : Option ManagedPolicy} {r : ResolvedConfig}
    (h : resolve_config {} loc managed = .ok r) : r.effective.is_configured = names_backup loc managed := by
  obtain ⟨-, -, -, -, hget, -⟩ := (resolve_config_eq_ok _ _ _).1 h
  unfold EffectiveConfig.is_configured names_backup
  rw [← hget, ← hget]
  rfl

end ResticPal
