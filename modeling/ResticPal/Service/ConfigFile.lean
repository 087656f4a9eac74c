import ResticPal.Lib.Toml
import ResticPal.Protocol.Json
import ResticPal.Service.PolicyCache
/-!
# The configuration file

`LocalConfig::to_toml_pretty` and `LocalConfigStore::save`: the local configuration
as the text of `config.toml`, which may take at most a mebibyte.
-/

open Lib

namespace ResticPal

def MAX_CONFIG_BYTES : Nat := 1024 * 1024

/-- `toml`, for the configuration file. -/
structure ConfigToml where
  /-- Strings that are neither plain nor literal. -/
  escaped : String → String

namespace ConfigToml

variable (toml : ConfigToml)

def string (s : String) : String := Toml.string toml.escaped s

def strings (values : List String) : String := Toml.array (values.map toml.string)

/-- The entries of a map. -/
def map_entries (entries : List (String × String)) : List (String × Option String) :=
  entries.map (fun entry => (Toml.key toml.escaped entry.1, some (toml.string entry.2)))

/-- `toml::to_string_pretty` at `LocalConfig`. A field without a value is left out. -/
def to_toml_pretty (config : LocalConfig) : String :=
  Toml.entry "schema_version" (toString config.schema_version.toNat) ++
  Toml.table "backup" [
    ("paths", config.backup.paths.map (fun paths => toml.strings (paths.map PathBuf.text))),
    ("exclusions", config.backup.exclusions.map toml.strings)] ++
  Toml.table "repository" [
    ("display_name", config.repository.display_name.map toml.string),
    ("url", config.repository.url.map toml.string),
    ("mode", config.repository.mode.map (fun mode => toml.string mode.json_name))] ++
  config.repository.options.elim "" (fun options =>
    Toml.table "repository.options" (toml.map_entries options.entries)) ++
  config.repository.secret_refs.elim "" (fun refs =>
    Toml.table "repository.secret_refs" (toml.map_entries (refs.entries.map (fun entry => (entry.1.as_str, entry.2))))) ++
  Toml.table "schedule" [
    ("interval_hours", config.schedule.interval_hours.map (fun hours => toString hours.toNat)),
    ("wake_grace_seconds", config.schedule.wake_grace_seconds.map (fun seconds => toString seconds.toNat)),
    ("wake_lock_timeout_seconds", config.schedule.wake_lock_timeout_seconds.map (fun seconds => toString seconds.toNat)),
    ("allow_on_battery", config.schedule.allow_on_battery.map json_bool),
    ("allow_metered_network", config.schedule.allow_metered_network.map json_bool)] ++
  Toml.table "retention" [
    ("daily", config.retention.daily.map (fun count => toString count.toNat)),
    ("weekly", config.retention.weekly.map (fun count => toString count.toNat)),
    ("monthly", config.retention.monthly.map (fun count => toString count.toNat)),
    ("yearly", config.retention.yearly.map (fun count => toString count.toNat)),
    ("prune_interval_days", config.retention.prune_interval_days.map (fun days => toString days.toNat))] ++
  Toml.table "updates" [("automatic_install", config.updates.automatic_install.map json_bool)] ++
  Toml.table "management" [
    ("mode", some (toml.string config.management.mode.json_name)),
    ("manifest_url", config.management.manifest_url.map toml.string),
    ("signing_public_key", config.management.signing_public_key.map toml.string),
    ("refresh_interval_minutes", config.management.refresh_interval_minutes.map (fun minutes => toString minutes.toNat)),
    ("status_url", config.management.status_url.map toml.string),
    ("device_id", config.management.device_id.map toml.string),
    ("status_token_ref", config.management.status_token_ref.map toml.string),
    ("enrollment_key_ref", config.management.enrollment_key_ref.map toml.string)]

/-- `LocalConfigStore::save`, given whether the file can be replaced. -/
def save (config : LocalConfig) (replaced : Bool) : Except ConfigStoreError Unit :=
  if Text.len (toml.to_toml_pretty config) + 1 > MAX_CONFIG_BYTES then .error .TooLarge
  else if replaced then .ok ()
  else .error .Io

theorem save_eq_ok {toml : ConfigToml} {config : LocalConfig} {replaced : Bool} :
    toml.save config replaced = .ok () ↔
      (toml.to_toml_pretty config).utf8ByteSize < MAX_CONFIG_BYTES ∧ replaced = true := by
  unfold save Text.len
  split
  next h => exact ⟨fun herror => (by cases herror), fun ⟨hlt, _⟩ => absurd hlt (by omega)⟩
  next h =>
    have hlt : (toml.to_toml_pretty config).utf8ByteSize < MAX_CONFIG_BYTES := by omega
    cases replaced with
    | true => exact ⟨fun _ => ⟨hlt, rfl⟩, fun _ => rfl⟩
    | false => exact ⟨fun herror => (by cases herror), fun ⟨_, hfalse⟩ => (by cases hfalse)⟩

/-! ## Sizes -/

theorem utf8ByteSize_strings_le {values : List String} (h : ∀ value ∈ values, value.toList.all Toml.isLiteral = true) :
    (toml.strings values).utf8ByteSize ≤ (values.map String.utf8ByteSize).sum + 8 * values.length + 3 := by
  have hstrings : ((values.map toml.string).map String.utf8ByteSize).sum =
      (values.map String.utf8ByteSize).sum + 2 * values.length := by
    have hsizes : (values.map toml.string).map String.utf8ByteSize = values.map (fun value => value.utf8ByteSize + 2) := by
      rw [List.map_map]
      exact List.map_congr_left fun value hvalue => Toml.utf8ByteSize_string toml.escaped (h value hvalue)
    rw [hsizes, List.sum_map_add, List.map_const', List.sum_replicate_nat, Nat.mul_comm]
  have harray := Toml.utf8ByteSize_array_le (values.map toml.string)
  rw [hstrings, List.length_map] at harray
  rw [strings]
  omega

/-- A configuration of nothing but backup sources. -/
theorem utf8ByteSize_sources_le (paths : Option (List PathBuf)) (exclusions : Option (List String)) :
    (toml.to_toml_pretty { backup := { paths, exclusions } }).utf8ByteSize ≤
      paths.elim 0 (fun paths => (toml.strings (paths.map PathBuf.text)).utf8ByteSize) +
        exclusions.elim 0 (fun exclusions => (toml.strings exclusions).utf8ByteSize) + 134 := by
  have hmode : toml.string ManagementMode.Disabled.json_name = "\"disabled\"" := by
    rw [string, Toml.string, if_pos (by decide)]
    decide
  have hmarks : "".utf8ByteSize = 0 ∧ "\n".utf8ByteSize = 1 ∧ "\n[".utf8ByteSize = 2 ∧ "]\n".utf8ByteSize = 2 ∧
      " = ".utf8ByteSize = 3 := by decide
  have htables : "backup".utf8ByteSize = 6 ∧ "repository".utf8ByteSize = 10 ∧ "schedule".utf8ByteSize = 8 ∧
      "retention".utf8ByteSize = 9 ∧ "updates".utf8ByteSize = 7 ∧ "management".utf8ByteSize = 10 := by decide
  have hfields : "schema_version".utf8ByteSize = 14 ∧ (toString CONFIG_SCHEMA_VERSION.toNat).utf8ByteSize = 1 ∧
      "paths".utf8ByteSize = 5 ∧ "exclusions".utf8ByteSize = 10 ∧ "mode".utf8ByteSize = 4 ∧
      "\"disabled\"".utf8ByteSize = 10 := by decide
  cases paths <;> cases exclusions <;>
    simp only [to_toml_pretty, Toml.table, Toml.entries, Toml.entry, List.foldr, Option.map, Option.elim,
      String.utf8ByteSize_append, hmode, hmarks, htables, hfields] <;> omega

end ConfigToml

end ResticPal
