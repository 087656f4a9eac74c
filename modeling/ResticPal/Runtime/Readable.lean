import ResticPal.Core.Containment
import ResticPal.Core.Validity
import ResticPal.Lib.Runs
import ResticPal.Protocol.Json
import ResticPal.Runtime.Effects
import ResticPal.Service.ConfigFile
/-!
# Reading back what was saved

The configuration is bounded as TOML and in characters, a response as JSON, and paths
and exclusions, or a repository's fields, can be set by requests of their own. So what
each request could carry need not fit one response.

- `accepted_update`: what an accepted update puts in force.
- `configuration_is_readable_iff`: after any sequence of accepted updates, the views
  can be read back exactly when their JSON is short enough.
-/

open Lib

namespace ResticPal

open Text (Bytes)
open JsonString (quote object fieldSize)

/-! ## Accepted updates -/

/-- The requests whose effect `GetBackupSources` and `GetRepository` show. -/
def RequestCommand.updates_views : RequestCommand → Bool
  | .UpdateBackupSources _ _ | .UpdateRepository _ _ _ _ _ => true
  | _ => false

/-- A change to the connection asks for validation. -/
def RequestCommand.sets_operation : RequestCommand → Option RepositoryOperationStatus
  | .UpdateRepository _ url _ options secret_updates =>
    if url.isSome || options.isSome || !secret_updates.isEmpty then some .ValidationRequired else none
  | _ => none

/-- What an accepted edit puts in force. -/
structure InForce (ext : External) (runtime : ServiceRuntime) (command : RequestCommand) (after : ServiceRuntime) :
    Prop where
  edited : ∃ references candidate, references.length = (stored_secrets command.secret_updates).length ∧
    Edited runtime (command.edits ext references) candidate ∧ after.config = candidate.effective ∧
    after.local_config = candidate.loc
  field_resolutions : after.field_resolutions = runtime.field_resolutions
  repository_operation : after.state.repository_operation =
    command.sets_operation.getD runtime.state.repository_operation

section Accepted

variable {ext : External} {runtime : ServiceRuntime} {elevated : Bool} {io : RequestIo}

theorem accepted_update {command : RequestCommand} (hviews : command.updates_views = true)
    (h : (runtime.handle_request ext command elevated io).2.isAccepted = true) :
    InForce ext runtime command (runtime.handle_request ext command elevated io).1 := by
  have hhandled := handle_request_handled ext runtime command elevated io
  generalize runtime.handle_request ext command elevated io = after at hhandled h ⊢
  cases hhandled with
  | unchanged refusal => rcases refusal h with rfl | ⟨rfl, -⟩ <;> cases hviews
  | sources edited => exact ⟨⟨[], _, rfl, edited, rfl, rfl⟩, rfl, apply_configuration_status_operation _ _ _⟩
  | @repository display_name url mode options secret_updates candidate check =>
    have hcommitted := @commit_repository_committed runtime io candidate
      (url.isSome || options.isSome || !secret_updates.isEmpty) secret_updates
    generalize commit_repository runtime candidate _ secret_updates io = after at hcommitted h ⊢
    cases hcommitted with
    | abandoned | recorded => cases h
    | committed _ stored edits valid =>
      subst edits
      refine ⟨⟨_, _, stored, check_repository_edit_edited check _ valid, rfl, rfl⟩, rfl, ?_⟩
      refine (apply_configuration_status_operation _ _ _).trans ?_
      dsimp only [RequestCommand.sets_operation]
      cases url.isSome || options.isSome || !secret_updates.isEmpty <;> rfl
  | _ => cases hviews

end Accepted

/-! ## Values set by updates -/

/-- The values a request gives to fields, as they are stored. -/
def RequestCommand.sets (ext : External) : RequestCommand → (f : PolicyField) → Option f.Value
  | .UpdateBackupSources paths _, .BackupPaths => paths.map (deduplicate_paths ext.to_lowercase)
  | .UpdateBackupSources _ exclusions, .BackupExclusions => exclusions.map deduplicate_exclusions
  | .UpdateRepository display_name _ _ _ _, .RepositoryDisplayName => display_name.map nonempty_trimmed
  | .UpdateRepository _ url _ _ _, .RepositoryUrl => url.map nonempty_trimmed
  | .UpdateRepository _ _ mode _ _, .RepositoryMode => mode
  | .UpdateRepository _ _ _ options _, .RepositoryOptions => options
  | _, _ => none

/-- Whether an update leaves a secret configured, where it is about it. -/
def RepositorySecretUpdate.configures (v : SecretEnvironmentVariable) : RepositorySecretUpdate → Option Bool
  | .Set w _ => if w = v then some true else none
  | .Remove w => if w = v then some false else none

/-- The same for the last such update of a request. -/
def RequestCommand.configures (v : SecretEnvironmentVariable) (command : RequestCommand) : Option Bool :=
  (command.secret_updates.filterMap (RepositorySecretUpdate.configures v)).getLast?

theorem assign_effective {α : Type} (value : Option α) (old : Option α × α) :
    ((assign value).getD id old).2 = value.getD old.2 := by
  cases value <;> rfl

theorem assign_text_effective (text : Option String) (old : Option (Option String) × Option String) :
    ((assign_text text).getD id old).2 = (text.map nonempty_trimmed).getD old.2 := by
  cases text <;> rfl

/-- With a reference for each secret that is set, the last update of a secret decides. -/
theorem edit_refs_contains (v : SecretEnvironmentVariable) {refs : SecretRefs}
    {secret_updates : List RepositorySecretUpdate} {references : List String}
    (h : references.length = (stored_secrets secret_updates).length) :
    (edit_refs refs secret_updates references).contains v =
      (secret_updates.filterMap (RepositorySecretUpdate.configures v)).getLast?.getD (refs.contains v) := by
  induction secret_updates generalizing refs references with
  | nil => cases references <;> rfl
  | cons update updates ih =>
    have hlast (first : Option Bool) (rest : List Bool) (old : Bool) :
        (first.toList ++ rest).getLast?.getD old = rest.getLast?.getD (first.getD old) := by
      cases first <;> simp [List.getLast?_cons]
    have hcons : (update :: updates).filterMap (RepositorySecretUpdate.configures v) =
        (update.configures v).toList ++ updates.filterMap (RepositorySecretUpdate.configures v) := by
      cases hfirst : update.configures v <;> simp [hfirst]
    rw [hcons, hlast]
    cases update with
    | Set w value =>
      cases references with
      | nil => cases h
      | cons reference references =>
        rw [edit_refs, ih (Nat.succ.inj h), BTreeMap.contains, BTreeMap.get?_insert, RepositorySecretUpdate.configures]
        by_cases hv : w = v
        · simp [hv]
        · simp [hv, Ne.symm hv, BTreeMap.contains]
    | Remove w =>
      rw [edit_refs, ih h, BTreeMap.contains, BTreeMap.get?_erase, RepositorySecretUpdate.configures]
      by_cases hv : w = v
      · simp [hv]
      · simp [hv, Ne.symm hv, BTreeMap.contains]

section InForce

variable {ext : External} {runtime after : ServiceRuntime} {command : RequestCommand}

/-- A field has the value the request gives it, or the one it had. -/
theorem InForce.get (h : InForce ext runtime command after) (hviews : command.updates_views = true) {f : PolicyField}
    (hf : f ≠ .RepositorySecretRefs) : after.config.get f = (command.sets ext f).getD (runtime.config.get f) := by
  obtain ⟨references, candidate, -, hedited, hconfig, -⟩ := h.edited
  have hfield := congrArg Prod.snd (hedited.fields f)
  rw [hconfig, show candidate.effective.get f = _ from hfield]
  cases command with
  | UpdateBackupSources paths exclusions =>
    cases f with
    | BackupPaths => exact assign_effective _ _
    | BackupExclusions => exact assign_effective _ _
    | _ => rfl
  | UpdateRepository display_name url mode options secret_updates =>
    cases f with
    | RepositoryDisplayName => exact assign_text_effective _ _
    | RepositoryUrl => exact assign_text_effective _ _
    | RepositoryMode => exact assign_effective _ _
    | RepositoryOptions => exact assign_effective _ _
    | RepositorySecretRefs => exact absurd rfl hf
    | _ => rfl
  | _ => cases hviews

/-- A secret is configured if the request sets it, or was and is not removed. -/
theorem InForce.configured (h : InForce ext runtime command after) (hviews : command.updates_views = true)
    (v : SecretEnvironmentVariable) : after.config.repository.secret_refs.contains v =
      (command.configures v).getD (runtime.config.repository.secret_refs.contains v) := by
  obtain ⟨references, candidate, hstored, hedited, hconfig, -⟩ := h.edited
  have hfield : candidate.effective.repository.secret_refs = _ := congrArg Prod.snd (hedited.fields .RepositorySecretRefs)
  rw [hconfig, hfield]
  cases command with
  | UpdateBackupSources paths exclusions => rfl
  | UpdateRepository display_name url mode options secret_updates =>
    cases secret_updates with
    | nil => rfl
    | cons update updates => exact edit_refs_contains v hstored
  | _ => cases hviews

theorem InForce.management (h : InForce ext runtime command after) :
    after.local_config.management = runtime.local_config.management := by
  obtain ⟨references, candidate, -, hedited, -, hlocal⟩ := h.edited
  rw [hlocal, hedited.management]

end InForce

/-- A request on the pipe. -/
structure UpdateCall where
  request_id : UInt64
  command : RequestCommand
  elevated : Bool
  io : RequestIo

def SecretEnvironmentVariable.all : List SecretEnvironmentVariable :=
  [.ResticPassword, .AwsAccessKeyId, .AwsSecretAccessKey, .AwsSessionToken, .AzureAccountKey, .B2AccountKey,
    .GoogleApplicationCredentials, .RcloneConfigPassword]

namespace UpdateCall

/-! ### What calls set last -/

section Last

variable (ext : External) (calls : List UpdateCall) (runtime : ServiceRuntime)

def last_value (f : PolicyField) : f.Value :=
  (calls.filterMap (fun call => call.command.sets ext f)).getLast?.getD (runtime.config.get f)

def last_secrets : List SecretEnvironmentVariable :=
  SecretEnvironmentVariable.all.filter fun v =>
    (calls.filterMap (fun call => call.command.configures v)).getLast?.getD
      (runtime.config.repository.secret_refs.contains v)

def last_operation : RepositoryOperationStatus :=
  (calls.filterMap (fun call => call.command.sets_operation)).getLast?.getD runtime.state.repository_operation

end Last

variable (requests : RequestJson) (toml : ConfigToml) (ext : External)

def handled (runtime : ServiceRuntime) (call : UpdateCall) : ServiceRuntime × ResponsePayload :=
  runtime.handle_request ext call.command call.elevated call.io

def step (runtime : ServiceRuntime) (call : UpdateCall) : Option ServiceRuntime := some (handled ext runtime call).1

/-- An update that arrives in a legal frame, is accepted and saved. -/
structure Accepted (runtime : ServiceRuntime) (call : UpdateCall) : Prop where
  updates : call.command.updates_views = true
  frame : (requests.request call.request_id call.command).utf8ByteSize ≤ MAX_FRAME_BYTES
  accepted : (handled ext runtime call).2.isAccepted = true
  saved : toml.save (handled ext runtime call).1.local_config call.io.config_written = .ok ()

variable {requests : RequestJson} {toml : ConfigToml} {ext : External} {runtime final : ServiceRuntime}
  {calls : List UpdateCall} {call : UpdateCall}

theorem Accepted.in_force (h : Accepted requests toml ext runtime call) :
    InForce ext runtime call.command (handled ext runtime call).1 := accepted_update h.updates h.accepted

section Runs

variable (hrun : Run (step ext) (Accepted requests toml ext) runtime calls final)

include hrun

/-- After accepted updates each field has the value that was set last. -/
theorem last_set {f : PolicyField} (hf : f ≠ .RepositorySecretRefs) : final.config.get f = last_value ext calls runtime f := by
  refine hrun.last_set (fun runtime => runtime.config.get f) (fun call => call.command.sets ext f) ?_
  intro before call after hok hstep
  obtain rfl := Option.some.inj hstep
  exact hok.in_force.get hok.updates hf

theorem last_configured : final.config.repository.secret_refs.keys = last_secrets calls runtime := by
  have hcontains (v : SecretEnvironmentVariable) := hrun.last_set
    (fun runtime => runtime.config.repository.secret_refs.contains v) (fun call => call.command.configures v) (by
      intro before call after hok hstep
      obtain rfl := Option.some.inj hstep
      exact hok.in_force.configured hok.updates v)
  have hall (v : SecretEnvironmentVariable) : v ∈ SecretEnvironmentVariable.all := by cases v <;> decide
  rw [BTreeMap.keys_eq_filter _ (by decide : SecretEnvironmentVariable.all.Pairwise (· < ·)) hall, last_secrets]
  exact List.filter_congr fun v _ => hcontains v

theorem last_status : final.state.repository_operation = last_operation calls runtime := by
  refine hrun.last_set (fun runtime => runtime.state.repository_operation) (fun call => call.command.sets_operation) ?_
  intro before call after hok hstep
  obtain rfl := Option.some.inj hstep
  exact hok.in_force.repository_operation

/-- Updates lock and unlock nothing. -/
theorem locks_eq : (∀ f, final.field_locked f = runtime.field_locked f) ∧
    final.repository_secrets_locked = runtime.repository_secrets_locked := by
  have hkept := hrun.inv (fun reached => reached.field_resolutions = runtime.field_resolutions ∧
    reached.local_config.management = runtime.local_config.management) (by
      rintro before call after ⟨hfields, hmanagement⟩ hok hstep
      obtain rfl := Option.some.inj hstep
      exact ⟨hok.in_force.field_resolutions.trans hfields, hok.in_force.management.trans hmanagement⟩) ⟨rfl, rfl⟩
  have hlocked (f : PolicyField) : final.field_locked f = runtime.field_locked f := by
    rw [ServiceRuntime.field_locked, ServiceRuntime.field_locked, hkept.1]
  exact ⟨hlocked, by rw [ServiceRuntime.repository_secrets_locked, ServiceRuntime.repository_secrets_locked, hlocked,
    ServiceRuntime.management_view, ServiceRuntime.management_view, hkept.2]⟩

end Runs

end UpdateCall

/-! ## Sizes of the views -/

/-- The bytes of the backup sources in their view. -/
def sources_size (paths : List PathBuf) (exclusions : List String) : Nat :=
  (json_strings (paths.map PathBuf.text)).utf8ByteSize + (json_strings exclusions).utf8ByteSize

/-- The bytes of the repository's settings in their view. -/
def repository_size (json : MessageJson) (display_name url : Option String) (mode : RepositoryMode) (options : Options)
    (secrets : List SecretEnvironmentVariable) (operation : RepositoryOperationStatus) : Nat :=
  (json_optional display_name).utf8ByteSize + (json_optional url).utf8ByteSize + (quote mode.json_name).utf8ByteSize +
    (object (options.entries.map (fun entry => (entry.1, quote entry.2)))).utf8ByteSize +
    (json_strings (secrets.map SecretEnvironmentVariable.as_str)).utf8ByteSize +
    (json.operation_status operation).utf8ByteSize

def flags_size (flags : List Bool) : Nat := (flags.map (fun flag => (json_bool flag).utf8ByteSize)).sum

/-- The lock flags of the two views. -/
def ServiceRuntime.source_locks (runtime : ServiceRuntime) : List Bool :=
  [runtime.field_locked .BackupPaths, runtime.field_locked .BackupExclusions]

def ServiceRuntime.repository_locks (runtime : ServiceRuntime) : List Bool :=
  [runtime.field_locked .RepositoryDisplayName, runtime.field_locked .RepositoryUrl, runtime.field_locked .RepositoryMode,
    runtime.field_locked .RepositoryOptions, runtime.repository_secrets_locked]

section Views

variable (json : MessageJson) (ext : External) (runtime : ServiceRuntime) (request_id : UInt64) (written : Bytes) (io : RequestIo)

/-- Answer a read and write the response to the pipe. -/
def write_view (command : RequestCommand) : Except FrameError Unit :=
  (write_frame json.codec written (.new request_id (runtime.handle_request ext command true io).2)).2

theorem write_sources_iff :
    write_view json ext runtime request_id written io .GetBackupSources = .ok () ↔
      sources_size runtime.config.backup.paths runtime.config.backup.exclusions + flags_size runtime.source_locks +
        MessageJson.id_size request_id + 150 ≤ MAX_FRAME_BYTES := by
  have hnames : (quote "type").utf8ByteSize = 6 ∧ (quote "backup_sources").utf8ByteSize = 16 ∧
      (quote "configuration").utf8ByteSize = 15 ∧ (quote "paths").utf8ByteSize = 7 ∧ (quote "exclusions").utf8ByteSize = 12 ∧
      (quote "paths_locked").utf8ByteSize = 14 ∧ (quote "exclusions_locked").utf8ByteSize = 19 := by decide
  rw [write_view, MessageJson.write_frame_iff, MessageJson.utf8ByteSize_response]
  simp only [ServiceRuntime.handle_request, for_administrator, if_true, MessageJson.payload, BackupSourcesView.json,
    ServiceRuntime.backup_sources_view, JsonString.utf8ByteSize_object, List.map_cons, List.map_nil, List.sum_cons,
    List.sum_nil, List.length_cons, List.length_nil, fieldSize, hnames, sources_size, flags_size,
    ServiceRuntime.source_locks]
  omega

theorem write_repository_iff :
    write_view json ext runtime request_id written io .GetRepository = .ok () ↔
      repository_size json runtime.config.repository.display_name runtime.config.repository.url
          runtime.config.repository.mode runtime.config.repository.options runtime.config.repository.secret_refs.keys
          runtime.state.repository_operation + flags_size runtime.repository_locks + MessageJson.id_size request_id + 258 ≤
        MAX_FRAME_BYTES := by
  have hnames : (quote "type").utf8ByteSize = 6 ∧ (quote "repository").utf8ByteSize = 12 ∧
      (quote "configuration").utf8ByteSize = 15 ∧ (quote "display_name").utf8ByteSize = 14 ∧
      (quote "url").utf8ByteSize = 5 ∧ (quote "mode").utf8ByteSize = 6 ∧ (quote "options").utf8ByteSize = 9 ∧
      (quote "configured_secrets").utf8ByteSize = 20 ∧ (quote "operation_status").utf8ByteSize = 18 ∧
      (quote "display_name_locked").utf8ByteSize = 21 ∧ (quote "url_locked").utf8ByteSize = 12 ∧
      (quote "mode_locked").utf8ByteSize = 13 ∧ (quote "options_locked").utf8ByteSize = 16 ∧
      (quote "secrets_locked").utf8ByteSize = 16 := by decide
  rw [write_view, MessageJson.write_frame_iff, MessageJson.utf8ByteSize_response]
  simp only [ServiceRuntime.handle_request, for_administrator, if_true, MessageJson.payload, MessageJson.repository,
    ServiceRuntime.repository_view, JsonString.utf8ByteSize_object, List.map_cons, List.map_nil, List.sum_cons,
    List.sum_nil, List.length_cons, List.length_nil, fieldSize, hnames, repository_size, flags_size,
    ServiceRuntime.repository_locks]
  omega

/-- A bound that holds for every request's number holds for the longest. -/
theorem forall_id_size_iff {size envelope : Nat} :
    (∀ request_id, size + MessageJson.id_size request_id + envelope ≤ MAX_FRAME_BYTES) ↔
      size + (envelope + 20) ≤ MAX_FRAME_BYTES := by
  have hlongest : MessageJson.id_size 0xffffffffffffffff = 20 := by decide
  constructor
  · intro h
    have hlast := h 0xffffffffffffffff
    omega
  · intro h request_id
    have hle := MessageJson.id_size_le request_id
    omega

/-- The same for a read whose response takes `size` bytes beside its number and the envelope. -/
theorem readable_iff {command : RequestCommand} {size envelope : Nat}
    (h : ∀ request_id written io, write_view json ext runtime request_id written io command = .ok () ↔
      size + MessageJson.id_size request_id + envelope ≤ MAX_FRAME_BYTES) :
    (∀ request_id written io, write_view json ext runtime request_id written io command = .ok ()) ↔
      size + (envelope + 20) ≤ MAX_FRAME_BYTES := by
  rw [← forall_id_size_iff]
  exact ⟨fun hall request_id => (h request_id [] (.quiet .UNIX_EPOCH)).1 (hall request_id [] _),
    fun hall request_id written io => (h request_id written io).2 (hall request_id)⟩

end Views

/-- After any accepted updates, each field has the value that was set last, and the views can
be read back exactly when the values set last are short enough in JSON. -/
theorem configuration_is_readable_iff {json : MessageJson} {requests : RequestJson} {toml : ConfigToml} {ext : External}
    {runtime final : ServiceRuntime} {calls : List UpdateCall}
    (hrun : Run (UpdateCall.step ext) (UpdateCall.Accepted requests toml ext) runtime calls final) :
    (∀ f, f ≠ .RepositorySecretRefs → final.config.get f = UpdateCall.last_value ext calls runtime f) ∧
    ((∀ command ∈ [RequestCommand.GetBackupSources, .GetRepository], ∀ request_id written io,
        write_view json ext final request_id written io command = .ok ()) ↔
      sources_size (UpdateCall.last_value ext calls runtime .BackupPaths)
          (UpdateCall.last_value ext calls runtime .BackupExclusions) +
        flags_size runtime.source_locks + 170 ≤ MAX_FRAME_BYTES ∧
      repository_size json (UpdateCall.last_value ext calls runtime .RepositoryDisplayName)
          (UpdateCall.last_value ext calls runtime .RepositoryUrl) (UpdateCall.last_value ext calls runtime .RepositoryMode)
          (UpdateCall.last_value ext calls runtime .RepositoryOptions) (UpdateCall.last_secrets calls runtime)
          (UpdateCall.last_operation calls runtime) +
        flags_size runtime.repository_locks + 278 ≤ MAX_FRAME_BYTES) := by
  have hset {f : PolicyField} (hf : f ≠ .RepositorySecretRefs) := UpdateCall.last_set hrun hf
  obtain ⟨hlocked, hsecrets⟩ := UpdateCall.locks_eq hrun
  have hsources : final.source_locks = runtime.source_locks := by
    simp only [ServiceRuntime.source_locks, hlocked]
  have hrepository : final.repository_locks = runtime.repository_locks := by
    simp only [ServiceRuntime.repository_locks, hlocked, hsecrets]
  refine ⟨fun f hf => hset hf, ?_⟩
  rw [List.forall_mem_cons, List.forall_mem_singleton, readable_iff json ext final (write_sources_iff json ext final),
    readable_iff json ext final (write_repository_iff json ext final), hsources, hrepository,
    UpdateCall.last_configured hrun, UpdateCall.last_status hrun,
    ← hset (f := .BackupPaths) (by decide), ← hset (f := .BackupExclusions) (by decide),
    ← hset (f := .RepositoryDisplayName) (by decide), ← hset (f := .RepositoryUrl) (by decide),
    ← hset (f := .RepositoryMode) (by decide), ← hset (f := .RepositoryOptions) (by decide)]
  rfl

/-! ## Texts of growing length -/

/-- Without repeated keys nothing is dropped. -/
theorem deduplicateBy_of_nodup {α : Type} {key : α → String} {seen : List String} {xs : List α}
    (hnodup : (xs.map key).Nodup) (hseen : ∀ x ∈ xs, key x ∉ seen) : deduplicateBy key seen xs = xs := by
  induction xs generalizing seen with
  | nil => rfl
  | cons x xs ih =>
    rw [List.map_cons, List.nodup_cons] at hnodup
    obtain ⟨hx, hxs⟩ := List.forall_mem_cons.1 hseen
    rw [deduplicateBy, if_neg hx, ih hnodup.2]
    intro y hy hmem
    rcases List.mem_cons.1 hmem with heq | hmem
    · exact hnodup.1 (heq ▸ List.mem_map_of_mem hy)
    · exact hxs y hy hmem

/-- A text with a character repeated at its end. -/
@[irreducible] def padded (start : String) (c : Char) (n : Nat) : String := start ++ String.ofList (List.replicate n c)

/-- Texts that are each one character longer than the one before. -/
@[irreducible] def growing (start : String) (c : Char) (first count : Nat) : List String :=
  (List.range count).map (fun n => padded start c (first + n))

section Growing

variable {start : String} {c : Char} {first count : Nat}

theorem padded_toList (start : String) (c : Char) (n : Nat) :
    (padded start c n).toList = start.toList ++ List.replicate n c := by
  rw [padded, String.toList_append, String.toList_ofList]

theorem mem_growing {text : String} (h : text ∈ growing start c first count) :
    ∃ n, first ≤ n ∧ n < first + count ∧ text = padded start c n := by
  rw [growing] at h
  obtain ⟨n, hn, rfl⟩ := List.mem_map.1 h
  exact ⟨first + n, by omega, Nat.add_lt_add_left (List.mem_range.1 hn) first, rfl⟩

theorem growing_length : (growing start c first count).length = count := by
  rw [growing, List.length_map, List.length_range]

theorem growing_all {p : Char → Bool} (hstart : start.toList.all p = true) (hc : p c = true) :
    ∀ text ∈ growing start c first count, text.toList.all p = true := by
  intro text htext
  obtain ⟨n, -, -, rfl⟩ := mem_growing htext
  rw [padded_toList, List.all_append, hstart, List.all_replicate, hc]
  split <;> rfl

variable (hsize : c.utf8Size = 1)

include hsize

theorem padded_size (n : Nat) : (padded start c n).utf8ByteSize = start.utf8ByteSize + n := by
  rw [padded, String.utf8ByteSize_append, JsonString.utf8ByteSize_replicate, hsize, Nat.mul_one]

theorem growing_nodup : (growing start c first count).Nodup := by
  rw [growing]
  refine List.nodup_range.map fun n m hsame => ?_
  have hsizes := congrArg String.utf8ByteSize hsame
  rw [padded_size hsize, padded_size hsize] at hsizes
  omega

theorem growing_bytes : ((growing start c first count).map String.utf8ByteSize).sum =
    ((List.range count).map (fun n => start.utf8ByteSize + (first + n))).sum := by
  rw [growing, List.map_map]
  exact congrArg List.sum (List.map_congr_left fun n _ => padded_size hsize (first + n))

omit hsize in
theorem growing_lowercase : (growing start c first count).map Text.to_ascii_lowercase =
    growing (Text.to_ascii_lowercase start) c.toLower first count := by
  rw [growing, growing, List.map_map]
  refine List.map_congr_left fun n _ => String.toList_inj.1 ?_
  simp [Text.to_ascii_lowercase, padded_toList]

/-- The texts as a JSON array. -/
theorem growing_json : (json_strings (growing start c first count)).utf8ByteSize =
    ((List.range count).map (fun n => start.utf8ByteSize + (first + n) +
      (JsonString.escapeCosts start + (first + n) * JsonString.escapeCost c))).sum + 2 * count + (count - 1) + 2 := by
  rw [utf8ByteSize_json_strings, growing_length, growing, List.map_map]
  refine congrArg (fun sizes => List.sum sizes + 2 * count + (count - 1) + 2) (List.map_congr_left fun n _ => ?_)
  dsimp only [Function.comp_apply]
  rw [padded_size hsize, padded, JsonString.escapeCosts_append, JsonString.escapeCosts_replicate]

/-- The texts as an array of literals in `config.toml`. -/
theorem growing_toml (toml : ConfigToml) (hstart : start.toList.all Toml.isLiteral = true)
    (hc : Toml.isLiteral c = true) : (toml.strings (growing start c first count)).utf8ByteSize ≤
      ((List.range count).map (fun n => start.utf8ByteSize + (first + n))).sum + 8 * count + 3 := by
  have h := toml.utf8ByteSize_strings_le (@growing_all start c first count _ hstart hc)
  rwa [growing_bytes hsize, growing_length] at h

end Growing

theorem is_empty_of_size {s : String} (h : 0 < s.utf8ByteSize) : Text.is_empty s = false := by
  rw [Text.is_empty, beq_eq_false_iff_ne]
  rintro rfl
  exact Nat.lt_irrefl 0 h

/-- A path on drive `D` with nothing unusual in it. -/
theorem validate_path_of_drive {path : PathBuf} {names : List Char}
    (htext : path.text.toList = 'D' :: ':' :: '\\' :: names) (hchars : ∀ c ∈ names, c ≠ '\x00' ∧ c.toNat < 0x10000)
    (hlength : names.length + 3 ≤ MAX_PATH_CHARACTERS) :
    path.prefixKind = some (.Disk 'D') ∧ path.components.head? = some (.Prefix (.Disk 'D')) ∧ validate_path path = .ok () := by
  have hkind : path.prefixKind = some (.Disk 'D') := by
    rw [PathBuf.prefixKind, htext]
    rfl
  have hhead : path.components.head? = some (.Prefix (.Disk 'D')) := by rw [components_of_kind hkind, List.head?_cons]
  have hempty : Text.is_empty path.text = false := by
    rw [Text.is_empty, beq_eq_false_iff_ne]
    intro hnone
    rw [hnone] at htext
    cases htext
  have habsolute : path.is_absolute = true := by
    rw [PathBuf.is_absolute, PathBuf.has_root, PathBuf.has_physical_root, PathBuf.body, hkind, htext]
    rfl
  have hcount : decide (Text.utf16Count path.text > MAX_PATH_CHARACTERS) = false := by
    have hunits : names.map (fun c => if 0x10000 ≤ c.toNat then 2 else 1) = names.map (fun _ => 1) :=
      List.map_congr_left fun c hc => if_neg (Nat.not_le.2 (hchars c hc).2)
    have hsum : Text.utf16Count path.text = names.length + 3 := by
      rw [Text.utf16Count, htext, List.map_cons, List.map_cons, List.map_cons, hunits, List.map_const', List.sum_cons,
        List.sum_cons, List.sum_cons, List.sum_replicate_nat, Nat.mul_one, Nat.add_comm]
      simp
      omega
    rw [hsum]
    exact decide_eq_false (Nat.not_lt.2 hlength)
  have hnul : path.text.toList.contains '\x00' = false := by
    rw [htext]
    simpa using fun h => (hchars _ h).1 rfl
  refine ⟨hkind, hhead, ?_⟩
  rw [validate_path, hempty, habsolute, hcount, hnul, hhead]
  rfl

/-- Only the sources differ from the defaults. -/
theorem config_valid {sources : List PathBuf} {values : List String} (hsources : PolicyField.Valid .BackupPaths sources)
    (hvalues : PolicyField.Valid .BackupExclusions values) :
    ({ backup := { paths := sources, exclusions := values } } : EffectiveConfig).validate = .ok () := by
  have hdefault : ({} : EffectiveConfig).validate = .ok () := by decide
  obtain ⟨hvalid, hkeeps⟩ := EffectiveConfig.validate_iff.1 hdefault
  refine EffectiveConfig.validate_iff.2 ⟨fun f => ?_, hkeeps⟩
  cases f with
  | BackupPaths => exact hsources
  | BackupExclusions => exact hvalues
  | _ => exact hvalid _

/-- An update of backup sources as it stands in its frame. -/
theorem frame_size_le (requests : RequestJson) (request_id : UInt64) (paths : Option (List PathBuf))
    (exclusions : Option (List String)) :
    (requests.request request_id (.UpdateBackupSources paths exclusions)).utf8ByteSize ≤
      paths.elim 4 (fun paths => (json_strings (paths.map PathBuf.text)).utf8ByteSize) +
        exclusions.elim 4 (fun exclusions => (json_strings exclusions).utf8ByteSize) + 150 := by
  have hnames : (quote "protocol_version").utf8ByteSize = 18 ∧ (quote "request_id").utf8ByteSize = 12 ∧
      (quote "command").utf8ByteSize = 9 ∧ (quote "type").utf8ByteSize = 6 ∧
      (quote "update_backup_sources").utf8ByteSize = 23 ∧ (quote "paths").utf8ByteSize = 7 ∧
      (quote "exclusions").utf8ByteSize = 12 ∧ "null".utf8ByteSize = 4 ∧
      (toString PROTOCOL_VERSION.toNat).utf8ByteSize = 1 := by decide
  have hid : (toString request_id.toNat).utf8ByteSize ≤ 20 := MessageJson.id_size_le request_id
  cases paths <;> cases exclusions <;>
    simp only [RequestJson.request, RequestJson.command, JsonString.utf8ByteSize_object, Option.elim, List.map_cons,
      List.map_nil, List.sum_cons, List.sum_nil, List.length_cons, List.length_nil, fieldSize, hnames] <;> omega

/-! ## Sources that are too long together -/

namespace LongSources

def exclusions : List String := growing "" '\\' 513 512

def paths : List PathBuf := (growing "D:\\" 'a' 32000 10).map PathBuf.mk

def data_directory : PathBuf := ⟨"C:\\ProgramData\\resticpal"⟩

/-- A service without a configuration file. -/
def runtime : ServiceRuntime :=
  from_resolved_with_state ⟨{}, none, ((choose_all {} {} none).run ∅).2⟩ {} {} ⟨some data_directory, .missing⟩ none .missing
    .missing .UNIX_EPOCH

/-- The same service once backup sources have been saved. -/
def saved (backup : LocalBackupConfig) (file : StoredFile LocalConfig) : ServiceRuntime := { runtime with
  config := { backup := { paths := backup.paths.getD [], exclusions := backup.exclusions.getD [] } }
  local_config := { backup }
  config_store := some ⟨some data_directory, file⟩ }

def io : RequestIo := .quiet .UNIX_EPOCH

def requests : RequestJson := ⟨fun _ => ""⟩

def json : MessageJson := ⟨fun _ => "", fun _ => "", fun _ => none⟩

def toml : ConfigToml := ⟨id⟩

/-- What the service asks of new backup sources, given the ones it has. -/
structure Storable (backup : LocalBackupConfig) (new_paths : Option (List PathBuf)) (new_exclusions : Option (List String)) :
    Prop where
  given : (new_paths.isNone && new_exclusions.isNone) = false
  paths_distinct : new_paths.map (deduplicate_paths External.inert.to_lowercase) = new_paths
  exclusions_distinct : new_exclusions.map deduplicate_exclusions = new_exclusions
  allowed : validate_backup_source_paths External.inert.to_lowercase io.fs (new_paths.getD (backup.paths.getD []))
    (some data_directory) = .ok ()
  paths_valid : PolicyField.Valid .BackupPaths (new_paths.getD (backup.paths.getD []))
  exclusions_valid : PolicyField.Valid .BackupExclusions (new_exclusions.getD (backup.exclusions.getD []))

section Updates

variable {backup : LocalBackupConfig} {file : StoredFile LocalConfig} {new_paths : Option (List PathBuf)}
  {new_exclusions : Option (List String)} (h : Storable backup new_paths new_exclusions)

include h

theorem Storable.handled : (saved backup file).handle_request External.inert (.UpdateBackupSources new_paths new_exclusions)
    true io = (saved ⟨new_paths.or backup.paths, new_exclusions.or backup.exclusions⟩
      (.contents { backup := ⟨new_paths.or backup.paths, new_exclusions.or backup.exclusions⟩ }),
      .Accepted "Backup sources updated.") := by
  have hlocked (f : PolicyField) : (saved backup file).field_locked f = false := by cases f <;> rfl
  have hcheck : check_sources_edit (saved backup file) External.inert new_paths new_exclusions true io =
      .ok ⟨{ backup := ⟨new_paths.or backup.paths, new_exclusions.or backup.exclusions⟩ },
        { backup := ⟨new_paths.getD (backup.paths.getD []), new_exclusions.getD (backup.exclusions.getD [])⟩ }⟩ := by
    simp only [check_sources_edit, check_bind_eq_ok, rejectIf_eq_ok, mapError_eq_ok, pure_eq_ok, h.paths_distinct,
      h.exclusions_distinct, ServiceRuntime.edits_locked, hlocked, Bool.and_false, Bool.or_false]
    exact ⟨check_edit_eq_ok.2 ⟨rfl, rfl⟩, h.given, trivial, h.allowed, config_valid h.paths_valid h.exclusions_valid, rfl, rfl⟩
  have hstate (config : BackupConfig) : apply_configuration_status runtime.state { backup := config } io.now = runtime.state := by
    have hconfigured : ({ backup := config } : EffectiveConfig).is_configured = false := by
      simp [EffectiveConfig.is_configured]
    rw [apply_configuration_status, configuration_status, hconfigured]
    rfl
  rw [ServiceRuntime.handle_request, ServiceRuntime.update_backup_sources, hcheck]
  dsimp only
  rw [commit_candidate, show io.config_written = true from rfl, save_config_succeeds,
    show (saved backup file).state = runtime.state from rfl, hstate, saved, saved]
  dsimp only
  rw [Option.getD_or, Option.getD_or]
  rfl

/-- A run of accepted updates goes on with sources that fit a frame and the file. -/
theorem Storable.run {calls : List UpdateCall} (request_id : UInt64) {a b c d : Nat}
    (hrun : Run (UpdateCall.step External.inert) (UpdateCall.Accepted requests toml External.inert) runtime calls
      (saved backup file))
    (ha : new_paths.elim 4 (fun paths => (json_strings (paths.map PathBuf.text)).utf8ByteSize) ≤ a)
    (hb : new_exclusions.elim 4 (fun exclusions => (json_strings exclusions).utf8ByteSize) ≤ b)
    (hframe : a + b + 150 ≤ MAX_FRAME_BYTES)
    (hc : (new_paths.or backup.paths).elim 0 (fun paths => (toml.strings (paths.map PathBuf.text)).utf8ByteSize) ≤ c)
    (hd : (new_exclusions.or backup.exclusions).elim 0 (fun exclusions => (toml.strings exclusions).utf8ByteSize) ≤ d)
    (hsaved : c + d + 134 < MAX_CONFIG_BYTES) :
    Run (UpdateCall.step External.inert) (UpdateCall.Accepted requests toml External.inert) runtime
      (calls ++ [⟨request_id, .UpdateBackupSources new_paths new_exclusions, true, io⟩])
      (saved ⟨new_paths.or backup.paths, new_exclusions.or backup.exclusions⟩
        (.contents { backup := ⟨new_paths.or backup.paths, new_exclusions.or backup.exclusions⟩ })) := by
  have hhandled : UpdateCall.handled External.inert (saved backup file)
      ⟨request_id, .UpdateBackupSources new_paths new_exclusions, true, io⟩ = _ := h.handled
  have hrequest := frame_size_le requests request_id new_paths new_exclusions
  have hfile := toml.utf8ByteSize_sources_le (new_paths.or backup.paths) (new_exclusions.or backup.exclusions)
  refine .snoc hrun ⟨rfl, Nat.le_trans hrequest (by omega), by rw [hhandled]; rfl, ?_⟩ ?_
  · rw [hhandled]
    exact ConfigToml.save_eq_ok.2 ⟨Nat.lt_of_le_of_lt hfile (by omega), rfl⟩
  · rw [UpdateCall.step, hhandled]

end Updates

/-- The first request sets the exclusions, the second the paths. -/
def first (values : List String) : UpdateCall := ⟨1, .UpdateBackupSources none (some values), true, io⟩

def second (sources : List PathBuf) : UpdateCall := ⟨2, .UpdateBackupSources (some sources) none, true, io⟩

def once (values : List String) : ServiceRuntime := saved ⟨none, some values⟩ (.contents { backup := ⟨none, some values⟩ })

def twice (sources : List PathBuf) (values : List String) : ServiceRuntime :=
  saved ⟨some sources, some values⟩ (.contents { backup := ⟨some sources, some values⟩ })

theorem run_first {values : List String} (h : Storable {} none (some values)) {a b : Nat}
    (ha : (json_strings values).utf8ByteSize ≤ a) (hframe : 4 + a + 150 ≤ MAX_FRAME_BYTES)
    (hb : (toml.strings values).utf8ByteSize ≤ b) (hsaved : 0 + b + 134 < MAX_CONFIG_BYTES) :
    Run (UpdateCall.step External.inert) (UpdateCall.Accepted requests toml External.inert) runtime [first values]
      (once values) :=
  @Storable.run {} .missing none (some values) h [] 1 4 a 0 b .nil (Nat.le_refl 4) ha hframe (Nat.le_refl 0) hb hsaved

theorem run_second {sources : List PathBuf} {values : List String} (h : Storable ⟨none, some values⟩ (some sources) none)
    (hrun : Run (UpdateCall.step External.inert) (UpdateCall.Accepted requests toml External.inert) runtime [first values]
      (once values)) {a b c : Nat} (ha : (json_strings (sources.map PathBuf.text)).utf8ByteSize ≤ a)
    (hframe : a + 4 + 150 ≤ MAX_FRAME_BYTES) (hb : (toml.strings (sources.map PathBuf.text)).utf8ByteSize ≤ b)
    (hc : (toml.strings values).utf8ByteSize ≤ c) (hsaved : b + c + 134 < MAX_CONFIG_BYTES) :
    Run (UpdateCall.step External.inert) (UpdateCall.Accepted requests toml External.inert) runtime
      [first values, second sources] (twice sources values) :=
  @Storable.run ⟨none, some values⟩ _ (some sources) none h [first values] 2 a 4 b c hrun ha (Nat.le_refl 4) hframe hb hc
    hsaved

theorem paths_text : paths.map PathBuf.text = growing "D:\\" 'a' 32000 10 := by
  rw [paths, List.map_map]
  exact List.map_id _

theorem exclusions_valid : PolicyField.Valid .BackupExclusions exclusions := by
  refine ⟨growing_length.le, fun value hvalue => ?_⟩
  have hbreak : Text.hasBreak value = false := by
    have hall := @growing_all "" '\\' 513 512 (· == '\\') rfl rfl value hvalue
    rw [Text.hasBreak, List.any_eq_false]
    intro c hc
    rw [beq_iff_eq.1 (List.all_eq_true.1 hall c hc)]
    decide
  obtain ⟨n, hmin, hmax, rfl⟩ := mem_growing hvalue
  have hne : Text.is_empty (padded "" '\\' n) = false := is_empty_of_size (by rw [padded_size (by decide)]; omega)
  have hlimit : decide ((padded "" '\\' n).length > MAX_EXCLUSION_CHARACTERS) = false := by
    rw [← String.length_toList, padded_toList, List.length_append, List.length_replicate]
    exact decide_eq_false (by unfold MAX_EXCLUSION_CHARACTERS; simp; omega)
  rw [hne, hlimit, hbreak]
  rfl

theorem mem_paths {source : PathBuf} (h : source ∈ paths) :
    source.prefixKind = some (.Disk 'D') ∧ source.components.head? = some (.Prefix (.Disk 'D')) ∧ validate_path source = .ok () := by
  obtain ⟨text, htext, rfl⟩ := List.mem_map.1 h
  obtain ⟨n, -, hmax, rfl⟩ := mem_growing htext
  refine @validate_path_of_drive _ (List.replicate n 'a') (padded_toList _ _ _) ?_ ?_
  · intro c hc
    rw [List.eq_of_mem_replicate hc]
    decide
  · rw [List.length_replicate]
    unfold MAX_PATH_CHARACTERS
    omega

theorem paths_allowed :
    validate_backup_source_paths External.inert.to_lowercase io.fs paths (some data_directory) = .ok () := by
  rw [validate_backup_source_paths, forM_eq_ok]
  intro source hsource
  obtain ⟨hkind, hhead, -⟩ := mem_paths hsource
  have hinside : windows_path_is_same_or_descendant External.inert.to_lowercase source data_directory = false :=
    not_contained_of_drive hkind (by decide : data_directory.prefixKind = some (.Disk 'C')) (by decide)
  simp [source_is_network_path, source_uses_unsupported_local_namespace, hhead, io, RequestIo.quiet, hinside]

theorem exclusions_storable : Storable {} none (some exclusions) where
  given := rfl
  paths_distinct := rfl
  exclusions_distinct := by
    have hnodup : (exclusions.map id).Nodup := by
      rw [List.map_id]
      exact growing_nodup (by decide)
    exact congrArg some (deduplicateBy_of_nodup hnodup fun _ _ => List.not_mem_nil)
  allowed := rfl
  paths_valid := ⟨Nat.zero_le _, fun _ h => absurd h List.not_mem_nil⟩
  exclusions_valid := exclusions_valid

theorem paths_storable : Storable ⟨none, some exclusions⟩ (some paths) none where
  given := rfl
  paths_distinct := by
    have hnodup : (paths.map (fun source => External.inert.to_lowercase source.text)).Nodup := by
      have hlower : (paths.map (fun source => External.inert.to_lowercase source.text)) =
          (paths.map PathBuf.text).map Text.to_ascii_lowercase := by
        rw [List.map_map]
        rfl
      rw [hlower, paths_text, growing_lowercase]
      exact growing_nodup (by decide)
    exact congrArg some (deduplicateBy_of_nodup hnodup fun _ _ => List.not_mem_nil)
  exclusions_distinct := rfl
  allowed := paths_allowed
  paths_valid := by
    refine ⟨?_, fun source hsource => (mem_paths hsource).2.2⟩
    rw [Option.getD_some, paths, List.length_map, growing_length]
    decide
  exclusions_valid := exclusions_valid

theorem exclusions_size : (json_strings exclusions).utf8ByteSize = 788481 := by
  rw [exclusions, growing_json (by decide)]
  decide +kernel

theorem paths_size : (json_strings (paths.map PathBuf.text)).utf8ByteSize = 320116 := by
  rw [paths_text, growing_json (by decide)]
  decide +kernel

theorem exclusions_saved : (toml.strings exclusions).utf8ByteSize ≤ 397571 :=
  Nat.le_trans (growing_toml (by decide) toml (by decide) (by decide)) (by decide +kernel)

theorem paths_saved : (toml.strings (paths.map PathBuf.text)).utf8ByteSize ≤ 320158 := by
  rw [paths_text]
  exact Nat.le_trans (growing_toml (by decide) toml (by decide) (by decide)) (by decide +kernel)

theorem max_bytes : MAX_FRAME_BYTES = 1048576 ∧ MAX_CONFIG_BYTES = 1048576 := ⟨rfl, rfl⟩

/-- The steps of the two requests. -/
theorem first_run : Run (UpdateCall.step External.inert) (UpdateCall.Accepted requests toml External.inert) runtime
    [first exclusions] (once exclusions) :=
  run_first exclusions_storable exclusions_size.le (by decide) exclusions_saved (by decide)

theorem second_run : Run (UpdateCall.step External.inert) (UpdateCall.Accepted requests toml External.inert) runtime
    [first exclusions, second paths] (twice paths exclusions) :=
  run_second paths_storable first_run paths_size.le (by decide) paths_saved exclusions_saved (by decide)

theorem twice_size (sources : List PathBuf) (values : List String) :
    sources_size (twice sources values).config.backup.paths (twice sources values).config.backup.exclusions =
      sources_size sources values := rfl

/-- Updates of the sources leave the repository as it is. -/
theorem first_values (values : List String) : UpdateCall.last_value External.inert [first values] runtime .BackupPaths = [] ∧
    UpdateCall.last_value External.inert [first values] runtime .BackupExclusions = deduplicate_exclusions values ∧
    UpdateCall.last_value External.inert [first values] runtime .RepositoryDisplayName = none ∧
    UpdateCall.last_value External.inert [first values] runtime .RepositoryUrl = none ∧
    UpdateCall.last_value External.inert [first values] runtime .RepositoryMode = .Standard ∧
    UpdateCall.last_value External.inert [first values] runtime .RepositoryOptions = ∅ ∧
    UpdateCall.last_secrets [first values] runtime = [] ∧ UpdateCall.last_operation [first values] runtime = .NotRun :=
  ⟨rfl, rfl, rfl, rfl, rfl, rfl, rfl, rfl⟩

/-- Nothing is locked, and the repository is not set up. -/
theorem default_sizes : flags_size runtime.source_locks = 10 ∧ flags_size runtime.repository_locks = 25 ∧
    repository_size json none none .Standard ∅ [] .NotRun ≤ 100 := by
  refine ⟨by decide, by decide, by decide⟩

/-- The exclusions alone can be read back. -/
theorem exclusions_are_readable :
    Run (UpdateCall.step External.inert) (UpdateCall.Accepted requests toml External.inert) runtime [first exclusions]
      (once exclusions) ∧
    ∀ command ∈ [RequestCommand.GetBackupSources, .GetRepository], ∀ request_id written io,
      write_view json External.inert (once exclusions) request_id written io command = .ok () := by
  obtain ⟨hsources, hrepository, hsize⟩ := default_sizes
  obtain ⟨hpaths, hexclusions, hname, hurl, hmode, hoptions, hsecrets, hoperation⟩ := first_values exclusions
  refine ⟨first_run, (configuration_is_readable_iff first_run).2.2 ⟨?_, ?_⟩⟩
  · have hempty : (json_strings ([].map PathBuf.text)).utf8ByteSize = 2 := by decide
    rw [hpaths, hexclusions, Option.some.inj exclusions_storable.exclusions_distinct, sources_size, hempty,
      exclusions_size, hsources, max_bytes.1]
    decide
  · rw [hname, hurl, hmode, hoptions, hsecrets, hoperation, hrepository, max_bytes.1]
    exact Nat.le_trans (Nat.add_le_add_right (Nat.add_le_add_right hsize 25) 278) (by decide)

/-- With the paths they cannot, although both requests were accepted and saved. -/
theorem sources_cannot_be_read :
    (∀ command ∈ [RequestCommand.GetBackupSources, .GetRepository], ∀ request_id written io,
      write_view json External.inert runtime request_id written io command = .ok ()) ∧
    Run (UpdateCall.step External.inert) (UpdateCall.Accepted requests toml External.inert) runtime
      [first exclusions, second paths] (twice paths exclusions) ∧
    ∀ request_id written io, write_view json External.inert (twice paths exclusions) request_id written io .GetBackupSources ≠
      .ok () := by
  refine ⟨?_, second_run, fun request_id written io hok => ?_⟩
  · obtain ⟨hsources, hrepository, hsize⟩ := default_sizes
    rw [List.forall_mem_cons, List.forall_mem_singleton, readable_iff json _ _ (write_sources_iff json _ runtime),
      readable_iff json _ _ (write_repository_iff json _ runtime), hsources, hrepository, max_bytes.1]
    exact ⟨by decide, Nat.le_trans (Nat.add_le_add_right (Nat.add_le_add_right hsize 25) 278) (by decide)⟩
  · rw [write_sources_iff, twice_size, sources_size, paths_size, exclusions_size, max_bytes.1] at hok
    omega

end LongSources

end ResticPal
