import ResticPal.Lib.JsonString
import ResticPal.Protocol
import ResticPal.Protocol.Frames
/-!
# Messages as JSON

`resticpal-protocol/src/lib.rs`: a response and a request as `serde_json::to_vec`
writes them. The payloads and commands that carry lists from outside are written
out; the text of the others, and that of an instant, is left to the library.

- `utf8ByteSize_response`: the size of a response is that of its payload and the
  envelope.
-/

open Lib

namespace ResticPal

open Text (Bytes)
open JsonString (quote array object fieldSize)

def PROTOCOL_VERSION : UInt32 := 4

structure Response where
  protocol_version : UInt32
  request_id : UInt64
  payload : ResponsePayload
  deriving DecidableEq

def Response.new (request_id : UInt64) (payload : ResponsePayload) : Response where
  protocol_version := PROTOCOL_VERSION
  request_id
  payload

/-- `serde_json`, for the messages of the pipe. -/
structure MessageJson where
  /-- The text of an instant, in RFC 3339. -/
  format_time : DateTime → String
  /-- The payloads that are not written out below. -/
  other : ResponsePayload → String
  from_slice : Bytes → Option Response

/-! ## Values -/

def json_bool (value : Bool) : String := if value then "true" else "false"

def json_strings (values : List String) : String := array (values.map quote)

def json_optional (value : Option String) : String := value.elim "null" quote

def RepositoryMode.json_name : RepositoryMode → String
  | .Standard => "standard"
  | .AppendOnly => "append_only"

def SecretEnvironmentVariable.as_str : SecretEnvironmentVariable → String
  | .ResticPassword => "RESTIC_PASSWORD"
  | .AwsAccessKeyId => "AWS_ACCESS_KEY_ID"
  | .AwsSecretAccessKey => "AWS_SECRET_ACCESS_KEY"
  | .AwsSessionToken => "AWS_SESSION_TOKEN"
  | .AzureAccountKey => "AZURE_ACCOUNT_KEY"
  | .B2AccountKey => "B2_ACCOUNT_KEY"
  | .GoogleApplicationCredentials => "GOOGLE_APPLICATION_CREDENTIALS"
  | .RcloneConfigPassword => "RCLONE_CONFIG_PASS"

def RepositoryOperationKind.json_name : RepositoryOperationKind → String
  | .Validate => "validate"
  | .Initialize => "initialize"

def BackupRunFailureDetails.json (details : BackupRunFailureDetails) : String :=
  object [
    ("run_id", toString details.run_id.toNat),
    ("items", json_strings details.items),
    ("omitted", toString details.omitted.toNat)]

def BackupSourcesView.json (view : BackupSourcesView) : String :=
  object [
    ("paths", json_strings (view.paths.map PathBuf.text)),
    ("exclusions", json_strings view.exclusions),
    ("paths_locked", json_bool view.paths_locked),
    ("exclusions_locked", json_bool view.exclusions_locked)]

namespace MessageJson

variable (json : MessageJson)

def operation_status : RepositoryOperationStatus → String
  | .NotRun => object [("state", quote "not_run")]
  | .ValidationRequired => object [("state", quote "validation_required")]
  | .Running operation => object [("state", quote "running"), ("operation", quote operation.json_name)]
  | .Succeeded operation completed_at => object [("state", quote "succeeded"), ("operation", quote operation.json_name),
      ("completed_at", quote (json.format_time completed_at))]
  | .Failed operation completed_at code => object [("state", quote "failed"), ("operation", quote operation.json_name),
      ("completed_at", quote (json.format_time completed_at)), ("code", quote code)]

def repository (view : RepositoryView) : String :=
  object [
    ("display_name", json_optional view.display_name),
    ("url", json_optional view.url),
    ("mode", quote view.mode.json_name),
    ("options", object (view.options.entries.map (fun entry => (entry.1, quote entry.2)))),
    ("configured_secrets", json_strings (view.configured_secrets.map SecretEnvironmentVariable.as_str)),
    ("operation_status", json.operation_status view.operation_status),
    ("display_name_locked", json_bool view.display_name_locked),
    ("url_locked", json_bool view.url_locked),
    ("mode_locked", json_bool view.mode_locked),
    ("options_locked", json_bool view.options_locked),
    ("secrets_locked", json_bool view.secrets_locked)]

def payload : ResponsePayload → String
  | .RunFailureDetails details => object [("type", quote "run_failure_details"), ("details", details.json)]
  | .BackupSources configuration => object [("type", quote "backup_sources"), ("configuration", configuration.json)]
  | .Repository configuration => object [("type", quote "repository"), ("configuration", json.repository configuration)]
  | other => json.other other

def response (response : Response) : String :=
  object [
    ("protocol_version", toString response.protocol_version.toNat),
    ("request_id", toString response.request_id.toNat),
    ("payload", json.payload response.payload)]

/-- `serde_json` at `Response`. -/
def codec : Codec Response where
  to_vec response := some (Text.as_bytes (json.response response))
  from_slice := json.from_slice

/-! ## Sizes -/

/-- The digits of a request's number. -/
def id_size (request_id : UInt64) : Nat := (toString request_id.toNat).utf8ByteSize

theorem id_size_le (request_id : UInt64) : id_size request_id ≤ 20 :=
  JsonString.utf8ByteSize_toString (by decide) (Nat.lt_trans request_id.toNat_lt (by decide))

theorem utf8ByteSize_response (request_id : UInt64) (payload : ResponsePayload) :
    (json.response (.new request_id payload)).utf8ByteSize = (json.payload payload).utf8ByteSize + id_size request_id + 47 := by
  have hversion : String.utf8ByteSize (toString PROTOCOL_VERSION.toNat) = 1 := by decide
  have hname : (quote "protocol_version").utf8ByteSize = 18 := by decide
  have hid : (quote "request_id").utf8ByteSize = 12 := by decide
  have hpayload : (quote "payload").utf8ByteSize = 9 := by decide
  rw [response, JsonString.utf8ByteSize_object]
  simp only [Response.new, List.map_cons, List.map_nil, List.sum_cons, List.sum_nil, List.length_cons, List.length_nil,
    fieldSize, hversion, hname, hid, hpayload, id_size]
  omega

/-- A response fits a frame when it is short enough, and is refused otherwise. -/
theorem write_frame_iff (written : Bytes) (response : Response) :
    (write_frame json.codec written response).2 = .ok () ↔ (json.response response).utf8ByteSize ≤ MAX_FRAME_BYTES := by
  have hsize : (Text.as_bytes (json.response response)).length = (json.response response).utf8ByteSize :=
    Text.as_bytes_length _
  unfold write_frame codec
  dsimp only
  rw [hsize]
  by_cases h : (json.response response).utf8ByteSize > MAX_FRAME_BYTES
  · rw [if_pos h]
    exact ⟨fun herror => by simp at herror, fun hle => absurd hle (Nat.not_le.2 h)⟩
  · rw [if_neg h]
    exact ⟨fun _ => Nat.not_lt.1 h, fun _ => rfl⟩

end MessageJson

/-! ## Requests -/

/-- `serde_json`, for the requests of the pipe. -/
structure RequestJson where
  /-- The commands that are not written out below. -/
  other : RequestCommand → String

namespace RequestJson

variable (json : RequestJson)

def secret_update : RepositorySecretUpdate → String
  | .Set v value => object [("action", quote "set"), ("variable", quote v.as_str), ("value", quote value)]
  | .Remove v => object [("action", quote "remove"), ("variable", quote v.as_str)]

def command : RequestCommand → String
  | .UpdateBackupSources paths exclusions => object [
      ("type", quote "update_backup_sources"),
      ("paths", paths.elim "null" (fun paths => json_strings (paths.map PathBuf.text))),
      ("exclusions", exclusions.elim "null" json_strings)]
  | .UpdateRepository display_name url mode options secret_updates => object [
      ("type", quote "update_repository"),
      ("display_name", json_optional display_name),
      ("url", json_optional url),
      ("mode", json_optional (mode.map RepositoryMode.json_name)),
      ("options", options.elim "null" (fun options => object (options.entries.map (fun entry => (entry.1, quote entry.2))))),
      ("secret_updates", array (secret_updates.map secret_update))]
  | other => json.other other

def request (request_id : UInt64) (command : RequestCommand) : String :=
  object [
    ("protocol_version", toString PROTOCOL_VERSION.toNat),
    ("request_id", toString request_id.toNat),
    ("command", json.command command)]

end RequestJson

/-- The size of a list of strings. -/
theorem utf8ByteSize_json_strings (values : List String) :
    (json_strings values).utf8ByteSize =
      (values.map (fun value => value.utf8ByteSize + JsonString.escapeCosts value)).sum + 2 * values.length +
        (values.length - 1) + 2 := by
  have hquoted : (values.map quote).map String.utf8ByteSize =
      values.map (fun value => value.utf8ByteSize + JsonString.escapeCosts value + 2) := by
    rw [List.map_map]
    exact List.map_congr_left fun value _ => JsonString.utf8ByteSize_quote value
  have hsum : (values.map (fun value => value.utf8ByteSize + JsonString.escapeCosts value + 2)).sum =
      (values.map (fun value => value.utf8ByteSize + JsonString.escapeCosts value)).sum + 2 * values.length := by
    rw [List.sum_map_add, List.map_const', List.sum_replicate_nat, Nat.mul_comm]
  rw [json_strings, JsonString.utf8ByteSize_array, hquoted, hsum, List.length_map]

end ResticPal
