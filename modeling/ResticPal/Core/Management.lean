import ResticPal.Core.Policy
import ResticPal.Rust.Time
/-!
# Manifests

`resticpal-core/src/management.rs`: what a management server publishes, and
when a document is accepted. JSON, base64 and Ed25519 belong to other crates
and are fields of `External`.

The source adds five minutes to the clock reading with `+`, which panics at the
end of representable time; an `Option` result is `none` there.
-/

open Lib

namespace ResticPal

open Text (Bytes)

def MANAGEMENT_SCHEMA_VERSION : UInt32 := 1
def MAX_MANIFEST_BYTES : Nat := 1024 * 1024
def MAX_SIGNED_MANIFEST_LIFETIME_DAYS : UInt32 := 30
def MAX_CLOCK_SKEW_MINUTES : UInt32 := 5

structure ManifestPayload where
  schema_version : UInt32
  sequence : UInt64
  issued_at : DateTime
  expires_at : Option DateTime
  policy : ManagedPolicy
  deriving DecidableEq

structure SignedManifestEnvelope where
  schema_version : UInt32
  algorithm : String
  key_id : String
  payload : String
  signature : String
  deriving DecidableEq

structure VerifiedManifest where
  payload : ManifestPayload
  signed : Bool
  deriving DecidableEq

inductive ManifestError where
  | InvalidDocumentSize
  | InvalidJson (error : String)
  | UnsupportedEnvelopeSchema (version : UInt32)
  | UnsupportedPayloadSchema (version : UInt32)
  | UnsupportedAlgorithm
  | InvalidKeyId
  | InvalidPayloadEncoding
  | InvalidPublicKey
  | InvalidSignature
  | SignatureVerificationFailed
  | RollbackAttempt
  | InvalidSequence
  | IssuedInFuture
  | MissingExpiry
  | InvalidLifetime
  | Expired
  deriving DecidableEq

/-- Functions of the crates and tables the source relies on. -/
structure External where
  /-- `url::Url::parse`. -/
  parse_url : String → Option Url
  /-- `str::to_lowercase`, by the Unicode tables. -/
  to_lowercase : String → String
  /-- `serde_json::from_slice` at `ManifestPayload`; an error carries its text. -/
  parse_payload : Bytes → Except String ManifestPayload
  /-- `serde_json::from_slice` at `SignedManifestEnvelope`. -/
  parse_envelope : Bytes → Except String SignedManifestEnvelope
  /-- `URL_SAFE_NO_PAD.decode`. -/
  base64_decode : String → Option Bytes
  /-- `STANDARD.decode`. -/
  base64_standard_decode : String → Option Bytes
  /-- `VerifyingKey::from_bytes` accepts the key. -/
  verifying_key : Bytes → Bool
  /-- `verify_strict` of a key, a message and a signature. -/
  verify_strict : Bytes → Bytes → Bytes → Bool

/-- Libraries that accept nothing, and the lower case of ASCII names. -/
def External.inert : External where
  parse_url _ := none
  to_lowercase := Text.to_ascii_lowercase
  parse_payload _ := .error "expected value"
  parse_envelope _ := .error "expected value"
  base64_decode _ := none
  base64_standard_decode _ := none
  verifying_key _ := false
  verify_strict _ _ _ := false

/-- The value of a character of the standard base64 alphabet. -/
def base64Value (c : Char) : Option Nat :=
  if c.isUpper then some (c.toNat - 65)
  else if c.isLower then some (c.toNat - 71)
  else if c.isDigit then some (c.toNat + 4)
  else if c = '+' then some 62
  else if c = '/' then some 63
  else none

/-- `STANDARD.decode` on concrete texts: padding is required, and the bits that it leaves over are zero. -/
def base64Decode : List Char → Option Bytes
  | [] => some []
  | [a, b, '=', '='] => do
    let a ← base64Value a
    let b ← base64Value b
    if b % 16 = 0 then some [.ofNat (a * 4 + b / 16)] else none
  | [a, b, c, '='] => do
    let a ← base64Value a
    let b ← base64Value b
    let c ← base64Value c
    if c % 4 = 0 then some [.ofNat (a * 4 + b / 16), .ofNat (b % 16 * 16 + c / 4)] else none
  | a :: b :: c :: d :: rest => do
    let a ← base64Value a
    let b ← base64Value b
    let c ← base64Value c
    let d ← base64Value d
    let decoded ← base64Decode rest
    return .ofNat (a * 4 + b / 16) :: .ofNat (b % 16 * 16 + c / 4) :: .ofNat (c % 4 * 64 + d) :: decoded
  | _ => none

/-! ## Reading a document -/

def validate_document_size (document : Bytes) : Except ManifestError Unit :=
  rejectIf (document.isEmpty || document.length > MAX_MANIFEST_BYTES) .InvalidDocumentSize

section Documents

variable (ext : External)

/-- `decode_array::<N>`. -/
def decode_array (n : Nat) (value : String) (error : ManifestError) : Except ManifestError Bytes :=
  match ext.base64_decode value with
  | some decoded => if decoded.length = n then .ok decoded else .error error
  | none => .error error

/-- `serde_json` errors become `InvalidJson`. -/
def parse_json {α : Type} (parsed : Except String α) : Except ManifestError α := parsed.mapError .InvalidJson

/-- The payload of an unsigned document. -/
def open_plain (document : Bytes) : Except ManifestError ManifestPayload := do
  validate_document_size document
  parse_json (ext.parse_payload document)

/-- The payload of a signed document, once its signature verifies under the pinned key. -/
def open_signed (document : Bytes) (public_key : String) : Except ManifestError ManifestPayload := do
  validate_document_size document
  let envelope ← parse_json (ext.parse_envelope document)
  rejectIf (envelope.schema_version != MANAGEMENT_SCHEMA_VERSION)
    (.UnsupportedEnvelopeSchema envelope.schema_version)
  rejectIf (envelope.algorithm != "ed25519") .UnsupportedAlgorithm
  rejectIf (Text.is_empty envelope.key_id || Text.len envelope.key_id > 256 || Text.hasBreak envelope.key_id)
    .InvalidKeyId
  let some payload_bytes := ext.base64_decode envelope.payload | .error .InvalidPayloadEncoding
  validate_document_size payload_bytes
  let public_key ← decode_array ext 32 public_key .InvalidPublicKey
  let signature ← decode_array ext 64 envelope.signature .InvalidSignature
  rejectIf (!ext.verifying_key public_key) .InvalidPublicKey
  rejectIf (!ext.verify_strict public_key payload_bytes signature) .SignatureVerificationFailed
  parse_json (ext.parse_payload payload_bytes)

/-! ## Accepting a payload -/

/-- The times a payload is valid at. -/
def validate_lifetime (payload : ManifestPayload) (now latest : DateTime) (require_expiry : Bool) :
    Except ManifestError Unit := do
  rejectIf (latest < payload.issued_at) .IssuedInFuture
  match payload.expires_at with
  | none => rejectIf require_expiry .MissingExpiry
  | some expires_at =>
    rejectIf (expires_at ≤ payload.issued_at ||
      expires_at.signed_duration_since payload.issued_at > Duration.days MAX_SIGNED_MANIFEST_LIFETIME_DAYS)
      .InvalidLifetime
    rejectIf (expires_at < now) .Expired

def validate_payload (payload : ManifestPayload) (now : DateTime) (minimum_sequence : Option UInt64)
    (require_expiry : Bool) : Option (Except ManifestError Unit) :=
  if payload.schema_version != MANAGEMENT_SCHEMA_VERSION then
    some (.error (.UnsupportedPayloadSchema payload.schema_version))
  else if payload.sequence == 0 then some (.error .InvalidSequence)
  else if minimum_sequence.any (fun minimum => payload.sequence < minimum) then some (.error .RollbackAttempt)
  else (now.checked_add_signed (Duration.minutes MAX_CLOCK_SKEW_MINUTES)).map
    (fun latest => validate_lifetime payload now latest require_expiry)

/-- Open a document, then accept its payload. -/
def verify_payload (opened : Except ManifestError ManifestPayload) (now : DateTime)
    (minimum_sequence : Option UInt64) (signed : Bool) : Option (Except ManifestError VerifiedManifest) :=
  match opened with
  | .error e => some (.error e)
  | .ok payload => (validate_payload payload now minimum_sequence signed).map (·.map (fun _ => ⟨payload, signed⟩))

def parse_plain_manifest (document : Bytes) (now : DateTime) (minimum_sequence : Option UInt64) :
    Option (Except ManifestError VerifiedManifest) :=
  verify_payload (open_plain ext document) now minimum_sequence false

def verify_signed_manifest (document : Bytes) (public_key : String) (validation_time : DateTime)
    (minimum_sequence : Option UInt64) : Option (Except ManifestError VerifiedManifest) :=
  verify_payload (open_signed ext document public_key) validation_time minimum_sequence true

end Documents

/-- `now` lies in the payload's window: not issued later than the allowed skew,
a lifetime of at most thirty days where there is one, and not expired. -/
def InWindow (payload : ManifestPayload) (now : DateTime) (require_expiry : Bool) : Prop :=
  ∃ latest, now.checked_add_signed (Duration.minutes MAX_CLOCK_SKEW_MINUTES) = some latest ∧
    validate_lifetime payload now latest require_expiry = .ok ()

theorem validate_payload_eq_ok {payload : ManifestPayload} {now : DateTime} {minimum_sequence : Option UInt64}
    {require_expiry : Bool} : validate_payload payload now minimum_sequence require_expiry = some (.ok ()) ↔
      payload.schema_version = MANAGEMENT_SCHEMA_VERSION ∧ payload.sequence ≠ 0 ∧
        (∀ minimum ∈ minimum_sequence, minimum ≤ payload.sequence) ∧ InWindow payload now require_expiry := by
  have hmin : minimum_sequence.any (fun minimum => payload.sequence < minimum) = false ↔
      ∀ minimum ∈ minimum_sequence, minimum ≤ payload.sequence := by
    cases minimum_sequence <;> simp
  unfold validate_payload
  split
  · rename_i hs
    simp_all
  · rename_i hs
    split
    · rename_i h0
      simp_all
    · rename_i h0
      split
      · rename_i hm
        rw [← hmin, hm]
        simp
      · rename_i hm
        rw [← hmin]
        simp_all [InWindow]

theorem verify_payload_eq_ok {opened : Except ManifestError ManifestPayload} {now : DateTime}
    {minimum_sequence : Option UInt64} {signed : Bool} {v : VerifiedManifest} :
    verify_payload opened now minimum_sequence signed = some (.ok v) ↔
      opened = .ok v.payload ∧ v.signed = signed ∧
        validate_payload v.payload now minimum_sequence signed = some (.ok ()) := by
  obtain ⟨payload, signed'⟩ := v
  cases opened with
  | error e => simp [verify_payload]
  | ok p =>
    simp only [verify_payload, Option.map_eq_some_iff, Except.ok.injEq]
    constructor
    · rintro ⟨r, hr, hv⟩
      cases r with
      | error e => cases hv
      | ok u =>
        obtain ⟨rfl, rfl⟩ : p = payload ∧ signed = signed' := by simpa [Except.map] using hv
        exact ⟨rfl, rfl, hr⟩
    · rintro ⟨rfl, rfl, hr⟩
      exact ⟨_, hr, rfl⟩

end ResticPal
