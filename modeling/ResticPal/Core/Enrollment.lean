import ResticPal.Core.Management
/-!
# Enrollment documents

`verify_and_decrypt_enrollment` of `resticpal-core/src/management.rs`: the answer
of a management server to a bootstrap request is opened, checked against the
request, and its secrets are decrypted. The ciphers and the JSON of these
documents belong to other crates and are fields of `EnrollmentExternal`.

`verify_and_decrypt_enrollment_ok` says what an accepted document settles about
the management settings it brings.
-/

open Lib

namespace ResticPal

open Text (Bytes)

def MAX_ENROLLMENT_BYTES : Nat := 1024 * 1024

/-- The parts of a `BootstrapDescriptor` that the answer is checked against. -/
structure BootstrapDescriptor where
  public_key : String
  key_id : String
  deriving DecidableEq

structure SignedEnrollmentEnvelope where
  schema_version : UInt32
  algorithm : String
  key_id : String
  payload : String
  signature : String
  deriving DecidableEq

structure SealedSecretBundle where
  algorithm : String
  ephemeral_public_key : String
  salt : String
  nonce : String
  ciphertext : String
  deriving DecidableEq

structure EnrollmentPayload where
  schema_version : UInt32
  device_id : String
  request_nonce : String
  issued_at : DateTime
  expires_at : DateTime
  manifest_url : String
  status_url : String
  refresh_interval_minutes : UInt32
  initial_manifest : SignedManifestEnvelope
  secrets : SealedSecretBundle
  deriving DecidableEq

structure EnrollmentSecretBundle where
  schema_version : UInt32
  status_token : String
  repository_secrets : BTreeMap SecretEnvironmentVariable String
  deriving DecidableEq

structure EnrollmentMaterial where
  device_id : String
  manifest_url : String
  status_url : String
  refresh_interval_minutes : UInt32
  initial_manifest_document : String
  initial_manifest : VerifiedManifest
  status_token : String
  repository_secrets : BTreeMap SecretEnvironmentVariable String
  deriving DecidableEq

inductive EnrollmentError where
  | InvalidDocumentSize
  | InvalidEnvelope
  | SignatureVerificationFailed
  | InvalidPayload
  | InvalidEncryption
  | DecryptionFailed
  | InvalidSecrets
  | InvalidJson (error : String)
  | Manifest (error : ManifestError)
  deriving DecidableEq

/-- Functions of the crates that only enrollment relies on. -/
structure EnrollmentExternal where
  /-- `serde_json::from_slice` at the three documents. -/
  parse_envelope : Bytes → Except String SignedEnrollmentEnvelope
  parse_payload : Bytes → Except String EnrollmentPayload
  parse_secrets : Bytes → Except String EnrollmentSecretBundle
  /-- `serde_json::to_string` of the initial manifest. -/
  manifest_to_string : SignedManifestEnvelope → Except String String
  /-- `URL_SAFE_NO_PAD.encode`. -/
  base64_encode : Bytes → String
  /-- The shared secret of a private and a public X25519 key, and whether both contributed to it. -/
  diffie_hellman : Bytes → Bytes → Bytes
  was_contributory : Bytes → Bool
  /-- The key that HKDF-SHA-256 expands from a salt and a secret for enrollment bundles. -/
  expand_key : Bytes → Bytes → Option Bytes
  /-- ChaCha20-Poly1305 with a key, a nonce, a message and its associated data. -/
  decrypt : Bytes → Bytes → Bytes → Bytes → Option Bytes

/-- The URL-safe alphabet without padding: three bytes are four characters, and a
shorter rest takes one character more than it has bytes. -/
structure Base64Law (decode : String → Option Bytes) : Prop where
  alphabet : ∀ {value decoded}, decode value = some decoded →
    ∀ c ∈ value.toList, (c.isAlphanum || c == '-' || c == '_') = true
  length : ∀ {value decoded}, decode value = some decoded → Text.len value = (4 * decoded.length + 2) / 3

/-! ## The verifier -/

/-- Identifiers are letters, digits, `-` and `_`. -/
def valid_id (value : String) : Bool :=
  !Text.is_empty value && Text.len value ≤ 256 && value.toList.all (fun c => c.isAlphanum || c == '-' || c == '_')

def signed_transport_allowed (url : Url) : Bool :=
  url.scheme == "https" || url.host_str.any
    (fun host => Text.eq_ignore_ascii_case host "localhost" || IpAddr.parses_as_loopback host)

section Verifier

variable (ext : External) (libs : EnrollmentExternal)

/-- `decode_raw_array::<N>`. -/
def decode_raw_array (n : Nat) (value : String) : Option Bytes :=
  (ext.base64_decode value).filter (·.length == n)

/-- The signed payload of a document, once its signature verifies under the descriptor's key. -/
def open_enrollment (document : Bytes) (descriptor : BootstrapDescriptor) :
    Except EnrollmentError EnrollmentPayload := do
  rejectIf (document.isEmpty || document.length > MAX_ENROLLMENT_BYTES) .InvalidDocumentSize
  let envelope ← (libs.parse_envelope document).mapError .InvalidJson
  rejectIf (envelope.schema_version != MANAGEMENT_SCHEMA_VERSION || envelope.algorithm != "ed25519" ||
    envelope.key_id != descriptor.key_id) .InvalidEnvelope
  let some payload_bytes := ext.base64_decode envelope.payload | .error .InvalidEnvelope
  let some public_key := decode_raw_array ext 32 descriptor.public_key | .error .InvalidEnvelope
  let some signature := decode_raw_array ext 64 envelope.signature | .error .InvalidEnvelope
  rejectIf (!ext.verifying_key public_key) .InvalidEnvelope
  rejectIf (!ext.verify_strict public_key payload_bytes signature) .SignatureVerificationFailed
  (libs.parse_payload payload_bytes).mapError .InvalidJson

/-- The payload is malformed, stale or not for this request. The clock is only
read once the first three checks pass, and reading it can panic. -/
def payload_is_unfit (payload : EnrollmentPayload) (descriptor : BootstrapDescriptor) (expected_nonce : Bytes)
    (now : DateTime) : Option Bool :=
  if payload.schema_version != MANAGEMENT_SCHEMA_VERSION ||
      payload.request_nonce != libs.base64_encode expected_nonce || !valid_id payload.device_id then some true
  else (now.checked_add_signed (Duration.minutes MAX_CLOCK_SKEW_MINUTES)).map (fun latest =>
    latest < payload.issued_at || payload.expires_at < now || payload.expires_at ≤ payload.issued_at ||
      payload.expires_at.signed_duration_since payload.issued_at > Duration.minutes 15 ||
      !(5 ≤ payload.refresh_interval_minutes && payload.refresh_interval_minutes ≤ 24 * 60) ||
      payload.initial_manifest.key_id != descriptor.key_id)

/-- The check on each of the payload's two URLs. -/
def check_payload_url (value : String) : Except EnrollmentError Unit := do
  let some url := ext.parse_url value | .error .InvalidPayload
  rejectIf (!(url.scheme == "http" || url.scheme == "https") || url.host_str.isNone ||
    !Text.is_empty url.username || url.password.isSome || url.fragment.isSome ||
    !signed_transport_allowed url) .InvalidPayload

/-- The payload's secrets, decrypted for this device and checked. -/
def open_secrets (payload : EnrollmentPayload) (private_key : Bytes) :
    Except EnrollmentError EnrollmentSecretBundle := do
  let sealed := payload.secrets
  rejectIf (sealed.algorithm != "x25519-hkdf-sha256-chacha20poly1305") .InvalidEncryption
  let some ephemeral := decode_raw_array ext 32 sealed.ephemeral_public_key | .error .InvalidEncryption
  let some salt := decode_raw_array ext 32 sealed.salt | .error .InvalidEncryption
  let some nonce := decode_raw_array ext 12 sealed.nonce | .error .InvalidEncryption
  let some ciphertext := ext.base64_decode sealed.ciphertext | .error .InvalidEncryption
  let shared_secret := libs.diffie_hellman private_key ephemeral
  rejectIf (!libs.was_contributory shared_secret) .InvalidEncryption
  let some encryption_key := libs.expand_key salt shared_secret | .error .InvalidEncryption
  let some plaintext := libs.decrypt encryption_key nonce ciphertext (Text.as_bytes payload.device_id)
    | .error .DecryptionFailed
  let secrets ← (libs.parse_secrets plaintext).mapError .InvalidJson
  rejectIf (secrets.schema_version != MANAGEMENT_SCHEMA_VERSION || Text.is_empty secrets.status_token ||
    Text.len secrets.status_token > 4096 || Text.hasBreak secrets.status_token ||
    secrets.repository_secrets.values.any (fun secret =>
      Text.is_empty secret || Text.len secret > 32 * 1024 || secret.toList.contains '\x00')) .InvalidSecrets
  return secrets

/-- The initial manifest's text, after the checks on the URLs. -/
def initial_document (payload : EnrollmentPayload) : Except EnrollmentError String := do
  forM [payload.manifest_url, payload.status_url] (check_payload_url ext)
  (libs.manifest_to_string payload.initial_manifest).mapError .InvalidJson

def EnrollmentPayload.material (payload : EnrollmentPayload) (initial_manifest_document : String)
    (initial_manifest : VerifiedManifest) (secrets : EnrollmentSecretBundle) : EnrollmentMaterial where
  device_id := payload.device_id
  manifest_url := payload.manifest_url
  status_url := payload.status_url
  refresh_interval_minutes := payload.refresh_interval_minutes
  initial_manifest_document
  initial_manifest
  status_token := secrets.status_token
  repository_secrets := secrets.repository_secrets

/-- `verify_and_decrypt_enrollment`; `none` is a panic. -/
def verify_and_decrypt_enrollment (document : Bytes) (descriptor : BootstrapDescriptor) (private_key : Bytes)
    (expected_nonce : Bytes) (now : DateTime) : Option (Except EnrollmentError EnrollmentMaterial) :=
  match open_enrollment ext libs document descriptor with
  | .error e => some (.error e)
  | .ok payload => (payload_is_unfit libs payload descriptor expected_nonce now).bind fun unfit =>
    if unfit then some (.error .InvalidPayload)
    else match initial_document ext libs payload with
      | .error e => some (.error e)
      | .ok text => (verify_signed_manifest ext (Text.as_bytes text) descriptor.public_key now none).map fun verified => do
        let initial_manifest ← verified.mapError .Manifest
        let secrets ← open_secrets ext libs payload private_key
        return payload.material text initial_manifest secrets

end Verifier

/-! ## What is accepted -/

section Accepted

variable {ext : External} {libs : EnrollmentExternal}

/-- HTTP with a host, and without credentials or a fragment. -/
structure Url.PlainHttp (url : Url) : Prop where
  scheme : url.scheme = "http" ∨ url.scheme = "https"
  host : url.host_str.isSome
  username : url.username = ""
  password : url.password = none
  fragment : url.fragment = none

theorem Url.plainHttp_iff (url : Url) :
    (!(url.scheme == "http" || url.scheme == "https") || url.host_str.isNone || !Text.is_empty url.username ||
      url.password.isSome || url.fragment.isSome) = false ↔ url.PlainHttp := by
  simp only [Bool.or_eq_false_iff, Bool.not_eq_false', Bool.or_eq_true, beq_iff_eq, Text.is_empty,
    Option.isSome_eq_false_iff, Option.isNone_eq_false_iff, Option.isNone_iff_eq_none]
  constructor
  · rintro ⟨⟨⟨⟨hscheme, hhost⟩, husername⟩, hpassword⟩, hfragment⟩
    exact ⟨hscheme, hhost, husername, hpassword, hfragment⟩
  · rintro ⟨hscheme, hhost, husername, hpassword, hfragment⟩
    exact ⟨⟨⟨⟨hscheme, hhost⟩, husername⟩, hpassword⟩, hfragment⟩

/-- The parsed URL is one the client may talk to, over TLS unless the host is this machine. -/
def UsableUrl (parse_url : String → Option Url) (value : String) : Prop :=
  ∃ url, parse_url value = some url ∧ url.PlainHttp ∧ signed_transport_allowed url = true

theorem check_payload_url_eq_ok {value : String} :
    check_payload_url ext value = .ok () ↔ UsableUrl ext.parse_url value := by
  unfold check_payload_url UsableUrl
  cases hp : ext.parse_url value with
  | none => simp
  | some url =>
    simp only [Option.some.injEq, exists_eq_left']
    rw [rejectIf_eq_ok, Bool.or_eq_false_iff, url.plainHttp_iff, Bool.not_eq_false']

/-- What the verifier has checked about the settings an enrollment brings. -/
structure SettingsChecked (ext : External) (descriptor : BootstrapDescriptor) (material : EnrollmentMaterial) :
    Prop where
  key : ∃ decoded, ext.base64_decode descriptor.public_key = some decoded ∧ decoded.length = 32
  device_id : valid_id material.device_id = true
  refresh : 5 ≤ material.refresh_interval_minutes ∧ material.refresh_interval_minutes ≤ 24 * 60
  manifest_url : UsableUrl ext.parse_url material.manifest_url
  status_url : UsableUrl ext.parse_url material.status_url

theorem open_enrollment_key {document : Bytes} {descriptor : BootstrapDescriptor} {payload : EnrollmentPayload}
    (h : open_enrollment ext libs document descriptor = .ok payload) :
    ∃ decoded, ext.base64_decode descriptor.public_key = some decoded ∧ decoded.length = 32 := by
  unfold open_enrollment at h
  obtain ⟨-, h⟩ := check_bind_eq_ok.1 h
  obtain ⟨envelope, -, h⟩ := bind_eq_ok.1 h
  obtain ⟨-, h⟩ := check_bind_eq_ok.1 h
  split at h
  · split at h
    · rename_i key hkey
      obtain ⟨hdecoded, hlength⟩ := Option.filter_eq_some_iff.1 hkey
      exact ⟨key, hdecoded, by simpa using hlength⟩
    · cases h
  · cases h

theorem payload_is_unfit_eq_false {payload : EnrollmentPayload} {descriptor : BootstrapDescriptor}
    {expected_nonce : Bytes} {now : DateTime}
    (h : payload_is_unfit libs payload descriptor expected_nonce now = some false) :
    valid_id payload.device_id = true ∧ 5 ≤ payload.refresh_interval_minutes ∧
      payload.refresh_interval_minutes ≤ 24 * 60 := by
  unfold payload_is_unfit at h
  split at h
  · cases h
  · rename_i hfirst
    obtain ⟨latest, -, hrest⟩ := Option.map_eq_some_iff.1 h
    simp only [Bool.or_eq_true, not_or, Bool.not_eq_true', Bool.not_eq_false] at hfirst
    simp only [Bool.or_eq_false_iff, Bool.not_eq_false', Bool.and_eq_true, decide_eq_true_eq] at hrest
    exact ⟨hfirst.2, hrest.1.2.1, hrest.1.2.2⟩

theorem initial_document_urls {payload : EnrollmentPayload} {text : String}
    (h : initial_document ext libs payload = .ok text) :
    UsableUrl ext.parse_url payload.manifest_url ∧ UsableUrl ext.parse_url payload.status_url := by
  obtain ⟨hurls, -⟩ := check_bind_eq_ok.1 h
  rw [forM_eq_ok] at hurls
  exact ⟨check_payload_url_eq_ok.1 (hurls _ (by simp)), check_payload_url_eq_ok.1 (hurls _ (by simp))⟩

/-- Every accepted document went through the checks on its settings. -/
theorem verify_and_decrypt_enrollment_ok {document : Bytes} {descriptor : BootstrapDescriptor} {private_key : Bytes}
    {expected_nonce : Bytes} {now : DateTime} {material : EnrollmentMaterial}
    (h : verify_and_decrypt_enrollment ext libs document descriptor private_key expected_nonce now =
      some (.ok material)) : SettingsChecked ext descriptor material := by
  unfold verify_and_decrypt_enrollment at h
  split at h
  · cases h
  · rename_i payload hopen
    obtain ⟨unfit, hunfit, h⟩ := Option.bind_eq_some_iff.1 h
    cases unfit with
    | true => cases h
    | false =>
      obtain ⟨hid, hmin, hmax⟩ := payload_is_unfit_eq_false hunfit
      simp only [Bool.false_eq_true, if_false] at h
      split at h
      · cases h
      · rename_i text htext
        obtain ⟨hmanifest, hstatus⟩ := initial_document_urls htext
        obtain ⟨verified, -, h⟩ := Option.map_eq_some_iff.1 h
        obtain ⟨initial_manifest, -, h⟩ := bind_eq_ok.1 h
        obtain ⟨secrets, -, h⟩ := bind_eq_ok.1 h
        obtain rfl := pure_eq_ok.1 h
        exact ⟨open_enrollment_key hopen, hid, ⟨hmin, hmax⟩, hmanifest, hstatus⟩

end Accepted

end ResticPal
