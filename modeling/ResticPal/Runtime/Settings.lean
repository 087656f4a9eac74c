import ResticPal.Core.Enrollment
import ResticPal.Runtime.Effects
/-!
# The settings of an enrollment

An enrollment that the verifier accepts is committed with settings that go
through `LocalManagementConfig::validate`, which checks the same URLs,
identifiers and intervals once more, on its own. The two agree but for the text
of the URLs: the verifier looks at a URL only after parsing it, while `validate`
also limits its characters.

- `enrolled_settings_valid_iff`: when the settings of an accepted enrollment pass.
- `commit_enrollment_url_texts`: nothing else is ever committed.
-/

open Lib

namespace ResticPal

open Text (Bytes)

/-- What `ManagementClient::enroll` hands on once the server's answer is accepted. -/
def EnrollmentMaterial.pending (material : EnrollmentMaterial) (descriptor : BootstrapDescriptor)
    (private_key : Bytes) : PendingEnrollment where
  device_id := material.device_id
  manifest_url := material.manifest_url
  status_url := material.status_url
  refresh_interval_minutes := material.refresh_interval_minutes
  initial_manifest_document := material.initial_manifest_document
  initial_manifest := material.initial_manifest
  status_token := material.status_token
  repository_secrets := material.repository_secrets
  private_key
  public_key := descriptor.public_key

/-- The limits `validate` sets to a URL before it parses it. -/
def UrlTextFits (value : String) : Prop :=
  value.length ≤ MAX_MANAGEMENT_URL_CHARACTERS ∧ Text.hasBreak value = false

section Settings

variable {parse_url : String → Option Url}

theorem validate_signed_transport_eq_ok {url : Url} :
    validate_signed_transport url = .ok () ↔ signed_transport_allowed url = true := by
  rw [validate_signed_transport, rejectIf_eq_ok, Bool.not_eq_false', signed_transport_allowed]

theorem validate_management_url_eq_ok {value : String} {url : Url} :
    validate_management_url parse_url (some value) = .ok url ↔
      UrlTextFits value ∧ parse_url value = some url ∧ url.PlainHttp := by
  have htext : (decide (value.length > MAX_MANAGEMENT_URL_CHARACTERS) || Text.hasBreak value) = false ↔
      UrlTextFits value := by
    simp [UrlTextFits]
  unfold validate_management_url
  rw [check_bind_eq_ok, rejectIf_eq_ok, htext]
  cases parse_url value with
  | none => simp
  | some parsed =>
    rw [check_bind_eq_ok, rejectIf_eq_ok, parsed.plainHttp_iff, pure_eq_ok, Option.some.injEq]
    constructor
    · rintro ⟨hfits, hplain, rfl⟩
      exact ⟨hfits, rfl, hplain⟩
    · rintro ⟨hfits, rfl, hplain⟩
      exact ⟨hfits, hplain, rfl⟩

/-- Both checks `validate` makes on a URL, before the rest. -/
theorem management_url_bind_eq_ok {value : String} {rest : Unit → Except ManagementConfigError Unit} :
    (validate_management_url parse_url (some value) >>= fun url => validate_signed_transport url >>= rest) = .ok () ↔
      (UrlTextFits value ∧ UsableUrl parse_url value) ∧ rest () = .ok () := by
  rw [bind_eq_ok]
  simp only [check_bind_eq_ok, validate_management_url_eq_ok, validate_signed_transport_eq_ok, UsableUrl]
  constructor
  · rintro ⟨url, ⟨hfits, hparse, hplain⟩, hsecure, hrest⟩
    exact ⟨⟨hfits, url, hparse, hplain, hsecure⟩, hrest⟩
  · rintro ⟨⟨hfits, url, hparse, hplain, hsecure⟩, hrest⟩
    exact ⟨url, ⟨hfits, hparse, hplain⟩, hsecure, hrest⟩

/-- The settings of a device that reports: every field of a signed source is there. -/
def reportingSettings (manifest_url key : String) (refresh : UInt32) (status_url device_id status_ref key_ref : String) :
    LocalManagementConfig where
  mode := .SignedManifest
  manifest_url := some manifest_url
  signing_public_key := some key
  refresh_interval_minutes := some refresh
  status_url := some status_url
  device_id := some device_id
  status_token_ref := some status_ref
  enrollment_key_ref := some key_ref

theorem reportingSettings_eq_ok {manifest_url key status_url device_id status_ref key_ref : String} {refresh : UInt32} :
    (reportingSettings manifest_url key refresh status_url device_id status_ref key_ref).validate parse_url = .ok () ↔
      (5 ≤ refresh ∧ refresh ≤ 24 * 60) ∧ (UrlTextFits manifest_url ∧ UsableUrl parse_url manifest_url) ∧
        (key ≠ "" ∧ Text.len key ≤ 256 ∧ Text.hasBreak key = false) ∧
        (UrlTextFits status_url ∧ UsableUrl parse_url status_url) ∧ valid_id device_id = true ∧
        is_valid_secret_reference status_ref = true ∧ is_valid_secret_reference key_ref = true := by
  have hrefresh : (!(decide (MIN_MANAGEMENT_REFRESH_MINUTES ≤ refresh) &&
      decide (refresh ≤ MAX_MANAGEMENT_REFRESH_MINUTES))) = false ↔ 5 ≤ refresh ∧ refresh ≤ 24 * 60 := by
    rw [Bool.not_eq_false', Bool.and_eq_true, decide_eq_true_iff, decide_eq_true_iff]
    rfl
  unfold reportingSettings LocalManagementConfig.validate
  dsimp only
  rw [check_bind_eq_ok, management_url_bind_eq_ok, check_bind_eq_ok, check_bind_eq_ok, management_url_bind_eq_ok,
    check_bind_eq_ok, check_bind_eq_ok, Option.getD_some, rejectIf_eq_ok, hrefresh]
  simp [valid_id, MAX_MANAGEMENT_ID_CHARACTERS, Text.is_empty, and_assoc]

/-! ## Accepted enrollments -/

variable {ext : External} {libs : EnrollmentExternal} {document : Bytes} {descriptor : BootstrapDescriptor}
  {private_key expected_nonce : Bytes} {now : DateTime} {material : EnrollmentMaterial}

/-- A key that decodes is short and has no break in it. -/
theorem Base64Law.key_text {decode : String → Option Bytes} (law : Base64Law decode) {key : String} {decoded : Bytes}
    (h : decode key = some decoded) (hlength : decoded.length = 32) :
    key ≠ "" ∧ Text.len key ≤ 256 ∧ Text.hasBreak key = false := by
  have hlen : Text.len key = 43 := by rw [law.length h, hlength]
  refine ⟨?_, by omega, ?_⟩
  · rintro rfl
    cases hlen
  · rw [Text.hasBreak, List.any_eq_false]
    intro c hc hbreak
    have halphabet := law.alphabet h c hc
    simp only [Bool.or_eq_true, beq_iff_eq] at hbreak
    obtain (rfl | rfl) | rfl := hbreak
    all_goals exact absurd halphabet (by decide)

/-- The configuration that `commit_enrollment` builds, once its secrets are stored. -/
theorem enrolled_management {io : Nat → PutNewIo} {store : CredentialStore} (loc : LocalConfig)
    {pending : PendingEnrollment} (hstored : (CredentialStore.put_all io 0 store pending.secrets).2.2 = true) :
    ∃ status_ref key_ref, is_valid_secret_reference status_ref = true ∧ is_valid_secret_reference key_ref = true ∧
      (enrolled_config loc pending (CredentialStore.put_all io 0 store pending.secrets).2.1).management =
        reportingSettings pending.manifest_url pending.public_key pending.refresh_interval_minutes pending.status_url
          pending.device_id status_ref key_ref := by
  have hlength := CredentialStore.put_all_length hstored
  have hvalid := (CredentialStore.put_all_spec io 0 store pending.secrets).valid
  generalize (CredentialStore.put_all io 0 store pending.secrets).2.1 = references at hlength hvalid ⊢
  match references with
  | [] | [_] => simp [PendingEnrollment.secrets] at hlength
  | status_ref :: key_ref :: rest => exact ⟨status_ref, key_ref, hvalid _ (by simp), hvalid _ (by simp), rfl⟩

/-- The settings of an accepted enrollment are valid exactly when the texts of
its two URLs fit. -/
theorem enrolled_settings_valid_iff (law : Base64Law ext.base64_decode)
    (haccepted : verify_and_decrypt_enrollment ext libs document descriptor private_key expected_nonce now =
      some (.ok material)) (loc : LocalConfig) (store : CredentialStore) (io : Nat → PutNewIo)
    (hstored : (CredentialStore.put_all io 0 store (material.pending descriptor private_key).secrets).2.2 = true) :
    (enrolled_config loc (material.pending descriptor private_key)
        (CredentialStore.put_all io 0 store (material.pending descriptor private_key).secrets).2.1).management.validate
          ext.parse_url = .ok () ↔
      UrlTextFits material.manifest_url ∧ UrlTextFits material.status_url := by
  obtain ⟨⟨decoded, hdecoded, hlength⟩, hid, hrefresh, hmanifest, hstatus⟩ := verify_and_decrypt_enrollment_ok haccepted
  obtain ⟨status_ref, key_ref, hstatus_ref, hkey_ref, hconfig⟩ := enrolled_management loc hstored
  have hkey := law.key_text hdecoded hlength
  rw [hconfig, reportingSettings_eq_ok]
  constructor
  · rintro ⟨-, ⟨hmanifest_fits, -⟩, -, ⟨hstatus_fits, -⟩, -⟩
    exact ⟨hmanifest_fits, hstatus_fits⟩
  · rintro ⟨hmanifest_fits, hstatus_fits⟩
    exact ⟨hrefresh, ⟨hmanifest_fits, hmanifest⟩, hkey, ⟨hstatus_fits, hstatus⟩, hid, hstatus_ref, hkey_ref⟩

/-- Whatever is committed has URLs whose texts fit: any other accepted enrollment is lost. -/
theorem commit_enrollment_url_texts {runtime : ServiceRuntime} {pending : PendingEnrollment} {io : RequestIo}
    (h : (commit_enrollment parse_url runtime pending io).2 = true) :
    UrlTextFits pending.manifest_url ∧ UrlTextFits pending.status_url := by
  have hcommit := @commit_enrollment_commit runtime io parse_url pending
  generalize commit_enrollment parse_url runtime pending io = after at hcommit h
  cases hcommit with
  | abandoned => cases h
  | @committed candidate resolved references credential_store policy_cache enrolls stored check =>
    have hvalid := (check_enrollment_eq_some check).1
    match references, stored with
    | status_ref :: key_ref :: rest, _ =>
      subst enrolls
      obtain ⟨-, ⟨hmanifest, -⟩, -, ⟨hstatus, -⟩, -⟩ := reportingSettings_eq_ok.1 hvalid
      exact ⟨hmanifest, hstatus⟩

end Settings

namespace BrokenUrl

/-- `n` characters that stand for zero bits. -/
def zeros (n : Nat) : String := String.ofList (List.replicate n 'A')

/-- Base64 of texts of zeros. -/
def decode_zeros (value : String) : Option Bytes :=
  if value.toList.all (· == 'A') && Text.len value % 4 != 1 then some (List.replicate (3 * Text.len value / 4) 0) else none

theorem decode_zeros_law : Base64Law decode_zeros where
  alphabet := by
    intro value decoded h c hc
    unfold decode_zeros at h
    split at h
    · rename_i hzeros
      simp only [Bool.and_eq_true, List.all_eq_true, beq_iff_eq] at hzeros
      rw [hzeros.1 c hc]
      decide
    · cases h
  length := by
    intro value decoded h
    unfold decode_zeros at h
    split at h
    · rename_i hzeros
      simp only [Bool.and_eq_true, bne_iff_ne] at hzeros
      cases h
      rw [List.length_replicate]
      rcases (by omega : Text.len value = 4 * (Text.len value / 4) ∨ Text.len value = 4 * (Text.len value / 4) + 2 ∨
        Text.len value = 4 * (Text.len value / 4) + 3) with h | h | h
      all_goals omega
    · cases h

/-- A parser that ignores tabs and line breaks, and knows two addresses. -/
def parse_url (value : String) : Option Url :=
  if (value.toList.filter (fun c => c != '\t' && c != '\n' && c != '\r')) ∈
      ["https://manage.example.test/manifest".toList, "https://manage.example.test/status".toList] then
    some ⟨"https", some "manage.example.test", "", none, none⟩
  else none

def manifest : ManifestPayload where
  schema_version := MANAGEMENT_SCHEMA_VERSION
  sequence := 1
  issued_at := .UNIX_EPOCH
  expires_at := some ⟨86400 * 1000000000, by decide, by decide⟩
  policy := {}

def initial_manifest : SignedManifestEnvelope := ⟨1, "ed25519", "key", zeros 4, zeros 86⟩

def ext : External := { External.inert with
  parse_url
  parse_payload := fun _ => .ok manifest
  parse_envelope := fun _ => .ok initial_manifest
  base64_decode := decode_zeros
  verifying_key := fun _ => true
  verify_strict := fun _ _ _ => true }

def payload (manifest_url : String) : EnrollmentPayload where
  schema_version := MANAGEMENT_SCHEMA_VERSION
  device_id := "device-1"
  request_nonce := "nonce"
  issued_at := .UNIX_EPOCH
  expires_at := ⟨600 * 1000000000, by decide, by decide⟩
  manifest_url
  status_url := "https://manage.example.test/status"
  refresh_interval_minutes := 15
  initial_manifest
  secrets := ⟨"x25519-hkdf-sha256-chacha20poly1305", zeros 43, zeros 43, zeros 16, zeros 4⟩

def secrets : EnrollmentSecretBundle := ⟨MANAGEMENT_SCHEMA_VERSION, "token", ∅⟩

/-- A server that enrolls the device with this manifest URL. -/
def libs (manifest_url : String) : EnrollmentExternal where
  parse_envelope _ := .ok ⟨1, "ed25519", "key", zeros 4, zeros 86⟩
  parse_payload _ := .ok (payload manifest_url)
  parse_secrets _ := .ok secrets
  manifest_to_string _ := .ok "manifest"
  base64_encode _ := "nonce"
  diffie_hellman _ _ := [1]
  was_contributory _ := true
  expand_key _ _ := some [1]
  decrypt _ _ _ _ := some [1]

def descriptor : BootstrapDescriptor := ⟨zeros 43, "key"⟩

def material (manifest_url : String) : EnrollmentMaterial :=
  (payload manifest_url).material "manifest" ⟨manifest, true⟩ secrets

def io (_ : Nat) : PutNewIo := ⟨[.ok "00112233445566778899aabbccddeeff"], .stored⟩

/-- The server's answer is accepted with every manifest URL that parses well. -/
theorem accepted {manifest_url : String} (h : UsableUrl ext.parse_url manifest_url) :
    verify_and_decrypt_enrollment ext (libs manifest_url) [1] descriptor [1] [] .UNIX_EPOCH =
      some (.ok (material manifest_url)) := by
  have hfit : payload_is_unfit (libs "") (payload "") descriptor [] .UNIX_EPOCH = some false := by decide
  have hfit : payload_is_unfit (libs manifest_url) (payload manifest_url) descriptor [] .UNIX_EPOCH = some false := hfit
  have hstatus : check_payload_url ext "https://manage.example.test/status" = .ok () := by decide
  have htext : initial_document ext (libs manifest_url) (payload manifest_url) = .ok "manifest" := by
    refine check_bind_eq_ok.2 ⟨forM_eq_ok.2 ?_, rfl⟩
    simp only [List.mem_cons, List.not_mem_nil, or_false, forall_eq_or_imp, forall_eq]
    exact ⟨check_payload_url_eq_ok.2 h, hstatus⟩
  have hmanifest : verify_signed_manifest ext (Text.as_bytes "manifest") descriptor.public_key .UNIX_EPOCH none =
      some (.ok ⟨manifest, true⟩) := rfl
  have hopened : open_secrets ext (libs "") (payload "") [1] = .ok secrets := by decide
  have hsecrets : open_secrets ext (libs manifest_url) (payload manifest_url) [1] = .ok secrets := by
    simp only [open_secrets, libs, payload] at hopened ⊢
    exact hopened
  have hopen : open_enrollment ext (libs manifest_url) [1] descriptor = .ok (payload manifest_url) := rfl
  simp only [verify_and_decrypt_enrollment, hopen, hfit, Option.bind_some, Bool.false_eq_true, if_false, htext,
    hmanifest, Option.map_some]
  rw [hsecrets]
  rfl

/-- The manifest URL with a line break in it, which a URL parser ignores. -/
def broken : String := "https://manage.example.test/mani\nfest"

/-- An enrollment can be accepted and then refused for the text of its URL, whatever
the device it is committed on. -/
theorem accepted_enrollment_is_refused :
    verify_and_decrypt_enrollment ext (libs broken) [1] descriptor [1] [] .UNIX_EPOCH = some (.ok (material broken)) ∧
      (CredentialStore.put_all io 0 ∅ ((material broken).pending descriptor [1]).secrets).2.2 = true ∧
      (enrolled_config {} ((material broken).pending descriptor [1])
        (CredentialStore.put_all io 0 ∅ ((material broken).pending descriptor [1]).secrets).2.1).management.validate
          ext.parse_url = .error .InvalidUrl ∧
      ∀ runtime io, (commit_enrollment ext.parse_url runtime ((material broken).pending descriptor [1]) io).2 = false := by
  refine ⟨accepted (check_payload_url_eq_ok.1 (by decide)), by decide, by decide, ?_⟩
  intro runtime io
  by_contra h
  have hfits := (commit_enrollment_url_texts (Bool.eq_true_of_not_eq_false h)).1
  exact absurd hfits.2 (by decide)

def whole : String := "https://manage.example.test/manifest"

/-- Without the line break the settings are valid. -/
theorem whole_url_is_valid :
    (enrolled_config {} ((material whole).pending descriptor [1])
      (CredentialStore.put_all io 0 ∅ ((material whole).pending descriptor [1]).secrets).2.1).management.validate
        ext.parse_url = .ok () := by
  have haccepted := accepted (check_payload_url_eq_ok.1 (show check_payload_url ext whole = .ok () by decide))
  refine (enrolled_settings_valid_iff decode_zeros_law haccepted {} ∅ io (by decide)).2 ⟨?_, ?_⟩
  · exact ⟨by decide, by decide⟩
  · exact ⟨by decide, by decide⟩

end BrokenUrl

end ResticPal
