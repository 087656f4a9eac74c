import ResticPal.Core.Management
import ResticPal.Service.Store
/-!
# Fetching and caching policy

`resticpal-service/src/management.rs`: the client that fetches a manifest, the
cache of the last one accepted, and the two ways the service gets a policy from
them: `load_best_policy` at startup and `refresh_policy` while it runs.

- `load_best_policy_usable_iff`: what a startup with a usable cached policy needs
  in order to use a policy at all.
-/

open Lib

namespace ResticPal

open Text (Bytes)

def CACHE_SCHEMA_VERSION : UInt32 := 1

structure LoadedPolicy where
  policy : ManagedPolicy
  sequence : UInt64
  deriving DecidableEq

structure CachedManifest where
  schema_version : UInt32
  mode : ManagementMode
  source_url : String
  verified_at : DateTime
  document : String
  deriving DecidableEq

inductive ManagementError where
  | ManagementDisabled
  | MissingManifestUrl
  | MissingSigningKey
  | ManifestTooLarge
  | InvalidUtf8
  | CredentialStoreUnavailable
  | InvalidStatusToken
  | EnrolledPolicyContainsSecretReferences
  | CacheTooLarge
  | CacheDoesNotMatchSource
  /-- The source keeps the two errors' texts. -/
  | FetchAndCacheUnavailable (fetch cache : ManagementError)
  | Config (error : ManagementConfigError)
  | Manifest (error : ManifestError)
  | Policy (error : PolicyError)
  | Http (error : String)
  | Io
  | Json
  | Atomic
  | Credential (error : CredentialStoreError)
  deriving DecidableEq

/-- What happens outside the process during one fetch: the server's response,
the two clock readings and the outcome of writing the cache. -/
structure FetchIo where
  response : Except String Bytes
  fetched_at : DateTime
  saved_at : DateTime
  write : Except ManagementError Unit

section Client

variable (ext : External)

/-! ## The client -/

def bearer_token (credentials : Option CredentialStore) (reference : String) : Except ManagementError String := do
  let some credentials := credentials | .error .CredentialStoreUnavailable
  let token ← (credentials.get reference).mapError .Credential
  let some token := Text.from_utf8 token | .error .InvalidStatusToken
  rejectIf (Text.hasBreak token) .InvalidStatusToken
  return "Bearer " ++ token

/-- The document the server returns, before it is verified. -/
def request_document (config : LocalManagementConfig) (credentials : Option CredentialStore) (io : FetchIo) :
    Except ManagementError Bytes := do
  let some _ := config.manifest_url | .error .MissingManifestUrl
  if config.mode = .SignedManifest then
    forM config.status_token_ref.toList (fun reference => (bearer_token credentials reference).map (fun _ => ()))
  let document ← io.response.mapError .Http
  rejectIf (document.length > MAX_MANIFEST_BYTES) .ManifestTooLarge
  return document

/-- Verify a document the way the source's mode asks for. -/
def verify_document (config : LocalManagementConfig) (document : Bytes) (now : DateTime)
    (minimum_sequence : Option UInt64) : Option (Except ManagementError VerifiedManifest) :=
  match config.mode with
  | .PlainManifest => (parse_plain_manifest ext document now minimum_sequence).map (·.mapError .Manifest)
  | .SignedManifest =>
    match config.signing_public_key with
    | none => some (.error .MissingSigningKey)
    | some key => (verify_signed_manifest ext document key now minimum_sequence).map (·.mapError .Manifest)
  | .Disabled => some (.error .ManagementDisabled)

def VerifiedManifest.loaded (verified : VerifiedManifest) : LoadedPolicy :=
  { policy := verified.payload.policy, sequence := verified.payload.sequence }

/-- `ManagementClient::fetch_policy`. -/
def fetch_policy (config : LocalManagementConfig) (minimum_sequence : Option UInt64)
    (credentials : Option CredentialStore) (io : FetchIo) : Option (Except ManagementError (LoadedPolicy × String)) :=
  match request_document config credentials io with
  | .error e => some (.error e)
  | .ok document => (verify_document ext config document io.fetched_at minimum_sequence).map fun verified => do
    let verified ← verified
    let some document := Text.from_utf8 document | .error .InvalidUtf8
    return (verified.loaded, document)

/-! ## The cache -/

abbrev ManagedPolicyCache := StoredFile CachedManifest

def ManagedPolicyCache.save (cache : ManagedPolicyCache) (config : LocalManagementConfig) (document : String)
    (verified_at : DateTime) (write : Except ManagementError Unit) :
    ManagedPolicyCache × Except ManagementError Unit :=
  let contents : CachedManifest := {
    schema_version := CACHE_SCHEMA_VERSION
    mode := config.mode
    source_url := config.manifest_url.getD ""
    verified_at
    document }
  (cache.replace contents write.isOk, write)

def ManagedPolicyCache.load (cache : ManagedPolicyCache) (config : LocalManagementConfig) :
    Option (Except ManagementError LoadedPolicy) :=
  match cache with
  | .missing | .unreadable => some (.error .Io)
  | .oversized => some (.error .CacheTooLarge)
  | .malformed => some (.error .Json)
  | .contents cache =>
    if cache.schema_version != CACHE_SCHEMA_VERSION || cache.mode != config.mode ||
        some cache.source_url != config.manifest_url then
      some (.error .CacheDoesNotMatchSource)
    else (verify_document ext config (Text.as_bytes cache.document) cache.verified_at none).map
      (·.map (·.loaded))

/-! ## Loading and refreshing -/

def validate_effective_policy (loc : LocalConfig) (policy : ManagedPolicy) : Except ManagementError Unit := do
  rejectIf (loc.management.enrollment_key_ref.isSome && policy.repository.secret_refs.isSome)
    .EnrolledPolicyContainsSecretReferences
  let _ ← (resolve_config {} loc (some policy)).mapError .Policy

/-- A fetched manifest is used once it fits the local configuration and is in the cache. -/
def accept (loc : LocalConfig) (cache : ManagedPolicyCache) (loaded : LoadedPolicy) (document : String)
    (io : FetchIo) : ManagedPolicyCache × Except ManagementError LoadedPolicy :=
  match validate_effective_policy loc loaded.policy with
  | .error e => (cache, .error e)
  | .ok () =>
    let (cache, saved) := cache.save loc.management document io.saved_at io.write
    (cache, saved.map (fun _ => loaded))

/-- What `load_best_policy` does once it has read the cache and fetched. -/
def best_of (loc : LocalConfig) (cache : ManagedPolicyCache) (cached : Except ManagementError LoadedPolicy)
    (fetched : Except ManagementError (LoadedPolicy × String)) (io : FetchIo) :
    ManagedPolicyCache × Except ManagementError LoadedPolicy :=
  match fetched, cached with
  | .ok (loaded, document), .ok cached =>
    if cached.sequence = loaded.sequence then
      (cache, (validate_effective_policy loc cached.policy).map (fun _ => cached))
    else accept loc cache loaded document io
  | .ok (loaded, document), .error _ => accept loc cache loaded document io
  | .error _, .ok cached => (cache, (validate_effective_policy loc cached.policy).map (fun _ => cached))
  | .error fetch, .error cached => (cache, .error (.FetchAndCacheUnavailable fetch cached))

/-- `load_best_policy`, with the cache it leaves behind. -/
def load_best_policy (loc : LocalConfig) (cache : ManagedPolicyCache) (credentials : Option CredentialStore)
    (io : FetchIo) : Option (ManagedPolicyCache × Except ManagementError (Option LoadedPolicy)) :=
  if loc.management.mode = .Disabled then some (cache, .ok none)
  else match loc.management.validate ext.parse_url with
    | .error e => some (cache, .error (.Config e))
    | .ok () => do
      let cached ← cache.load ext loc.management
      let minimum_sequence := cached.toOption.map (·.sequence)
      let fetched ← fetch_policy ext loc.management minimum_sequence credentials io
      let (cache, best) := best_of loc cache cached fetched io
      return (cache, best.map some)

/-- `refresh_policy`, with the cache it leaves behind. -/
def refresh_policy (loc : LocalConfig) (cache : ManagedPolicyCache) (minimum_sequence : UInt64)
    (credentials : Option CredentialStore) (io : FetchIo) :
    Option (ManagedPolicyCache × Except ManagementError LoadedPolicy) :=
  (fetch_policy ext loc.management (some minimum_sequence) credentials io).map fun
    | .error e => (cache, .error e)
    | .ok (loaded, document) =>
      if loaded.sequence == minimum_sequence then (cache, .ok loaded)
      else accept loc cache loaded document io

/-! ## What is accepted -/

/-- The document is one the source vouches for, and holds this manifest. -/
def Genuine (config : LocalManagementConfig) (document : Bytes) (v : VerifiedManifest) : Prop :=
  match config.mode with
  | .PlainManifest => open_plain ext document = .ok v.payload ∧ v.signed = false
  | .SignedManifest => v.signed = true ∧
      ∃ key, config.signing_public_key = some key ∧ open_signed ext document key = .ok v.payload
  | .Disabled => False

/-- The manifest may be used at `now`. -/
structure Usable (v : VerifiedManifest) (now : DateTime) : Prop where
  schema : v.payload.schema_version = MANAGEMENT_SCHEMA_VERSION
  positive : v.payload.sequence ≠ 0
  window : InWindow v.payload now v.signed

variable {ext} {config : LocalManagementConfig}

theorem verify_document_eq_ok {document : Bytes} {now : DateTime} {minimum_sequence : Option UInt64}
    {v : VerifiedManifest} : verify_document ext config document now minimum_sequence = some (.ok v) ↔
      Genuine ext config document v ∧ (∀ minimum ∈ minimum_sequence, minimum ≤ v.payload.sequence) ∧ Usable v now := by
  have hok : ∀ {x : Option (Except ManifestError VerifiedManifest)},
      x.map (·.mapError ManagementError.Manifest) = some (.ok v) ↔ x = some (.ok v) := by
    intro x
    cases x <;> simp
  have husable : ∀ {signed : Bool}, v.signed = signed ∧
      validate_payload v.payload now minimum_sequence signed = some (.ok ()) ↔
      v.signed = signed ∧ (∀ minimum ∈ minimum_sequence, minimum ≤ v.payload.sequence) ∧ Usable v now := by
    intro signed
    rw [validate_payload_eq_ok]
    constructor
    · rintro ⟨rfl, hs, h0, hm, hw⟩
      exact ⟨rfl, hm, hs, h0, hw⟩
    · rintro ⟨rfl, hm, hs, h0, hw⟩
      exact ⟨rfl, hs, h0, hm, hw⟩
  unfold verify_document Genuine
  cases config.mode with
  | Disabled => simp
  | PlainManifest =>
    simp only [hok, parse_plain_manifest, verify_payload_eq_ok, husable, and_assoc]
  | SignedManifest =>
    cases hk : config.signing_public_key with
    | none => simp
    | some key =>
      simp only [hok, verify_signed_manifest, verify_payload_eq_ok, husable, Option.some.injEq, exists_eq_left']
      tauto

theorem request_document_ok {credentials : Option CredentialStore} {io : FetchIo} {document : Bytes}
    (h : request_document config credentials io = .ok document) :
    config.manifest_url.isSome ∧ io.response = .ok document := by
  unfold request_document at h
  cases hu : config.manifest_url with
  | none =>
    rw [hu] at h
    cases h
  | some url =>
    have hread : (do
        let document ← io.response.mapError ManagementError.Http
        rejectIf (document.length > MAX_MANIFEST_BYTES) .ManifestTooLarge
        return document) = .ok document := by
      rw [hu] at h
      dsimp only at h
      split at h
      · exact (check_bind_eq_ok.1 h).2
      · exact h
    obtain ⟨bytes, hb, hread⟩ := bind_eq_ok.1 hread
    obtain ⟨-, hread⟩ := check_bind_eq_ok.1 hread
    exact ⟨rfl, by rw [mapError_eq_ok.1 hb, pure_eq_ok.1 hread]⟩

/-- What `fetch_policy` returns is genuine, fresh and not older than asked for. -/
theorem fetch_policy_ok {minimum_sequence : Option UInt64} {credentials : Option CredentialStore} {io : FetchIo}
    {loaded : LoadedPolicy} {document : String}
    (h : fetch_policy ext config minimum_sequence credentials io = some (.ok (loaded, document))) :
    ∃ v : VerifiedManifest, loaded = v.loaded ∧ Genuine ext config (Text.as_bytes document) v ∧
      (∀ minimum ∈ minimum_sequence, minimum ≤ loaded.sequence) ∧ Usable v io.fetched_at ∧
      config.manifest_url.isSome ∧ io.response = .ok (Text.as_bytes document) := by
  unfold fetch_policy at h
  split at h
  · cases h
  · rename_i bytes hrequest
    obtain ⟨r, hr, hd⟩ := Option.map_eq_some_iff.1 h
    cases r with
    | error e => cases hd
    | ok v =>
      obtain ⟨hg, hm, hu⟩ := verify_document_eq_ok.1 hr
      simp only [bind, Except.bind] at hd
      split at hd
      · rename_i text ht
        obtain ⟨rfl, rfl⟩ : v.loaded = loaded ∧ text = document := by simpa [pure, Except.pure] using hd
        rw [Text.as_bytes_of_from_utf8 ht]
        exact ⟨v, rfl, hg, hm, hu, request_document_ok hrequest⟩
      · cases hd

theorem validate_effective_policy_resolves {loc : LocalConfig} {policy : ManagedPolicy}
    (h : validate_effective_policy loc policy = .ok ()) :
    (loc.management.enrollment_key_ref.isSome → policy.repository.secret_refs = none) ∧
      ∃ r, resolve_config {} loc (some policy) = .ok r := by
  obtain ⟨hs, h⟩ := check_bind_eq_ok.1 h
  obtain ⟨r, hr, -⟩ := bind_eq_ok.1 h
  refine ⟨fun he => ?_, r, mapError_eq_ok.1 hr⟩
  simpa [he] using hs

/-- When a fetched manifest is used, and what the cache then holds. -/
theorem accept_ok_iff {loc : LocalConfig} {cache cache' : ManagedPolicyCache} {loaded p : LoadedPolicy}
    {document : String} {io : FetchIo} : accept loc cache loaded document io = (cache', .ok p) ↔
      validate_effective_policy loc loaded.policy = .ok () ∧ io.write = .ok () ∧ p = loaded ∧
        cache' = .contents {
          schema_version := CACHE_SCHEMA_VERSION, mode := loc.management.mode
          source_url := loc.management.manifest_url.getD "", verified_at := io.saved_at, document } := by
  unfold accept
  cases validate_effective_policy loc loaded.policy with
  | error e => simp
  | ok u =>
    cases io.write with
    | error e => simp [ManagedPolicyCache.save, Except.map]
    | ok u =>
      simp only [ManagedPolicyCache.save, Except.map, Except.isOk, Except.toBool, StoredFile.replace, if_true,
        Prod.mk.injEq, Except.ok.injEq, true_and]
      tauto

/-- The policy comes from `load_best_policy`. -/
def LoadedFor (ext : External) (loc : LocalConfig) (policy : ManagedPolicy) : Prop :=
  ∃ cache credentials io cache' loaded,
    load_best_policy ext loc cache credentials io = some (cache', .ok (some loaded)) ∧ loaded.policy = policy

/-- The policy comes from `refresh_policy`, with a sequence above the one asked for. -/
def RefreshedFor (ext : External) (loc : LocalConfig) (policy : ManagedPolicy) : Prop :=
  ∃ cache minimum_sequence credentials io cache' loaded,
    refresh_policy ext loc cache minimum_sequence credentials io = some (cache', .ok loaded) ∧
      minimum_sequence < loaded.sequence ∧ loaded.policy = policy

theorem best_of_validated {loc : LocalConfig} {cache cache' : ManagedPolicyCache}
    {cached : Except ManagementError LoadedPolicy} {fetched : Except ManagementError (LoadedPolicy × String)}
    {io : FetchIo} {p : LoadedPolicy} (h : best_of loc cache cached fetched io = (cache', .ok p)) :
    validate_effective_policy loc p.policy = .ok () := by
  have keep {q : LoadedPolicy} (hq : (cache, (validate_effective_policy loc q.policy).map (fun _ => q)) =
      (cache', .ok p)) : validate_effective_policy loc p.policy = .ok () := by
    cases hv : validate_effective_policy loc q.policy with
    | error e => simp [hv, Except.map] at hq
    | ok u =>
      simp only [hv, Except.map, Prod.mk.injEq, Except.ok.injEq] at hq
      exact hq.2 ▸ hv
  have used {q : LoadedPolicy} {document : String} (hq : accept loc cache q document io = (cache', .ok p)) :
      validate_effective_policy loc p.policy = .ok () := by
    obtain ⟨hv, -, rfl, -⟩ := accept_ok_iff.1 hq
    exact hv
  unfold best_of at h
  split at h
  · split at h
    · exact keep h
    · exact used h
  · exact used h
  · exact keep h
  · simp at h

/-- A policy that `load_best_policy` returns was chosen between the cached and the fetched one. -/
theorem load_best_policy_some {loc : LocalConfig} {cache cache' : ManagedPolicyCache}
    {credentials : Option CredentialStore} {io : FetchIo} {loaded : LoadedPolicy}
    (h : load_best_policy ext loc cache credentials io = some (cache', .ok (some loaded))) :
    ∃ cached fetched, cache.load ext loc.management = some cached ∧
      fetch_policy ext loc.management (cached.toOption.map (·.sequence)) credentials io = some fetched ∧
      best_of loc cache cached fetched io = (cache', .ok loaded) := by
  unfold load_best_policy at h
  split at h
  · simp at h
  · split at h
    · simp at h
    · obtain ⟨cached, hc, h⟩ := Option.bind_eq_some_iff.1 h
      obtain ⟨fetched, hf, h⟩ := Option.bind_eq_some_iff.1 h
      refine ⟨cached, fetched, hc, hf, ?_⟩
      generalize best_of loc cache cached fetched io = best at h
      obtain ⟨after, best⟩ := best
      cases best with
      | error e => simp [Except.map] at h
      | ok p => simpa [Except.map] using h

theorem LoadedFor.validated {loc : LocalConfig} {policy : ManagedPolicy} (h : LoadedFor ext loc policy) :
    validate_effective_policy loc policy = .ok () := by
  obtain ⟨cache, credentials, io, cache', loaded, h, rfl⟩ := h
  obtain ⟨cached, fetched, -, -, hb⟩ := load_best_policy_some h
  exact best_of_validated hb

theorem RefreshedFor.validated {loc : LocalConfig} {policy : ManagedPolicy} (h : RefreshedFor ext loc policy) :
    validate_effective_policy loc policy = .ok () := by
  obtain ⟨cache, minimum, credentials, io, cache', loaded, h, hlt, rfl⟩ := h
  obtain ⟨fetched, -, h⟩ := Option.map_eq_some_iff.1 h
  cases fetched with
  | error e => simp at h
  | ok fetched =>
    obtain ⟨p, document⟩ := fetched
    dsimp only at h
    split at h
    · rename_i hs
      obtain ⟨-, rfl⟩ : cache = cache' ∧ p = loaded := by simpa using h
      simp only [beq_iff_eq] at hs
      exact absurd (hs ▸ hlt) (UInt64.lt_irrefl _)
    · obtain ⟨hv, -, rfl, -⟩ := accept_ok_iff.1 h
      exact hv

/-! ## Startup with a usable cache -/

/-- The startup got a policy no older than the cached one, and it resolves. -/
def StartsManaged (loc : LocalConfig) (cached : LoadedPolicy)
    (outcome : Option (ManagedPolicyCache × Except ManagementError (Option LoadedPolicy))) : Prop :=
  ∃ cache p, outcome = some (cache, .ok (some p)) ∧ cached.sequence ≤ p.sequence ∧
    ∃ r, resolve_config {} loc (some p.policy) = .ok r

/-- The fetch left the startup something to use: it failed, or brought the cached
sequence again, or a newer manifest that fits the local configuration and could
be written to the cache. -/
def FetchIsHarmless (loc : LocalConfig) (cached : LoadedPolicy) (io : FetchIo) :
    Except ManagementError (LoadedPolicy × String) → Prop
  | .error _ => True
  | .ok (loaded, _) => cached.sequence = loaded.sequence ∨
      (validate_effective_policy loc loaded.policy = .ok () ∧ io.write = .ok ())

/-- With a cached manifest that loads and fits, the startup is managed exactly
when the fetch is harmless: any other newer manifest makes it drop the cached
policy too. -/
theorem load_best_policy_usable_iff {loc : LocalConfig} {cache : ManagedPolicyCache} {cached : LoadedPolicy}
    {credentials : Option CredentialStore} {io : FetchIo} {fetched : Except ManagementError (LoadedPolicy × String)}
    (hm : loc.management.mode ≠ .Disabled) (hv : loc.management.validate ext.parse_url = .ok ())
    (hc : cache.load ext loc.management = some (.ok cached))
    (hp : validate_effective_policy loc cached.policy = .ok ())
    (hf : fetch_policy ext loc.management (some cached.sequence) credentials io = some fetched) :
    StartsManaged loc cached (load_best_policy ext loc cache credentials io) ↔
      FetchIsHarmless loc cached io fetched := by
  obtain ⟨-, r, hr⟩ := validate_effective_policy_resolves hp
  have hl : load_best_policy ext loc cache credentials io =
      some ((best_of loc cache (.ok cached) fetched io).1, (best_of loc cache (.ok cached) fetched io).2.map some) := by
    simp [load_best_policy, hm, hv, hc, hf, Except.toOption]
  have keep : StartsManaged loc cached (some (cache, (Except.ok cached).map some)) :=
    ⟨cache, cached, rfl, UInt64.le_refl _, r, hr⟩
  rw [hl]
  cases fetched with
  | error e => simpa [FetchIsHarmless, best_of, hp, Except.map] using keep
  | ok fetched =>
    obtain ⟨loaded, document⟩ := fetched
    obtain ⟨-, -, -, hmin, -⟩ := fetch_policy_ok hf
    by_cases hs : cached.sequence = loaded.sequence
    · simpa [FetchIsHarmless, best_of, hs, hp, Except.map] using keep
    · simp only [FetchIsHarmless, best_of, hs, if_false, false_or]
      constructor
      · rintro ⟨cache', p, ho, -⟩
        cases ha : accept loc cache loaded document io with
        | mk cache'' best =>
          rw [ha] at ho
          cases best with
          | error e => simp [Except.map] at ho
          | ok q => exact ⟨(accept_ok_iff.1 ha).1, (accept_ok_iff.1 ha).2.1⟩
      · rintro ⟨he, hw⟩
        obtain ⟨-, r', hr'⟩ := validate_effective_policy_resolves he
        rw [accept_ok_iff.2 ⟨he, hw, rfl, rfl⟩]
        exact ⟨_, loaded, rfl, hmin _ rfl, r', hr'⟩

end Client

namespace MisfitManifest

def manifest (sequence : UInt64) (interval_hours : UInt32) : ManifestPayload where
  schema_version := MANAGEMENT_SCHEMA_VERSION
  sequence
  issued_at := .UNIX_EPOCH
  expires_at := none
  policy := { revision := "plain", schedule := { interval_hours := some { value := interval_hours, locked := true } } }

def document (sequence : UInt64) (interval_hours : UInt32) : String :=
  "\x7b\"schema_version\":1,\"sequence\":" ++ toString sequence ++
    ",\"issued_at\":\"1970-01-01T00:00:00Z\",\"policy\":\x7b\"revision\":\"plain\",\"schedule\":" ++
    "\x7b\"interval_hours\":\x7b\"value\":" ++ toString interval_hours ++ ",\"locked\":true\x7d\x7d\x7d\x7d"

def bytes (sequence : UInt64) (interval_hours : UInt32) : Text.Bytes := Text.as_bytes (document sequence interval_hours)

/-- Servers have manifests that lock a daily schedule, and one that locks an interval of no hours. -/
def ext : External := { External.inert with
  parse_url := fun _ => some ⟨"https", some "files.example.test", "", none, none⟩
  parse_payload := fun document => match [(12, 24), (13, 24), (13, 0), (5, 24)].find? (bytes.uncurry · = document) with
    | some (sequence, interval_hours) => .ok (manifest sequence interval_hours)
    | none => .error "expected value" }

def loc : LocalConfig where
  management := { mode := .PlainManifest, manifest_url := some "https://files.example.test/resticpal.json" }

def cache : ManagedPolicyCache := .contents {
  schema_version := CACHE_SCHEMA_VERSION
  mode := .PlainManifest
  source_url := "https://files.example.test/resticpal.json"
  verified_at := .UNIX_EPOCH
  document := document 12 24 }

def cached : LoadedPolicy := { policy := (manifest 12 24).policy, sequence := 12 }

def io (document : Text.Bytes) : FetchIo where
  response := .ok document
  fetched_at := .UNIX_EPOCH
  saved_at := .UNIX_EPOCH
  write := .ok ()

/-- A later manifest that does not fit makes the startup drop a cached one that does. -/
theorem misfit_drops_cached_policy :
    loc.management.mode ≠ .Disabled ∧ loc.management.validate ext.parse_url = .ok () ∧
      cache.load ext loc.management = some (.ok cached) ∧ validate_effective_policy loc cached.policy = .ok () ∧
      (∃ fetched, fetch_policy ext loc.management (some cached.sequence) none (io (bytes 13 0)) = some fetched) ∧
      ¬ StartsManaged loc cached (load_best_policy ext loc cache none (io (bytes 13 0))) := by
  have hf : fetch_policy ext loc.management (some cached.sequence) none (io (bytes 13 0)) =
      some (.ok (⟨(manifest 13 0).policy, 13⟩, document 13 0)) := by decide +kernel
  have hl : load_best_policy ext loc cache none (io (bytes 13 0)) =
      some (cache, .error (.Policy (.InvalidEffectiveConfig .InvalidScheduleInterval))) := by decide +kernel
  refine ⟨by decide, by decide, by decide +kernel, by decide, ⟨_, hf⟩, ?_⟩
  rintro ⟨c, p, h, -⟩
  rw [hl] at h
  simp at h

/-- Offline, the cached policy is used. -/
theorem offline_starts_managed :
    StartsManaged loc cached (load_best_policy ext loc cache none { io [] with response := .error "offline" }) := by
  have hf : fetch_policy ext loc.management (some cached.sequence) none { io [] with response := .error "offline" } =
      some (.error (.Http "offline")) := by decide
  exact (load_best_policy_usable_iff (by decide) (by decide) (by decide +kernel) (by decide) hf).2 trivial

end MisfitManifest

end ResticPal
