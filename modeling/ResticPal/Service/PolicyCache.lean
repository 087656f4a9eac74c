import ResticPal.Lib.JsonString
import ResticPal.Service.Management
/-!
# The policy cache, byte by byte

`ManagedPolicyCache` in `resticpal-service/src/management.rs` writes the last
accepted document as a string inside a JSON document of its own, and both are
limited in size. Here the cache is the file itself; what a reader finds in it is
the `StoredFile` the rest of the model works with.

- `fetched_policy_is_cached_iff`: which fetched documents the cache takes and gives back.
- `cache_load_returns_iff`: which files it loads without a panic.
-/

open Lib

namespace ResticPal

open Text (Bytes)

def MAX_CACHE_BYTES : Nat := 2 * 1024 * 1024

/-- The file as the operating system hands it out. -/
inductive CacheFile where
  | missing
  | unreadable
  | bytes (contents : Bytes)
  deriving DecidableEq

/-- `serde_json` and `chrono` at `CachedManifest`. -/
structure CacheJson where
  /-- The text of an instant, in RFC 3339. -/
  format_time : DateTime → String
  /-- `serde_json::from_slice`, with its error dropped. -/
  from_slice : Bytes → Option CachedManifest

/-- The mode's name in JSON, in snake case. -/
def ManagementMode.json_name : ManagementMode → String
  | .Disabled => "disabled"
  | .PlainManifest => "plain_manifest"
  | .SignedManifest => "signed_manifest"

namespace CacheJson

variable (json : CacheJson)

/-- The members of a cached manifest, in the order of its fields. -/
def to_string_pretty (cache : CachedManifest) : String :=
  JsonString.pretty ("schema_version", toString cache.schema_version.toNat) [
    ("mode", JsonString.quote cache.mode.json_name),
    ("source_url", JsonString.quote cache.source_url),
    ("verified_at", JsonString.quote (json.format_time cache.verified_at)),
    ("document", JsonString.quote cache.document)]

/-- `serde_json::to_vec_pretty`. -/
def to_vec_pretty (cache : CachedManifest) : Bytes := Text.as_bytes (json.to_string_pretty cache)

/-- The decoder finds in the encoder's text what the encoder was given. -/
def ReadsBack (cache : CachedManifest) : Prop := json.from_slice (json.to_vec_pretty cache) = some cache

/-- A decoder that knows the file of one manifest. -/
def only (format_time : DateTime → String) (cache : CachedManifest) : CacheJson where
  format_time
  from_slice bytes := if bytes = to_vec_pretty ⟨format_time, fun _ => none⟩ cache then some cache else none

theorem only_readsBack (format_time : DateTime → String) (cache : CachedManifest) :
    (only format_time cache).ReadsBack cache := by
  have hencode : (only format_time cache).to_vec_pretty cache = to_vec_pretty ⟨format_time, fun _ => none⟩ cache := rfl
  rw [ReadsBack, hencode]
  simp [only]

end CacheJson

/-- What `save` writes. -/
def CachedManifest.of_document (config : LocalManagementConfig) (document : String) (verified_at : DateTime) :
    CachedManifest where
  schema_version := CACHE_SCHEMA_VERSION
  mode := config.mode
  source_url := config.manifest_url.getD ""
  verified_at
  document

namespace CacheFile

variable (ext : External) (json : CacheJson)

/-- `ManagedPolicyCache::save`; `replaced` is the outcome of `atomic_file::replace`. -/
def save (file : CacheFile) (config : LocalManagementConfig) (document : String) (verified_at : DateTime)
    (replaced : Except ManagementError Unit) : CacheFile × Except ManagementError Unit :=
  let contents := json.to_vec_pretty (.of_document config document verified_at)
  if contents.length > MAX_CACHE_BYTES then (file, .error .CacheTooLarge)
  else match replaced with
    | .error e => (file, .error e)
    | .ok () => (.bytes contents, .ok ())

/-- What `load` finds in the file before it looks at the manifest. -/
def read : CacheFile → ManagedPolicyCache
  | .missing => .missing
  | .unreadable => .unreadable
  | .bytes contents =>
    let contents := contents.take (MAX_CACHE_BYTES + 1)
    if contents.length > MAX_CACHE_BYTES then .oversized
    else match json.from_slice contents with
      | none => .malformed
      | some cache => .contents cache

/-- `ManagedPolicyCache::load`; `none` is a panic. -/
def load (file : CacheFile) (config : LocalManagementConfig) : Option (Except ManagementError LoadedPolicy) :=
  (file.read json).load ext config

variable {ext json}

theorem read_bytes {contents : Bytes} (h : contents.length ≤ MAX_CACHE_BYTES) :
    (bytes contents).read json = match json.from_slice contents with
      | none => .malformed
      | some cache => .contents cache := by
  have htake : contents.take (MAX_CACHE_BYTES + 1) = contents := List.take_of_length_le (by omega)
  simp only [read, htake]
  rw [if_neg (by omega)]

/-- The file holds a manifest: it is small enough and decodes. -/
def Holds (json : CacheJson) (file : CacheFile) (cache : CachedManifest) : Prop :=
  ∃ contents, file = .bytes contents ∧ contents.length ≤ MAX_CACHE_BYTES ∧ json.from_slice contents = some cache

theorem read_eq_contents {file : CacheFile} {cache : CachedManifest} :
    file.read json = .contents cache ↔ file.Holds json cache := by
  constructor
  · intro h
    cases file with
    | missing => cases h
    | unreadable => cases h
    | bytes contents =>
      by_cases hsize : contents.length ≤ MAX_CACHE_BYTES
      · rw [read_bytes hsize] at h
        refine ⟨contents, rfl, hsize, ?_⟩
        split at h
        · cases h
        · rename_i found hslice
          cases h
          exact hslice
      · have hlong : (contents.take (MAX_CACHE_BYTES + 1)).length > MAX_CACHE_BYTES := by
          rw [List.length_take]
          omega
        simp only [read] at h
        rw [if_pos hlong] at h
        cases h
  · rintro ⟨contents, rfl, hsize, hslice⟩
    rw [read_bytes hsize, hslice]

section Save

variable {file : CacheFile} {config : LocalManagementConfig} {document : String} {verified_at : DateTime}
  {replaced : Except ManagementError Unit}

theorem save_large
    (h : MAX_CACHE_BYTES < (json.to_vec_pretty (.of_document config document verified_at)).length) :
    file.save json config document verified_at replaced = (file, .error .CacheTooLarge) := by
  simp only [save]
  rw [if_pos h]

theorem save_small
    (h : (json.to_vec_pretty (.of_document config document verified_at)).length ≤ MAX_CACHE_BYTES) :
    file.save json config document verified_at replaced = match replaced with
      | .error e => (file, .error e)
      | .ok () => (.bytes (json.to_vec_pretty (.of_document config document verified_at)), .ok ()) := by
  simp only [save]
  rw [if_neg (Nat.not_lt.2 h)]

/-- Saving the file is saving the manifest in it, with the size limit as one more
way for the write to fail. -/
theorem read_save (hread : json.ReadsBack (.of_document config document verified_at)) :
    ((file.save json config document verified_at replaced).1.read json,
      (file.save json config document verified_at replaced).2) =
        (file.read json).save config document verified_at (file.save json config document verified_at replaced).2 := by
  rcases Nat.lt_or_ge MAX_CACHE_BYTES (json.to_vec_pretty (.of_document config document verified_at)).length with
    hlarge | hsmall
  · rw [save_large hlarge]
    rfl
  · rw [save_small hsmall]
    cases replaced with
    | error e => rfl
    | ok u =>
      dsimp only
      rw [read_eq_contents.2 ⟨_, rfl, hsmall, hread⟩]
      rfl

end Save

end CacheFile

/-! ## What fits -/

/-- The bytes of a string in the cache, without its quotes. -/
def escapedLen (s : String) : Nat := Text.len s + JsonString.escapeCosts s

/-- The bytes of the cache file apart from its URL, its time and its document. -/
def cacheHeader (mode : ManagementMode) : Nat := 98 + Text.len mode.json_name

/-- The document, its URL and the time fit into the cache once they are escaped. -/
def FitsCache (json : CacheJson) (config : LocalManagementConfig) (document : String) (verified_at : DateTime) : Prop :=
  escapedLen document + escapedLen (config.manifest_url.getD "") + escapedLen (json.format_time verified_at) +
    cacheHeader config.mode ≤ MAX_CACHE_BYTES

theorem CacheJson.to_vec_pretty_length (json : CacheJson) (config : LocalManagementConfig) (document : String)
    (verified_at : DateTime) : (json.to_vec_pretty (.of_document config document verified_at)).length =
      escapedLen document + escapedLen (config.manifest_url.getD "") + escapedLen (json.format_time verified_at) +
        cacheHeader config.mode := by
  have hmode : JsonString.escapeCosts config.mode.json_name = 0 := by cases config.mode <;> decide
  have hversion : (toString CACHE_SCHEMA_VERSION.toNat).utf8ByteSize = 1 := by decide
  have hnames : (["schema_version", "mode", "source_url", "verified_at", "document"].map
      (fun name => (JsonString.quote name).utf8ByteSize)).sum = 57 := by decide
  rw [to_vec_pretty, Text.as_bytes_length, to_string_pretty, Text.len, JsonString.utf8ByteSize_pretty]
  simp only [List.map_cons, List.map_nil] at hnames ⊢
  rw [hnames]
  simp only [CachedManifest.of_document, List.sum_cons, List.sum_nil, List.length_cons, List.length_nil, hversion,
    JsonString.utf8ByteSize_quote, hmode, escapedLen, cacheHeader, Text.len]
  omega

/-- The document can be saved at `verified_at` as far as size goes, and the saved
file gives back the policy. -/
def CachesPolicy (ext : External) (json : CacheJson) (file : CacheFile) (config : LocalManagementConfig)
    (document : String) (verified_at : DateTime) (loaded : LoadedPolicy) : Prop :=
  (file.save json config document verified_at (.ok ())).2 = .ok () ∧
    (file.save json config document verified_at (.ok ())).1.load ext json config = some (.ok loaded)

section Caching

variable {ext : External} {json : CacheJson} {config : LocalManagementConfig}

theorem fitsCache_iff {document : String} {t : DateTime} : FitsCache json config document t ↔
    (json.to_vec_pretty (.of_document config document t)).length ≤ MAX_CACHE_BYTES := by
  rw [json.to_vec_pretty_length, FitsCache]

/-- A file that fits is loaded by verifying its document as of the time it was saved. -/
theorem load_saved {document : String} {t : DateTime} (hurl : config.manifest_url.isSome)
    (hread : json.ReadsBack (.of_document config document t)) (hfits : FitsCache json config document t) :
    (CacheFile.bytes (json.to_vec_pretty (.of_document config document t))).load ext json config =
      (verify_document ext config (Text.as_bytes document) t none).map (·.map (·.loaded)) := by
  obtain ⟨url, hurl⟩ := Option.isSome_iff_exists.1 hurl
  rw [CacheFile.load, CacheFile.read_bytes (fitsCache_iff.1 hfits), hread]
  simp [ManagedPolicyCache.load, CachedManifest.of_document, hurl]

/-- A document that was accepted at `t` is cached at `t` exactly when it fits,
with its URL and the time, once it is escaped. -/
theorem fetched_policy_is_cached_iff {minimum_sequence : Option UInt64} {credentials : Option CredentialStore}
    {io : FetchIo} {loaded : LoadedPolicy} {document : String} (file : CacheFile)
    (hfetch : fetch_policy ext config minimum_sequence credentials io = some (.ok (loaded, document)))
    (hread : json.ReadsBack (.of_document config document io.fetched_at)) :
    CachesPolicy ext json file config document io.fetched_at loaded ↔ FitsCache json config document io.fetched_at := by
  obtain ⟨v, rfl, hgenuine, -, husable, hurl, -⟩ := fetch_policy_ok hfetch
  have hverify : verify_document ext config (Text.as_bytes document) io.fetched_at none = some (.ok v) :=
    verify_document_eq_ok.2 ⟨hgenuine, by simp, husable⟩
  constructor
  · rintro ⟨hsaved, -⟩
    by_contra hlarge
    rw [fitsCache_iff, Nat.not_le] at hlarge
    rw [CacheFile.save_large hlarge] at hsaved
    cases hsaved
  · intro hfits
    rw [CachesPolicy, CacheFile.save_small (fitsCache_iff.1 hfits), load_saved hurl hread hfits, hverify]
    exact ⟨rfl, rfl⟩

/-! ## Loading any file -/

/-- The date arithmetic of the verification is out of range: the manifest passes
every check up to the clock's, and five minutes after `now` there is no instant. -/
def ClockOverflows (v : VerifiedManifest) (now : DateTime) : Prop :=
  v.payload.schema_version = MANAGEMENT_SCHEMA_VERSION ∧ v.payload.sequence ≠ 0 ∧
    DateTime.MAX_UTC.nanos < now.nanos + Duration.minutes MAX_CLOCK_SKEW_MINUTES

theorem validate_payload_eq_none {payload : ManifestPayload} {now : DateTime} {signed : Bool} :
    validate_payload payload now none signed = none ↔ ClockOverflows ⟨payload, signed⟩ now := by
  have hskew : 0 ≤ Duration.minutes MAX_CLOCK_SKEW_MINUTES := by decide
  unfold validate_payload ClockOverflows
  by_cases hschema : payload.schema_version = MANAGEMENT_SCHEMA_VERSION
  · by_cases hsequence : payload.sequence = 0
    · simp [hschema, hsequence]
    · simp [hschema, hsequence, DateTime.checked_add_signed_eq_none hskew]
  · simp [hschema]

theorem verify_payload_eq_none {opened : Except ManifestError ManifestPayload} {now : DateTime} {signed : Bool} :
    verify_payload opened now none signed = none ↔
      ∃ payload, opened = .ok payload ∧ ClockOverflows ⟨payload, signed⟩ now := by
  cases opened with
  | error e => simp [verify_payload]
  | ok payload => simp [verify_payload, validate_payload_eq_none]

theorem verify_document_eq_none {document : Bytes} {now : DateTime} :
    verify_document ext config document now none = none ↔
      ∃ v, Genuine ext config document v ∧ ClockOverflows v now := by
  unfold verify_document Genuine
  cases config.mode with
  | Disabled => simp
  | PlainManifest =>
    simp only [Option.map_eq_none_iff, parse_plain_manifest, verify_payload_eq_none]
    constructor
    · rintro ⟨payload, hopen, hover⟩
      exact ⟨⟨payload, false⟩, ⟨hopen, rfl⟩, hover⟩
    · rintro ⟨⟨payload, signed⟩, ⟨hopen, rfl⟩, hover⟩
      exact ⟨payload, hopen, hover⟩
  | SignedManifest =>
    cases config.signing_public_key with
    | none => simp
    | some key =>
      simp only [Option.map_eq_none_iff, verify_signed_manifest, verify_payload_eq_none, Option.some.injEq,
        exists_eq_left']
      constructor
      · rintro ⟨payload, hopen, hover⟩
        exact ⟨⟨payload, true⟩, ⟨rfl, hopen⟩, hover⟩
      · rintro ⟨⟨payload, signed⟩, ⟨rfl, hopen⟩, hover⟩
        exact ⟨payload, hopen, hover⟩

/-- The cache was written for this source. -/
structure CachedManifest.Matches (cache : CachedManifest) (config : LocalManagementConfig) : Prop where
  schema : cache.schema_version = CACHE_SCHEMA_VERSION
  mode : cache.mode = config.mode
  url : config.manifest_url = some cache.source_url

theorem ManagedPolicyCache.load_contents_eq_none {cache : CachedManifest} :
    ManagedPolicyCache.load ext (.contents cache) config = none ↔ cache.Matches config ∧
      verify_document ext config (Text.as_bytes cache.document) cache.verified_at none = none := by
  have hmatches : cache.Matches config ↔ ¬ (cache.schema_version != CACHE_SCHEMA_VERSION ||
      cache.mode != config.mode || some cache.source_url != config.manifest_url) = true := by
    constructor
    · rintro ⟨hs, hm, hu⟩
      simp [hs, hm, hu]
    · intro h
      simp only [Bool.or_eq_true, bne_iff_ne, ne_eq, not_or, not_not] at h
      exact ⟨h.1.1, h.1.2, h.2.symm⟩
  rw [hmatches, ManagedPolicyCache.load]
  split
  · rename_i h
    simp [h]
  · rename_i h
    simp [h]

/-- Every time in the cache that the verification reads as its clock leaves room
for the clock skew. -/
def VerifiedInRange (ext : External) (config : LocalManagementConfig) (cache : CachedManifest) : Prop :=
  cache.Matches config → ∀ v, Genuine ext config (Text.as_bytes cache.document) v → ¬ ClockOverflows v cache.verified_at

/-- Loading returns, whatever the bytes of the file, unless the file holds a
genuine manifest whose verification time lies within the clock skew of the end
of time. -/
theorem cache_load_returns_iff (file : CacheFile) :
    (file.load ext json config).isSome ↔
      ∀ cache, file.Holds json cache → VerifiedInRange ext config cache := by
  simp only [← CacheFile.read_eq_contents]
  rw [← not_iff_not, Option.not_isSome_iff_eq_none, CacheFile.load]
  have hempty : ∀ {stored : ManagedPolicyCache}, (∀ cache, stored ≠ .contents cache) →
      stored.load ext config ≠ none := by
    intro stored h
    cases stored with
    | contents cache => exact absurd rfl (h cache)
    | _ => simp [ManagedPolicyCache.load]
  constructor
  · intro hpanic hall
    by_cases hread : ∃ cache, file.read json = .contents cache
    · obtain ⟨cache, hread⟩ := hread
      rw [hread, ManagedPolicyCache.load_contents_eq_none, verify_document_eq_none] at hpanic
      obtain ⟨hmatches, v, hgenuine, hover⟩ := hpanic
      exact hall cache hread hmatches v hgenuine hover
    · exact hempty (fun cache h => hread ⟨cache, h⟩) hpanic
  · intro h
    simp only [VerifiedInRange, not_forall, not_not] at h
    obtain ⟨cache, hread, hmatches, v, hgenuine, hover⟩ := h
    rw [hread, ManagedPolicyCache.load_contents_eq_none, verify_document_eq_none]
    exact ⟨hmatches, v, hgenuine, hover⟩

end Caching

namespace PaddedManifest

def manifest : String :=
  "\x7b\"schema_version\":1,\"sequence\":1,\"issued_at\":\"1970-01-01T00:00:00Z\",\"policy\":\x7b\x7d\x7d"

def payload : ManifestPayload where
  schema_version := MANAGEMENT_SCHEMA_VERSION
  sequence := 1
  issued_at := .UNIX_EPOCH
  expires_at := none
  policy := {}

/-- Line breaks after the manifest, up to the largest document a client takes. -/
def padding : Nat := MAX_MANIFEST_BYTES - 80

def document : String := manifest ++ String.ofList (List.replicate padding '\n')

/-- The manifest, with or without line breaks after it. -/
def ext : External := { External.inert with
  parse_payload := fun bytes =>
    if (bytes.reverse.dropWhile (· == 10)).reverse = Text.as_bytes manifest then .ok payload
    else .error "expected value" }

def config : LocalManagementConfig :=
  { mode := .PlainManifest, manifest_url := some "https://files.example.test/resticpal.json" }

def io (document : String) : FetchIo where
  response := .ok (Text.as_bytes document)
  fetched_at := .UNIX_EPOCH
  saved_at := .UNIX_EPOCH
  write := .ok ()

def loaded : LoadedPolicy := { policy := {}, sequence := 1 }

/-- Every instant here is the one of the fetch. -/
def json (document : String) : CacheJson :=
  .only (fun _ => "1970-01-01T00:00:00Z") (.of_document config document .UNIX_EPOCH)

theorem url_escapedLen : escapedLen (config.manifest_url.getD "") = 41 := by decide

/-- The manifest alone fits, with any text of the time that is not absurdly long. -/
theorem manifest_fits {json : CacheJson} {t : DateTime} (h : escapedLen (json.format_time t) ≤ 100) :
    FitsCache json config manifest t := by
  have hmanifest : escapedLen manifest = 90 := by decide
  have hheader : cacheHeader config.mode = 112 := by decide
  have hmax : MAX_CACHE_BYTES = 2097152 := rfl
  rw [FitsCache, hmanifest, url_escapedLen, hheader, hmax]
  omega

theorem as_bytes_breaks (n : Nat) :
    Text.as_bytes (String.ofList (List.replicate n '\n')) = List.replicate n 10 := by
  induction n with
  | zero => rfl
  | succ n ih =>
    have hone : Text.as_bytes (String.ofList ['\n']) = [10] := by decide
    rw [List.replicate_succ, ← List.singleton_append, Text.as_bytes_append, ih, hone, List.replicate_succ]
    rfl

theorem as_bytes_padded (n : Nat) : Text.as_bytes (manifest ++ String.ofList (List.replicate n '\n')) =
    Text.as_bytes manifest ++ List.replicate n 10 := by
  rw [← as_bytes_breaks, ← String.ofList_toList (s := manifest), ← String.ofList_append, Text.as_bytes_append]

theorem open_padded {n : Nat} (h : n ≤ padding) :
    open_plain ext (Text.as_bytes (manifest ++ String.ofList (List.replicate n '\n'))) = .ok payload := by
  have hlast : (Text.as_bytes manifest).reverse.dropWhile (· == 10) = (Text.as_bytes manifest).reverse := by decide
  have hparse : ext.parse_payload (Text.as_bytes manifest ++ List.replicate n 10) = .ok payload := by
    simp only [ext, List.reverse_append, List.reverse_replicate]
    rw [List.dropWhile_append_of_pos (by simp +contextual [List.mem_replicate]), hlast, List.reverse_reverse, if_pos rfl]
  have hlength : (Text.as_bytes manifest).length = 80 := by decide
  have hsize : validate_document_size (Text.as_bytes manifest ++ List.replicate n 10) = .ok () := by
    have hmax : padding = MAX_MANIFEST_BYTES - 80 := rfl
    have hroom : 80 ≤ MAX_MANIFEST_BYTES := by decide
    have hnonempty : Text.as_bytes manifest ≠ [] := by decide
    simp [validate_document_size, rejectIf, hlength, hnonempty]
    omega
  rw [as_bytes_padded, open_plain, hsize]
  simp [bind, Except.bind, parse_json, hparse, Except.mapError]

theorem fetch_padded {n : Nat} (h : n ≤ padding) :
    fetch_policy ext config none none (io (manifest ++ String.ofList (List.replicate n '\n'))) =
      some (.ok (loaded, manifest ++ String.ofList (List.replicate n '\n'))) := by
  have hopen := open_padded h
  generalize manifest ++ String.ofList (List.replicate n '\n') = document at hopen ⊢
  have hsize : ¬ (Text.as_bytes document).length > MAX_MANIFEST_BYTES := by
    intro hlarge
    simp [open_plain, validate_document_size, rejectIf, hlarge, bind, Except.bind] at hopen
  have hrequest : request_document config none (io document) = .ok (Text.as_bytes document) := by
    simp [request_document, config, io, rejectIf, hsize, Except.mapError, bind, Except.bind, pure, Except.pure]
  have hverify : verify_document ext config (Text.as_bytes document) .UNIX_EPOCH none =
      some (.ok ⟨payload, false⟩) :=
    verify_document_eq_ok.2 ⟨⟨hopen, rfl⟩, by simp, rfl, by decide, _, rfl, by decide⟩
  rw [fetch_policy, hrequest]
  simp only [io, hverify, Option.map_some, bind, Except.bind, Text.from_utf8_as_bytes]
  rfl

/-- The largest document a client takes need not fit into its cache. -/
theorem padded_manifest_is_refused :
    fetch_policy ext config none none (io document) = some (.ok (loaded, document)) ∧
      (json document).ReadsBack (.of_document config document .UNIX_EPOCH) ∧
      (CacheFile.missing.save (json document) config document .UNIX_EPOCH (.ok ())).2 = .error .CacheTooLarge ∧
      ¬ CachesPolicy ext (json document) .missing config document .UNIX_EPOCH loaded := by
  have hbytes : (Text.as_bytes manifest).length = 80 := by decide
  have hmanifest : JsonString.escapeCosts manifest = 10 := by decide
  have hbreak : JsonString.escapeCost '\n' = 1 := by decide
  have hlen : Text.len document = MAX_MANIFEST_BYTES := by
    rw [← Text.as_bytes_length, document, as_bytes_padded, List.length_append, List.length_replicate, hbytes]
    decide
  have hcosts : JsonString.escapeCosts document = padding + 10 := by
    rw [document, JsonString.escapeCosts_append, JsonString.escapeCosts_replicate, hmanifest, hbreak]
    omega
  have hlarge : ¬ FitsCache (json document) config document .UNIX_EPOCH := by
    have hformat : (json document).format_time .UNIX_EPOCH = "1970-01-01T00:00:00Z" := rfl
    have htime : escapedLen "1970-01-01T00:00:00Z" = 20 := by decide
    have hdocument : escapedLen document = MAX_MANIFEST_BYTES + (padding + 10) := by rw [escapedLen, hlen, hcosts]
    rw [FitsCache, hdocument, url_escapedLen, hformat, htime]
    decide
  have hsave : CacheFile.missing.save (json document) config document .UNIX_EPOCH (.ok ()) =
      (.missing, .error .CacheTooLarge) := by
    rw [fitsCache_iff, Nat.not_le] at hlarge
    exact CacheFile.save_large hlarge
  refine ⟨fetch_padded (Nat.le_refl _), CacheJson.only_readsBack _ _, by rw [hsave], ?_⟩
  rintro ⟨hsaved, -⟩
  rw [hsave] at hsaved
  cases hsaved

/-- Without the line breaks the manifest is cached. -/
theorem manifest_is_cached : CachesPolicy ext (json manifest) .missing config manifest .UNIX_EPOCH loaded := by
  have hfetch : fetch_policy ext config none none (io manifest) = some (.ok (loaded, manifest)) := by
    simpa using fetch_padded (Nat.zero_le _)
  have htime : escapedLen "1970-01-01T00:00:00Z" ≤ 100 := by decide
  exact (fetched_policy_is_cached_iff .missing hfetch (CacheJson.only_readsBack _ _)).2 (manifest_fits htime)

end PaddedManifest

namespace EndOfTime

open PaddedManifest (ext config manifest payload)

/-- A cached manifest verified at the last representable instant. -/
def cache : CachedManifest := .of_document config manifest .MAX_UTC

def json : CacheJson := .only (fun _ => "+262142-12-31T23:59:59.999999999Z") cache

def file : CacheFile := .bytes (json.to_vec_pretty cache)

/-- A cache file with a late verification time makes the service panic. -/
theorem late_cache_panics : file.Holds json cache ∧ file.load ext json config = none := by
  have htime : escapedLen "+262142-12-31T23:59:59.999999999Z" ≤ 100 := by decide
  have hfits : FitsCache json config manifest .MAX_UTC := PaddedManifest.manifest_fits htime
  have hholds : file.Holds json cache := ⟨_, rfl, fitsCache_iff.1 hfits, CacheJson.only_readsBack _ _⟩
  have hopen : open_plain ext (Text.as_bytes manifest) = .ok payload := by
    simpa using PaddedManifest.open_padded (Nat.zero_le _)
  refine ⟨hholds, ?_⟩
  rw [CacheFile.load, CacheFile.read_eq_contents.2 hholds, ManagedPolicyCache.load_contents_eq_none,
    verify_document_eq_none]
  exact ⟨⟨rfl, rfl, rfl⟩, ⟨payload, false⟩, ⟨hopen, rfl⟩, rfl, by decide, by decide⟩

end EndOfTime

end ResticPal
