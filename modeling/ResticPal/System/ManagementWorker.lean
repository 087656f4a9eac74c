import ResticPal.Lib.Runs
import ResticPal.Runtime.Enrollment
import ResticPal.Service.Management
/-!
# The management worker

`start_management_worker` and the part of `run_service` that loads a policy
(`resticpal-service/src/main.rs`), for the policies they write to the cache and
apply. A pass of the worker's loop is an activation, where the management
section is new to it, and then a refresh, where one is due. Reports to the
server change nothing here and are left out.

The worker refuses manifests older than its own counter, which only moves when a
policy has been applied, while the cache moves as soon as one is accepted.
`policy_never_rolls_back` is what holds as long as the counter is not behind
the cache; `BusyRuntime` is a run in which it is, and an older manifest replaces
a newer one.
-/

open Lib

namespace ResticPal

inductive ManagementRefreshOutcome where
  | Synchronized
  | RuntimeBusy
  | Failed
  deriving DecidableEq

/-- An `Instant`, in seconds. -/
abbrev Instant := Nat

def MANAGEMENT_BUSY_RETRY : Nat := 30

def management_refresh_delay (refresh_interval_minutes : UInt32) (outcome : ManagementRefreshOutcome)
    (consecutive_failures : UInt32) : Nat :=
  let configured := refresh_interval_minutes.toNat * 60
  match outcome with
  | .Synchronized => configured
  | .RuntimeBusy => MANAGEMENT_BUSY_RETRY
  | .Failed => min (60 * 2 ^ min (consecutive_failures.toNat - 1) 6) configured

/-- The worker's variables, as far as they concern policies. -/
structure ManagementWorker where
  sequence : UInt64
  source_identity : Option LocalManagementConfig
  next_refresh : Instant
  refresh_failures : UInt32

def ManagementWorker.new (now : Instant) : ManagementWorker := ⟨0, none, now, 0⟩

/-- What becomes of an accepted manifest. -/
inductive ManagementEvent where
  | written (document : String) (loaded : LoadedPolicy)
  | applied (loaded : LoadedPolicy)
  deriving DecidableEq

namespace ManagementEvent

def loaded : ManagementEvent → LoadedPolicy
  | .written _ loaded | .applied loaded => loaded

def document : ManagementEvent → Option String
  | .written document _ => some document
  | .applied _ => none

end ManagementEvent

/-- The cache and the worker, and, for the theorem, what has happened so far. -/
structure ManagementState where
  cache : ManagedPolicyCache
  worker : ManagementWorker
  events : List ManagementEvent

/-- What a load that returned a policy wrote to the cache. -/
def write_events (before after : ManagedPolicyCache) (loaded : LoadedPolicy) : List ManagementEvent :=
  if after = before then []
  else match after with
    | .contents cached => [.written cached.document loaded]
    | _ => []

/-- The result of trying to apply a policy: the counter, the outcome and what happened. -/
structure Attempt where
  sequence : UInt64
  outcome : ManagementRefreshOutcome
  events : List ManagementEvent

/-- `apply_managed_policy_if_current` and what the worker makes of its answer. -/
def attempt (sequence : UInt64) (loaded : LoadedPolicy) : Except PolicyError ManagedPolicyApplyOutcome → Attempt
  | .ok .Applied => ⟨loaded.sequence, .Synchronized, [.applied loaded]⟩
  | .ok .RuntimeBusy => ⟨sequence, .RuntimeBusy, []⟩
  | .ok .SourceChanged => ⟨sequence, .Synchronized, []⟩
  | .error _ => ⟨sequence, .Failed, []⟩

def failures_after (refresh_failures : UInt32) : ManagementRefreshOutcome → UInt32
  | .Failed => if refresh_failures = 4294967295 then refresh_failures else refresh_failures + 1
  | _ => 0

namespace ManagementState

variable (ext : External) (s : ManagementState)

/-- The worker after an attempt. -/
def attempted (cache : ManagedPolicyCache) (management : LocalManagementConfig) (refresh_failures : UInt32)
    (now : Instant) (writes : List ManagementEvent) (a : Attempt) : ManagementState :=
  let refresh_failures := failures_after refresh_failures a.outcome
  { cache
    worker := {
      sequence := a.sequence
      source_identity := some management
      next_refresh := now + management_refresh_delay management.refreshIntervalMinutes a.outcome refresh_failures
      refresh_failures }
    events := s.events ++ writes ++ a.events }

/-- `run_service`: the policy a service starts with, where it starts with one. -/
def start (loc : LocalConfig) (credentials : Option CredentialStore) (io : FetchIo) (installed : Bool) (now : Instant) :
    Option ManagementState :=
  (load_best_policy ext loc s.cache credentials io).map fun best =>
    { cache := best.1
      worker := .new now
      events := s.events ++ match best.2 with
        | .ok (some loaded) => write_events s.cache best.1 loaded ++ if installed then [.applied loaded] else []
        | _ => [] }

/-- The worker's answer to a management section it has not seen. -/
def activate (loc : LocalConfig) (credentials : Option CredentialStore) (io : FetchIo)
    (outcome : Except PolicyError ManagedPolicyApplyOutcome) (now : Instant) : Option ManagementState :=
  if loc.management.mode = .Disabled ∨ s.worker.source_identity = some loc.management then none
  else (load_best_policy ext loc s.cache credentials io).map fun best =>
    match best.2 with
    | .ok (some loaded) => s.attempted best.1 loc.management 0 now (write_events s.cache best.1 loaded)
        (attempt s.worker.sequence loaded outcome)
    | .ok none => s.attempted best.1 loc.management 0 now [] ⟨0, .Synchronized, []⟩
    | .error _ => s.attempted best.1 loc.management 0 now [] ⟨s.worker.sequence, .Failed, []⟩

def refresh (loc : LocalConfig) (credentials : Option CredentialStore) (io : FetchIo)
    (outcome : Except PolicyError ManagedPolicyApplyOutcome) (now : Instant) : Option ManagementState :=
  if loc.management.mode = .Disabled ∨ s.worker.source_identity ≠ some loc.management ∨
      now < s.worker.next_refresh then none
  else (refresh_policy ext loc s.cache s.worker.sequence credentials io).map fun refreshed =>
    match refreshed.2 with
    | .ok loaded =>
      s.attempted refreshed.1 loc.management s.worker.refresh_failures now (write_events s.cache refreshed.1 loaded)
        (if loaded.sequence > s.worker.sequence then attempt s.worker.sequence loaded outcome
          else ⟨s.worker.sequence, .Synchronized, []⟩)
    | .error _ => s.attempted refreshed.1 loc.management s.worker.refresh_failures now []
        ⟨s.worker.sequence, .Failed, []⟩

/-- A pass without management forgets the source. -/
def disable (loc : LocalConfig) : Option ManagementState :=
  if loc.management.mode = .Disabled then
    some { s with worker := { s.worker with source_identity := none, sequence := 0, refresh_failures := 0 } }
  else none

end ManagementState

inductive ManagementLabel where
  | start (loc : LocalConfig) (credentials : Option CredentialStore) (io : FetchIo) (installed : Bool) (now : Instant)
  | activate (loc : LocalConfig) (credentials : Option CredentialStore) (io : FetchIo)
      (outcome : Except PolicyError ManagedPolicyApplyOutcome) (now : Instant)
  | refresh (loc : LocalConfig) (credentials : Option CredentialStore) (io : FetchIo)
      (outcome : Except PolicyError ManagedPolicyApplyOutcome) (now : Instant)
  | disable (loc : LocalConfig)

namespace ManagementState

def step (ext : External) (s : ManagementState) : ManagementLabel → Option ManagementState
  | .start loc credentials io installed now => s.start ext loc credentials io installed now
  | .activate loc credentials io outcome now => s.activate ext loc credentials io outcome now
  | .refresh loc credentials io outcome now => s.refresh ext loc credentials io outcome now
  | .disable loc => s.disable loc

end ManagementState

/-! ## What a load leaves -/

/-- The fetch, for sequences from `minimum` on, brings this manifest, which is accepted and saved. -/
structure Saves (ext : External) (loc : LocalConfig) (minimum : Option UInt64) (io : FetchIo) (v : VerifiedManifest) :
    Prop where
  genuine : ∃ bytes, io.response = .ok bytes ∧ Genuine ext loc.management bytes v
  usable : Usable v io.fetched_at
  later : ∀ n ∈ minimum, n < v.payload.sequence
  fits : validate_effective_policy loc v.payload.policy = .ok ()
  write : io.write = .ok ()

/-- The sequence of the cached manifest, where there is one. -/
def ManagedPolicyCache.sequence (cache : ManagedPolicyCache) (ext : External) (management : LocalManagementConfig) :
    Option UInt64 :=
  (cache.load ext management).bind fun cached => cached.toOption.map (·.sequence)

/-- Loading a policy failed, came back with the cached one, or replaced that by a later one. -/
inductive PolicyLoad (ext : External) (management : LocalManagementConfig) (cache : ManagedPolicyCache) (io : FetchIo) :
    ManagedPolicyCache → Option LoadedPolicy → Prop
  | failed : PolicyLoad ext management cache io cache none
  | cached {loaded : LoadedPolicy} (load : cache.load ext management = some (.ok loaded)) :
      PolicyLoad ext management cache io cache (some loaded)
  | fetched {v : VerifiedManifest} {document : String} (genuine : Genuine ext management (Text.as_bytes document) v)
      (usable : Usable v io.fetched_at) (url : management.manifest_url.isSome)
      (window : InWindow v.payload io.saved_at v.signed)
      (later : ∀ cached, cache.load ext management = some (.ok cached) → cached.sequence < v.payload.sequence) :
      PolicyLoad ext management cache io (.contents {
        schema_version := CACHE_SCHEMA_VERSION, mode := management.mode
        source_url := management.manifest_url.getD "", verified_at := io.saved_at, document }) (some v.loaded)

section Loads

variable {ext : External} {loc : LocalConfig} {cache cache' : ManagedPolicyCache} {credentials : Option CredentialStore}
  {io : FetchIo}

/-- A manifest that is not accepted leaves the cache alone. -/
theorem accept_error {loaded : LoadedPolicy} {document : String} {e : ManagementError}
    (h : accept loc cache loaded document io = (cache', .error e)) : cache' = cache := by
  unfold accept at h
  split at h
  · exact (Prod.mk.inj h).1.symm
  · cases hw : io.write with
    | error e =>
      rw [ManagedPolicyCache.save, hw] at h
      exact (Prod.mk.inj h).1.symm
    | ok u =>
      rw [ManagedPolicyCache.save, hw] at h
      cases (Prod.mk.inj h).2

/-- Accepting a fetched manifest, where what is saved is in its window and later than the cached one. -/
theorem accept_load {minimum : Option UInt64} {fetched : LoadedPolicy} {document : String}
    {result : Except ManagementError LoadedPolicy}
    (hf : fetch_policy ext loc.management minimum credentials io = some (.ok (fetched, document)))
    (hne : ∀ n ∈ minimum, n ≠ fetched.sequence)
    (hk : ∀ v, Saves ext loc minimum io v → InWindow v.payload io.saved_at v.signed ∧
      ∀ cached, cache.load ext loc.management = some (.ok cached) → cached.sequence < v.payload.sequence)
    (h : accept loc cache fetched document io = (cache', result)) :
    PolicyLoad ext loc.management cache io cache' result.toOption := by
  cases result with
  | error e =>
    obtain rfl := accept_error h
    exact .failed
  | ok loaded =>
    obtain ⟨v, rfl, hg, hmin, hu, hurl, hresponse⟩ := fetch_policy_ok hf
    obtain ⟨hfits, hwrite, rfl, rfl⟩ := accept_ok_iff.1 h
    obtain ⟨hwindow, hlater⟩ := hk v ⟨⟨_, hresponse, hg⟩, hu,
      fun n hn => UInt64.lt_of_le_of_ne (hmin n hn) (hne n hn), hfits, hwrite⟩
    exact .fetched hg hu hurl hwindow hlater

theorem best_of_load {cached : Except ManagementError LoadedPolicy}
    {fetched : Except ManagementError (LoadedPolicy × String)} {result : Except ManagementError LoadedPolicy}
    (hc : cache.load ext loc.management = some cached)
    (hf : fetch_policy ext loc.management (cached.toOption.map (·.sequence)) credentials io = some fetched)
    (hw : ∀ v, Saves ext loc (cached.toOption.map (·.sequence)) io v → InWindow v.payload io.saved_at v.signed)
    (h : best_of loc cache cached fetched io = (cache', result)) :
    PolicyLoad ext loc.management cache io cache' result.toOption := by
  have kept {p : LoadedPolicy} (hp : cache.load ext loc.management = some (.ok p))
      (hk : (cache, (validate_effective_policy loc p.policy).map (fun _ => p)) = (cache', result)) :
      PolicyLoad ext loc.management cache io cache' result.toOption := by
    obtain ⟨rfl, rfl⟩ := Prod.mk.inj hk
    cases validate_effective_policy loc p.policy with
    | error e => exact .failed
    | ok u => exact .cached hp
  cases fetched with
  | error e =>
    cases cached with
    | error e' =>
      obtain ⟨rfl, rfl⟩ := Prod.mk.inj h
      exact .failed
    | ok p => exact kept hc h
  | ok fetched =>
    obtain ⟨p, document⟩ := fetched
    cases cached with
    | error e =>
      refine accept_load hf nofun (fun v hsaves => ⟨hw v hsaves, fun cached hcached => ?_⟩) h
      rw [hc] at hcached
      cases hcached
    | ok q =>
      simp only [best_of] at h
      split at h
      · exact kept hc h
      · rename_i hne
        refine accept_load hf (fun n hn => ?_) (fun v hsaves => ⟨hw v hsaves, fun cached hcached => ?_⟩) h
        · obtain rfl := Option.some.inj hn
          exact hne
        · obtain rfl : q = cached := by simpa [hc] using hcached
          exact hsaves.later _ rfl

theorem load_best_policy_load {result : Except ManagementError (Option LoadedPolicy)}
    (hw : ∀ v, Saves ext loc (cache.sequence ext loc.management) io v → InWindow v.payload io.saved_at v.signed)
    (h : load_best_policy ext loc cache credentials io = some (cache', result)) :
    PolicyLoad ext loc.management cache io cache' result.toOption.join := by
  unfold load_best_policy at h
  split at h
  · cases h
    exact .failed
  · split at h
    · cases h
      exact .failed
    · obtain ⟨cached, hc, h⟩ := Option.bind_eq_some_iff.1 h
      obtain ⟨fetched, hf, h⟩ := Option.bind_eq_some_iff.1 h
      cases hbest : best_of loc cache cached fetched io with
      | mk after best =>
        simp only [hbest] at h
        obtain ⟨rfl, rfl⟩ := Prod.mk.inj (Option.some.inj h)
        rw [ManagedPolicyCache.sequence, hc] at hw
        have hload := best_of_load hc hf hw hbest
        cases best <;> exact hload

/-- A refresh whose counter is not behind the cache when it saves; what it returns at the counter itself is not used. -/
theorem refresh_policy_load {minimum : UInt64} {result : Except ManagementError LoadedPolicy}
    (hk : ∀ v, Saves ext loc (some minimum) io v → InWindow v.payload io.saved_at v.signed ∧
      ∀ cached, cache.load ext loc.management = some (.ok cached) → cached.sequence ≤ minimum)
    (h : refresh_policy ext loc cache minimum credentials io = some (cache', result)) :
    PolicyLoad ext loc.management cache io cache' result.toOption ∨
      cache' = cache ∧ ∃ loaded, result = .ok loaded ∧ loaded.sequence = minimum := by
  obtain ⟨fetched, hf, h⟩ := Option.map_eq_some_iff.1 h
  cases fetched with
  | error e =>
    obtain ⟨rfl, rfl⟩ := Prod.mk.inj h
    exact .inl .failed
  | ok fetched =>
    obtain ⟨loaded, document⟩ := fetched
    dsimp only at h
    split at h
    · rename_i heq
      obtain ⟨rfl, rfl⟩ := Prod.mk.inj h
      exact .inr ⟨rfl, loaded, rfl, by simpa using heq⟩
    · rename_i hne
      refine .inl (accept_load hf (fun n hn heq => hne ?_) (fun v hsaves => ⟨(hk v hsaves).1, fun cached hcached => ?_⟩) h)
      · obtain rfl := Option.some.inj hn
        simp [heq]
      · exact UInt64.lt_of_le_of_lt ((hk v hsaves).2 cached hcached) (hsaves.later _ rfl)

end Loads

/-! ## No step back -/

/-- `e'` is about a later manifest than `e`, or about the same one. -/
def Follows (e e' : ManagementEvent) : Prop :=
  e.loaded.sequence < e'.loaded.sequence ∨
    e'.loaded = e.loaded ∧ ∀ d ∈ e.document, ∀ d' ∈ e'.document, d' = d

theorem Follows.of_written {e e' : ManagementEvent} {document : String} {loaded : LoadedPolicy}
    (h : Follows e (.written document loaded)) (hl : e'.loaded = loaded) (hd : ∀ d ∈ e'.document, d = document) :
    Follows e e' := by
  subst hl
  rcases h with hlt | ⟨hsame, hdoc⟩
  · exact .inl hlt
  · exact .inr ⟨hsame, fun d he d' he' => (hd d' he').trans (hdoc d he document rfl)⟩

section Floor

variable (ext : External) (management : LocalManagementConfig)

/-- The cache loads, and this is the document it loads from. -/
def Holding (cache : ManagedPolicyCache) (document : String) (loaded : LoadedPolicy) : Prop :=
  cache.load ext management = some (.ok loaded) ∧ ∃ cached, cache = .contents cached ∧ cached.document = document

/-- Nothing has stepped back, and nothing is ahead of the cache. -/
structure NoStepBack (cache : ManagedPolicyCache) (events : List ManagementEvent) : Prop where
  ordered : events.Pairwise Follows
  held : ∀ e ∈ events, ∃ document loaded, Holding ext management cache document loaded ∧
    Follows e (.written document loaded)

/-- The steps of one management source: what is saved is still in its window then,
and a refresh that saves has a counter that is not behind the cache. -/
def KeepsFloor (s : ManagementState) : ManagementLabel → Prop
  | .start loc _ io _ _ | .activate loc _ io _ _ => loc.management = management ∧
      ∀ v, Saves ext loc (s.cache.sequence ext management) io v → InWindow v.payload io.saved_at v.signed
  | .refresh loc _ io _ _ => loc.management = management ∧
      ∀ v, Saves ext loc (some s.worker.sequence) io v → InWindow v.payload io.saved_at v.signed ∧
        ∀ cached, s.cache.load ext management = some (.ok cached) → cached.sequence ≤ s.worker.sequence
  | .disable loc => loc.management = management

variable {ext management} {cache cache' : ManagedPolicyCache} {events : List ManagementEvent} {io : FetchIo}
  {document : String} {p : LoadedPolicy}

theorem Holding.unique {document' : String} {p' : LoadedPolicy} (h : Holding ext management cache document p)
    (h' : Holding ext management cache document' p') : document' = document ∧ p' = p := by
  obtain ⟨hl, cached, rfl, rfl⟩ := h
  obtain ⟨hl', cached', hc, rfl⟩ := h'
  obtain rfl : cached = cached' := by simpa using hc
  exact ⟨rfl, by simpa [hl] using hl'.symm⟩

theorem holding_of_load (h : cache.load ext management = some (.ok p)) :
    ∃ document, Holding ext management cache document p := by
  cases cache with
  | contents cached => exact ⟨cached.document, h, cached, rfl, rfl⟩
  | _ => cases h

/-- What a fetch puts in the cache can be loaded from it. -/
theorem holding_of_fetched {v : VerifiedManifest} (hg : Genuine ext management (Text.as_bytes document) v)
    (hu : Usable v io.fetched_at) (hurl : management.manifest_url.isSome)
    (hw : InWindow v.payload io.saved_at v.signed) :
    Holding ext management (.contents {
      schema_version := CACHE_SCHEMA_VERSION, mode := management.mode
      source_url := management.manifest_url.getD "", verified_at := io.saved_at, document }) document v.loaded := by
  refine ⟨?_, _, rfl, rfl⟩
  have hverify : verify_document ext management (Text.as_bytes document) io.saved_at none = some (.ok v) :=
    verify_document_eq_ok.2 ⟨hg, nofun, hu.schema, hu.positive, hw⟩
  obtain ⟨url, hurl⟩ := Option.isSome_iff_exists.1 hurl
  simp [ManagedPolicyCache.load, hurl, hverify, Except.map]

namespace NoStepBack

/-- The cache moves on to a later manifest. -/
theorem advance (h : NoStepBack ext management cache events) (hh : Holding ext management cache' document p)
    (hlater : ∀ cached, cache.load ext management = some (.ok cached) → cached.sequence < p.sequence) :
    NoStepBack ext management cache' events := by
  refine ⟨h.ordered, fun e he => ⟨document, p, hh, .inl ?_⟩⟩
  obtain ⟨document', p', hheld, hfollows⟩ := h.held e he
  have hlt : p'.sequence < p.sequence := hlater p' hheld.1
  rcases hfollows with hlt' | ⟨hsame, -⟩
  · exact UInt64.lt_trans hlt' hlt
  · have hsame : p' = e.loaded := hsame
    exact hsame ▸ hlt

/-- The manifest in the cache is written or applied. -/
theorem snoc (h : NoStepBack ext management cache events) (hh : Holding ext management cache document p)
    {e : ManagementEvent} (hl : e.loaded = p) (hd : ∀ d ∈ e.document, d = document) :
    NoStepBack ext management cache (events ++ [e]) := by
  have hself : Follows e (.written document p) :=
    .inr ⟨hl.symm, fun d he d' he' => by rw [hd d he]; exact (Option.some.inj he').symm⟩
  refine ⟨List.pairwise_append.2 ⟨h.ordered, List.pairwise_singleton _ _, fun e₁ he₁ e₂ he₂ => ?_⟩, fun e' he' => ?_⟩
  · obtain rfl := List.mem_singleton.1 he₂
    obtain ⟨document', p', hheld, hfollows⟩ := h.held e₁ he₁
    obtain ⟨rfl, rfl⟩ := hh.unique hheld
    exact hfollows.of_written hl hd
  · rcases List.mem_append.1 he' with he' | he'
    · exact h.held e' he'
    · obtain rfl := List.mem_singleton.1 he'
      exact ⟨document, p, hh, hself⟩

theorem applied (h : NoStepBack ext management cache events) (hh : Holding ext management cache document p)
    (applied : Bool) : NoStepBack ext management cache (events ++ if applied then [.applied p] else []) := by
  cases applied with
  | false => simpa using h
  | true => exact h.snoc hh rfl nofun

end NoStepBack

/-- What a load adds to the events. -/
def load_events (before after : ManagedPolicyCache) (loaded : Option LoadedPolicy) (applied : Bool) :
    List ManagementEvent :=
  loaded.elim [] fun p => write_events before after p ++ if applied then [.applied p] else []

theorem NoStepBack.load {loaded : Option LoadedPolicy} (h : NoStepBack ext management cache events)
    (hl : PolicyLoad ext management cache io cache' loaded) (applied : Bool) :
    NoStepBack ext management cache' (events ++ load_events cache cache' loaded applied) := by
  cases hl with
  | failed => simpa [load_events] using h
  | cached load =>
    obtain ⟨document, hh⟩ := holding_of_load load
    simpa [load_events, write_events] using h.applied hh applied
  | fetched genuine usable url window later =>
    have hh := holding_of_fetched genuine usable url window
    have hwritten := (h.advance hh later).snoc hh (e := .written _ _) rfl (fun d hd => (Option.some.inj hd).symm)
    rw [load_events, Option.elim_some, ← List.append_assoc]
    refine NoStepBack.applied ?_ hh applied
    unfold write_events
    split
    · simpa using h.advance hh later
    · exact hwritten

/-- A load never takes the cache back. -/
theorem PolicyLoad.cached_le {loaded : Option LoadedPolicy} (hl : PolicyLoad ext management cache io cache' loaded)
    (hc : cache.load ext management = some (.ok p)) :
    ∃ p', cache'.load ext management = some (.ok p') ∧ (p.sequence < p'.sequence ∨ p' = p) := by
  cases hl with
  | failed => exact ⟨p, hc, .inr rfl⟩
  | cached => exact ⟨p, hc, .inr rfl⟩
  | fetched genuine usable url window later =>
    exact ⟨_, (holding_of_fetched genuine usable url window).1, .inl (later p hc)⟩

end Floor

namespace ManagementState

variable {ext : External} {management : LocalManagementConfig} {s u : ManagementState} {l : ManagementLabel}

theorem attempt_events (sequence : UInt64) (loaded : LoadedPolicy)
    (outcome : Except PolicyError ManagedPolicyApplyOutcome) :
    ∃ applied : Bool, (attempt sequence loaded outcome).events = if applied then [.applied loaded] else [] := by
  unfold attempt
  split
  · exact ⟨true, rfl⟩
  all_goals exact ⟨false, rfl⟩

/-- Every step is a load, or touches neither the cache nor the events. -/
theorem step_load (hk : KeepsFloor ext management s l) (hs : step ext s l = some u) :
    (u.cache = s.cache ∧ u.events = s.events) ∨
      ∃ io loaded applied, PolicyLoad ext management s.cache io u.cache loaded ∧
        u.events = s.events ++ load_events s.cache u.cache loaded applied := by
  cases l with
  | start loc credentials io installed now =>
    obtain ⟨rfl, hw⟩ := hk
    obtain ⟨⟨cache, result⟩, hbest, rfl⟩ := Option.map_eq_some_iff.1 hs
    refine .inr ⟨io, _, installed, load_best_policy_load hw hbest, ?_⟩
    rcases result with _ | _ | _ <;> rfl
  | activate loc credentials io outcome now =>
    obtain ⟨rfl, hw⟩ := hk
    simp only [step, activate] at hs
    split at hs
    · cases hs
    · obtain ⟨⟨cache, result⟩, hbest, rfl⟩ := Option.map_eq_some_iff.1 hs
      have hload := load_best_policy_load hw hbest
      rcases result with e | _ | p
      · exact .inr ⟨io, none, false, hload, by simp [attempted, load_events]⟩
      · exact .inr ⟨io, none, false, hload, by simp [attempted, load_events]⟩
      · obtain ⟨applied, ha⟩ := attempt_events s.worker.sequence p outcome
        exact .inr ⟨io, some p, applied, hload, by simp [attempted, load_events, ha]⟩
  | refresh loc credentials io outcome now =>
    obtain ⟨rfl, hfloor⟩ := hk
    simp only [step, refresh] at hs
    split at hs
    · cases hs
    · obtain ⟨⟨cache, result⟩, hrefreshed, rfl⟩ := Option.map_eq_some_iff.1 hs
      rcases refresh_policy_load hfloor hrefreshed with hload | ⟨rfl, p, rfl, hp⟩
      · cases result with
        | error e => exact .inr ⟨io, none, false, hload, by simp [attempted, load_events]⟩
        | ok p =>
          dsimp only
          split
          · obtain ⟨applied, ha⟩ := attempt_events s.worker.sequence p outcome
            exact .inr ⟨io, some p, applied, hload, by simp [attempted, load_events, ha]⟩
          · exact .inr ⟨io, some p, false, hload, by simp [attempted, load_events]⟩
      · have hnot : ¬ p.sequence > s.worker.sequence := by
          rw [hp]
          exact UInt64.lt_irrefl _
        exact .inl ⟨rfl, by simp [attempted, write_events, hnot]⟩
  | disable loc =>
    simp only [step, disable] at hs
    split at hs
    · cases hs
      exact .inl ⟨rfl, rfl⟩
    · cases hs

theorem step_noStepBack (h : NoStepBack ext management s.cache s.events) (hk : KeepsFloor ext management s l)
    (hs : step ext s l = some u) : NoStepBack ext management u.cache u.events := by
  rcases step_load hk hs with ⟨hc, he⟩ | ⟨io, loaded, applied, hl, he⟩
  · rw [hc, he]
    exact h
  · rw [he]
    exact h.load hl applied

/-- The cache holds a manifest later than `p`, or `p` itself. -/
def AtLeast (ext : External) (management : LocalManagementConfig) (p : LoadedPolicy) (s : ManagementState) : Prop :=
  ∃ p', s.cache.load ext management = some (.ok p') ∧ (p.sequence < p'.sequence ∨ p' = p)

theorem step_atLeast {p : LoadedPolicy} (h : AtLeast ext management p s) (hk : KeepsFloor ext management s l)
    (hs : step ext s l = some u) : AtLeast ext management p u := by
  obtain ⟨p', hc, hp⟩ := h
  rcases step_load hk hs with ⟨hsame, -⟩ | ⟨io, loaded, applied, hl, -⟩
  · exact ⟨p', by rw [hsame]; exact hc, hp⟩
  · obtain ⟨q, hq, hle⟩ := hl.cached_le hc
    refine ⟨q, hq, ?_⟩
    rcases hle with hlt | rfl
    · rcases hp with hlt' | rfl
      · exact .inl (UInt64.lt_trans hlt' hlt)
      · exact .inl hlt
    · exact hp

/-- In every run of service starts and worker passes for one management source,
in which the worker's counter is not behind the cache at any refresh that saves
and what is saved is still in its window: of any two manifests written or applied, the
second is later than the first or the same, document and policy; and what the
cache holds is only ever replaced by something later. -/
theorem policy_never_rolls_back {s₀ : ManagementState} {ls : List ManagementLabel} (h₀ : s₀.events = [])
    (h : Run (step ext) (KeepsFloor ext management) s₀ ls s) :
    s.events.Pairwise Follows ∧
      ∀ ls' u p, Run (step ext) (KeepsFloor ext management) s ls' u → s.cache.load ext management = some (.ok p) →
        ∃ p', u.cache.load ext management = some (.ok p') ∧ (p.sequence < p'.sequence ∨ p' = p) := by
  refine ⟨?_, fun ls' u p hu hp => ?_⟩
  · have hinv : NoStepBack ext management s.cache s.events := by
      refine h.inv (fun s => NoStepBack ext management s.cache s.events) (fun _ _ _ hi hk hs => step_noStepBack hi hk hs) ?_
      rw [h₀]
      exact ⟨.nil, by simp⟩
    exact hinv.ordered
  · exact hu.inv (AtLeast ext management p) (fun _ _ _ hi hk hs => step_atLeast hi hk hs) ⟨p, hp, .inr rfl⟩

namespace BusyRuntime

open MisfitManifest (manifest document bytes loc)

def serves (document : Text.Bytes) : FetchIo := MisfitManifest.io document

def started : ManagementState := ⟨.missing, .new 0, []⟩

def offline : ManagementLabel := .start loc none { serves [] with response := .error "offline" } true 0

/-- A later manifest is accepted while a backup runs, and the next refresh gets an earlier one. -/
def busy : List ManagementLabel :=
  [offline, .activate loc none (serves (bytes 13 24)) (.ok .RuntimeBusy) 1,
    .refresh loc none (serves (bytes 12 24)) (.ok .Applied) 1000]

def rolledBack : Option ManagementState := runList (step MisfitManifest.ext) (fun _ _ => True) started busy

theorem rolledBack_events : rolledBack.map (·.events) = some [.written (document 13 24) ⟨(manifest 13 24).policy, 13⟩,
    .written (document 12 24) ⟨(manifest 12 24).policy, 12⟩, .applied ⟨(manifest 12 24).policy, 12⟩] := by decide +kernel

theorem older_policy_replaces_newer : ∃ s, Run (step MisfitManifest.ext) (fun _ _ => True) started busy s ∧
    s.events = [.written (document 13 24) ⟨(manifest 13 24).policy, 13⟩,
      .written (document 12 24) ⟨(manifest 12 24).policy, 12⟩, .applied ⟨(manifest 12 24).policy, 12⟩] ∧
    ¬ s.events.Pairwise Follows := by
  obtain ⟨s, hs, hevents⟩ := Option.map_eq_some_iff.1 rolledBack_events
  refine ⟨s, .of_runList hs, hevents, fun hordered => ?_⟩
  rw [hevents, List.pairwise_cons] at hordered
  rcases hordered.1 _ List.mem_cons_self with hlt | ⟨hsame, -⟩
  · exact absurd hlt (by decide)
  · exact absurd hsame (by decide)

/-! A runtime that is never busy keeps the counter and the cache together. -/

def activates : ManagementLabel := .activate loc none (serves (bytes 12 24)) (.ok .Applied) 1

def refreshes : ManagementLabel := .refresh loc none (serves (bytes 13 24)) (.ok .Applied) 1000

def loaded : ManagementState := (step MisfitManifest.ext started offline).get (by decide)

def activated : ManagementState := (step MisfitManifest.ext loaded activates).get (by decide +kernel)

def refreshed : ManagementState := (step MisfitManifest.ext activated refreshes).get (by decide +kernel)

theorem loaded_run :
    Run (step MisfitManifest.ext) (KeepsFloor MisfitManifest.ext loc.management) started [offline] loaded := by
  refine .snoc .nil ⟨rfl, fun v hsaves => ?_⟩ (Option.some_get _).symm
  obtain ⟨bytes, hr, -⟩ := hsaves.genuine
  cases hr

theorem activated_run : Run (step MisfitManifest.ext) (KeepsFloor MisfitManifest.ext loc.management) started
    [offline, activates] activated :=
  .snoc loaded_run ⟨rfl, fun _ hsaves => hsaves.usable.window⟩ (Option.some_get _).symm

theorem activated_level : (activated.cache.load MisfitManifest.ext loc.management, activated.worker.sequence) =
    (some (.ok ⟨(manifest 12 24).policy, 12⟩), 12) := by decide +kernel

theorem refreshed_run : Run (step MisfitManifest.ext) (KeepsFloor MisfitManifest.ext loc.management) started
    [offline, activates, refreshes] refreshed := by
  refine .snoc activated_run ⟨rfl, fun _ hsaves => ⟨hsaves.usable.window, fun cached hload => ?_⟩⟩ (Option.some_get _).symm
  obtain ⟨hcache, hsequence⟩ := Prod.mk.inj activated_level
  rw [hcache] at hload
  cases hload
  rw [hsequence]
  exact UInt64.le_refl 12

theorem prompt_policies_advance : refreshed.events.length = 4 ∧ refreshed.events.Pairwise Follows :=
  ⟨by decide +kernel, (policy_never_rolls_back rfl refreshed_run).1⟩

end BusyRuntime

end ManagementState

end ResticPal
