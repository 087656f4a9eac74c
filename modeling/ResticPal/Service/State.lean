import ResticPal.Core.Config
import ResticPal.Rust.Time
import ResticPal.Service.Store
/-!
# Service state

`resticpal-service/src/state.rs`: what survives a restart, and when a
repository must be validated before backups may use it.
-/

open Lib

namespace ResticPal

def STATE_SCHEMA_VERSION : UInt32 := 2

/-- What a repository connection is: the address, its options and the credentials for it. -/
structure RepositoryIdentity where
  url : Option String
  options : Options
  secret_refs : SecretRefs
  deriving DecidableEq

def RepositoryIdentity.from_config (config : EffectiveConfig) : RepositoryIdentity where
  url := config.repository.url
  options := config.repository.options
  secret_refs := config.repository.secret_refs

structure ServiceStateSnapshot where
  last_success : Option DateTime := none
  last_retention : Option DateTime := none
  last_prune : Option DateTime := none
  last_retention_error : Option String := none
  repository_validation_required : Bool := false
  verified_repository : Option RepositoryIdentity := none
  verified_at : Option DateTime := none
  deriving DecidableEq

namespace ServiceStateSnapshot

def repository_requires_validation (state : ServiceStateSnapshot) (config : EffectiveConfig) : Bool :=
  config.repository.url.isSome && (state.repository_validation_required ||
    state.verified_repository.all (fun verified => verified != RepositoryIdentity.from_config config))

def require_repository_validation (state : ServiceStateSnapshot) : ServiceStateSnapshot :=
  { state with repository_validation_required := true, verified_repository := none, verified_at := none }

def mark_repository_verified (state : ServiceStateSnapshot) (config : EffectiveConfig) (completed_at : DateTime) :
    ServiceStateSnapshot :=
  { state with
    repository_validation_required := false
    verified_repository := some (RepositoryIdentity.from_config config)
    verified_at := some completed_at }

def repository_verified_at (state : ServiceStateSnapshot) (config : EffectiveConfig) : Option DateTime :=
  if state.repository_requires_validation config then none else state.verified_at

/-- What the snapshot records about the repository. -/
def verification (state : ServiceStateSnapshot) : Bool × Option RepositoryIdentity :=
  (state.repository_validation_required, state.verified_repository)

theorem requires_validation_congr {state state' : ServiceStateSnapshot} (config : EffectiveConfig)
    (h : state'.verification = state.verification) :
    state'.repository_requires_validation config = state.repository_requires_validation config := by
  obtain ⟨hr, hv⟩ := Prod.mk.inj h
  unfold repository_requires_validation
  rw [hr, hv]

/-- Only the connection decides whether a configuration needs validation. -/
theorem requires_validation_identity {state : ServiceStateSnapshot} {c d : EffectiveConfig}
    (h : RepositoryIdentity.from_config c = RepositoryIdentity.from_config d) :
    state.repository_requires_validation c = state.repository_requires_validation d := by
  have hu : c.repository.url = d.repository.url := congrArg RepositoryIdentity.url h
  unfold repository_requires_validation
  rw [h, hu]

/-- No validation outstanding: there is no repository, or it is the verified one. -/
theorem not_requires_validation {state : ServiceStateSnapshot} {config : EffectiveConfig} :
    state.repository_requires_validation config = false ↔ (config.repository.url.isSome →
      state.repository_validation_required = false ∧
        state.verified_repository = some (RepositoryIdentity.from_config config)) := by
  unfold repository_requires_validation
  cases state.verified_repository <;> cases config.repository.url.isSome <;> simp

@[simp] theorem mark_repository_verified_requires (state : ServiceStateSnapshot) (config : EffectiveConfig)
    (t : DateTime) : (state.mark_repository_verified config t).repository_requires_validation config = false :=
  not_requires_validation.2 fun _ => ⟨rfl, rfl⟩

end ServiceStateSnapshot

/-- `PersistedScheduleState`: the snapshot with its schema version. -/
structure PersistedScheduleState where
  schema_version : UInt32
  snapshot : ServiceStateSnapshot
  deriving DecidableEq

/-- `ScheduleStateStore::load`; `none` stands for each of its errors. -/
def ScheduleStateStore.load : StoredFile PersistedScheduleState → Option ServiceStateSnapshot
  | .missing => some {}
  | .contents state =>
    if state.schema_version = 1 ∨ state.schema_version = STATE_SCHEMA_VERSION then some state.snapshot else none
  | _ => none

end ResticPal
