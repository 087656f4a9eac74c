import ResticPal.System.Steps
/-!
# Backups and the verified repository

Whether backups may run, which repository was last verified and which one is
configured are three parts of the state that about ten handlers change. They
agree in every run (`backups_use_verified_repository`) in which no
unenrollment returns to a repository other than the verified one: `unenroll`
alone installs a configuration without asking whether its repository has to be
validated. `ReturnedDevice` is a run in which that starts a backup into a
repository nobody has verified.
-/

open Lib

namespace ResticPal

/-- The repository the local configuration names by itself. -/
def LocalConfig.identity (loc : LocalConfig) : RepositoryIdentity where
  url := loc.repository.url
  options := loc.repository.options.getD ∅
  secret_refs := loc.repository.secret_refs.getD ∅

theorem resolve_unmanaged_identity {loc : LocalConfig} {resolved : ResolvedConfig}
    (h : resolve_config {} (unmanaged_config loc) none = .ok resolved) :
    RepositoryIdentity.from_config resolved.effective = loc.identity := by
  obtain ⟨-, -, -, -, hget, -⟩ := (resolve_config_eq_ok _ _ _).1 h
  have hu : resolved.effective.repository.url = loc.repository.url := by
    refine (hget .RepositoryUrl).trans ?_
    cases hl : loc.repository.url <;> simp [ResticPal.resolved, unmanaged_config, LocalConfig.get, managedField, choice,
      EffectiveConfig.get, hl]
  have ho : resolved.effective.repository.options = loc.repository.options.getD ∅ := by
    refine (hget .RepositoryOptions).trans ?_
    cases hl : loc.repository.options <;> simp [ResticPal.resolved, unmanaged_config, LocalConfig.get, managedField,
      choice, EffectiveConfig.get, hl]
  have hs : resolved.effective.repository.secret_refs = loc.repository.secret_refs.getD ∅ := by
    refine (hget .RepositorySecretRefs).trans ?_
    cases hl : loc.repository.secret_refs <;> simp [ResticPal.resolved, unmanaged_config, LocalConfig.get, managedField,
      choice, EffectiveConfig.get, hl]
  rw [RepositoryIdentity.from_config, LocalConfig.identity, hu, ho, hs]

/-- Where backups are allowed, the configured repository needs no validation. -/
def Verified (runtime : ServiceRuntime) : Prop :=
  repository_operation_allows_backup runtime.state.repository_operation = true →
    runtime.state.service_state.repository_requires_validation runtime.config = false

namespace Verified

variable {before after : ServiceRuntime}

theorem of_same (h : Verified before)
    (hi : RepositoryIdentity.from_config after.config = RepositoryIdentity.from_config before.config)
    (ho : after.state.activity.repository_operation = before.state.activity.repository_operation)
    (hv : after.state.service_state.verification = before.state.service_state.verification) : Verified after := by
  intro hallowed
  have ho : after.state.repository_operation = before.state.repository_operation := ho
  rw [ho] at hallowed
  rw [ServiceStateSnapshot.requires_validation_congr _ hv, ServiceStateSnapshot.requires_validation_identity hi]
  exact h hallowed

theorem of_not_allowed {status : RepositoryOperationStatus} (hs : repository_operation_allows_backup status = false)
    (ho : after.state.activity.repository_operation = status) : Verified after := by
  intro hallowed
  have ho : after.state.repository_operation = status := ho
  simp [ho, hs] at hallowed

/-- What is installed with a check for validation is verified, whatever was there before. -/
theorem of_revalidated {state : RuntimeState} (h : Revalidated after.config state after.state) : Verified after := by
  rcases h with ⟨hr, -, hs⟩ | ⟨ha, -⟩
  · intro _
    rw [hs]
    exact hr
  · exact of_not_allowed rfl (congrArg Activity.repository_operation ha)

theorem finish_enrollment {parse_url : String → Option Url} {io : RequestIo} {response : ResponsePayload}
    (h : Verified before) (hf : EnrollFinished parse_url before io after response) : Verified after := by
  cases hf with
  | failed _ same activity service_state =>
    exact h.of_same (by rw [same.config]) (by rw [activity]) (by rw [service_state])
  | committed _ _ committed =>
    obtain ⟨resolved, -, hcfg, -, hre⟩ := committed.resolved
    exact of_revalidated (hcfg ▸ hre)

end Verified

theorem from_resolved_verified {resolved : ResolvedConfig} {loc : LocalConfig} {service_state : ServiceStateSnapshot}
    {config_store : LocalConfigStore} {credential_store : Option CredentialStore}
    {state_store : StoredFile PersistedScheduleState} {policy_cache : ManagedPolicyCache} {now : DateTime} :
    Verified (from_resolved_with_state resolved loc service_state config_store credential_store state_store policy_cache
      now) := by
  intro hallowed
  cases hr : service_state.repository_requires_validation resolved.effective with
  | false => exact hr
  | true => simp [from_resolved_with_state, hr, repository_operation_allows_backup] at hallowed

namespace System

variable {ext : External} {s u : System} {l : Label}

/-- The request to leave management, where it is authorized. -/
def Label.unenrolls : Label → Option RequestIo
  | .request .Unenroll true io => some io
  | _ => none

/-- An unenrollment that goes through while backups are allowed leaves no
repository behind, or the verified one. -/
def LeavesVerified (s : System) (l : Label) : Prop :=
  ∀ io ∈ Label.unenrolls l, s.runtime.state.busy io.now = false → s.runtime.local_config.management.mode ≠ .Disabled →
    repository_operation_allows_backup s.runtime.state.repository_operation = true →
    s.runtime.local_config.repository.url = none ∨
      s.runtime.state.service_state.verification = (false, some s.runtime.local_config.identity)

theorem Verified.request {command : RequestCommand} {elevated : Bool} {io : RequestIo} {response : ResponsePayload}
    (h : Verified s.runtime) (hl : LeavesVerified s (.request command elevated io))
    (he : RequestEffect ext s.runtime command elevated io u.runtime response) : Verified u.runtime := by
  cases he with
  | kept same activity service_state =>
    exact h.of_same (by rw [same.config]) (by rw [activity]) (by rw [service_state])
  | began _ _ _ allows activity => exact .of_not_allowed allows (by rw [activity])
  | held same _ _ _ _ activity service_state =>
    exact h.of_same (by rw [same.config]) (by rw [activity]) (by rw [service_state])
  | edited _ _ _ _ _ _ _ _ connection =>
    rcases connection with ⟨hi, ha, hs⟩ | ⟨-, ha, -⟩
    · exact h.of_same hi (by rw [ha]) (by rw [hs])
    · exact .of_not_allowed rfl (by rw [ha])
  | unenrolled unenroll authorized busy managed resolves _ config _ _ activity service_state =>
    subst unenroll authorized
    intro hallowed
    have ho : u.runtime.state.repository_operation = s.runtime.state.repository_operation :=
      congrArg Activity.repository_operation activity
    have hi := resolve_unmanaged_identity resolves
    rw [ServiceStateSnapshot.not_requires_validation, service_state, config, hi]
    intro hsome
    rcases hl io rfl busy managed (ho ▸ hallowed) with hnone | hverified
    · have hurl := congrArg RepositoryIdentity.url hi
      simp only [RepositoryIdentity.from_config, LocalConfig.identity, hnone] at hurl
      simp [hurl] at hsome
    · exact Prod.mk.inj hverified
  | enrolled _ begins finished =>
    obtain ⟨hc, -, ha, hs⟩ := begin_enrollment_activity begins
    exact (h.of_same (by rw [hc.config]) (by rw [ha]) (by rw [hs])).finish_enrollment finished

theorem Verified.step (h : Verified s.runtime) (hsound : Sound s) (hl : LeavesVerified s l)
    (hs : step ext s l = some u) : Verified u.runtime := by
  cases step_effect hsound hs with
  | quiet same activity verification => exact h.of_same (by rw [same.config]) (by rw [activity]) verification
  | request _ effect => exact Verified.request h hl effect
  | beganEnroll begins =>
    obtain ⟨hc, -, ha, hv⟩ := begin_enrollment_activity begins
    exact h.of_same (by rw [hc.config]) (by rw [ha]) (by rw [hv])
  | finishedEnroll _ finished => exact h.finish_enrollment finished
  | appliedPolicy _ _ installed => exact .of_revalidated (installed.config ▸ installed.revalidated)
  | evaluated same evaluated service_state =>
    refine h.of_same (by rw [same.config]) ?_ (by rw [service_state])
    cases evaluated with
    | held _ activity => rw [activity]
    | idle _ activity => rw [activity]
    | started _ _ _ _ _ activity => rw [activity]
  | finishedUpdate _ same _ activity service_state =>
    exact h.of_same (by rw [same.config]) (by rw [activity]) (by rw [service_state])
  | finishedBackup same activity verification => exact h.of_same (by rw [same.config]) (by rw [activity]) verification
  | finishedRepository _ ended =>
    intro hallowed
    rw [ended.same_config.config]
    exact ended.verified hallowed

theorem Starts.verified (h : Starts ext s) : Verified s.runtime := by
  cases h with
  | loaded config_store credential_store state_store policy_cache load =>
    simp only [load_with_credentials_and_policy, bind_eq_ok, pure_eq_ok] at load
    obtain ⟨loc, -, resolved, -, rfl⟩ := load
    exact from_resolved_verified
  | configurationError => exact fun hallowed => by cases hallowed

/-- In every run whose unenrollments leave no repository but the verified one:
a repository that backups may use needs no validation, and an evaluation that
starts a backup does so into the recorded, verified repository. -/
theorem backups_use_verified_repository {s₀ : System} {ls : List Label} (h₀ : Starts ext s₀)
    (h : Run (step ext) LeavesVerified s₀ ls s) :
    (∀ operation completed_at, s.runtime.state.repository_operation = .Succeeded operation completed_at →
      s.runtime.config.repository.url.isSome →
      s.runtime.state.service_state.repository_requires_validation s.runtime.config = false) ∧
    ∀ now conditions after trigger, s.runtime.evaluate_schedule now conditions = some (after, .Start trigger) →
      s.runtime.state.service_state.verified_repository = some (RepositoryIdentity.from_config s.runtime.config) ∧
      s.runtime.state.service_state.repository_validation_required = false := by
  obtain ⟨hsound, hv⟩ : Sound s ∧ Verified s.runtime :=
    run_inv (fun s => Verified s.runtime) (fun _ _ _ hsound hi hl hs => Verified.step hi hsound hl hs) h₀ h₀.verified h
  refine ⟨fun operation completed_at ho _ => hv (by rw [ho]; rfl), fun now conditions after trigger he => ?_⟩
  obtain ⟨⟨state, action⟩, hsection, hstart⟩ := Option.map_eq_some_iff.1 he
  obtain ⟨-, rfl⟩ := Prod.mk.inj hstart
  cases evaluate_section_evaluated hsound.exclusive.restores hsection with
  | started _ configured _ allows _ _ =>
    have hurl : s.runtime.config.repository.url.isSome = true := (Bool.and_eq_true_iff.1 configured).1
    exact (ServiceStateSnapshot.not_requires_validation.1 (hv allows) hurl).symm

instance (s : System) (l : Label) : Decidable (LeavesVerified s l) :=
  inferInstanceAs (Decidable (∀ io ∈ Label.unenrolls l, _))

namespace ReturnedDevice

open OfficeServer (external management)
open HomeDevice (conditions password)

/-- A device of its own repository, managed by a policy that locks another one. -/
def loc : LocalConfig where
  backup := { paths := some [⟨"C:\\Users"⟩] }
  repository := { url := some "D:\\home", secret_refs := some password }
  management

def policy : ManagedPolicy :=
  { revision := "office", repository := { url := some { value := some "E:\\office", locked := true } } }

def effective : EffectiveConfig where
  backup := { paths := [⟨"C:\\Users"⟩] }
  repository := { url := some "E:\\office", secret_refs := password }

def started : System :=
  ⟨from_resolved_with_state ⟨effective, some "office", ((choose_all {} loc (some policy)).run ∅).2⟩ loc {}
    ⟨none, .contents loc⟩ none .missing .missing .UNIX_EPOCH, .UNIX_EPOCH, none, false, false, some policy⟩

theorem started_starts : Starts external started :=
  .loaded ⟨none, .contents loc⟩ none .missing .missing (by decide)

/-- The office's repository is validated. -/
def validates : List Label :=
  [.request .ValidateRepository true (.quiet .UNIX_EPOCH), .finishRepository .Validate .Succeeded .UNIX_EPOCH true]

def managed : Option System := runList (step external) LeavesVerified started validates

theorem managed_isSome : managed.isSome := by decide

/-- While the device is managed, a backup goes to the repository that was validated. -/
theorem managed_backup_is_verified : ∃ s ∈ managed,
    (s.runtime.evaluate_schedule .UNIX_EPOCH conditions).map (·.2) = some (.Start .Scheduled) ∧
    s.runtime.state.service_state.verified_repository = some (RepositoryIdentity.from_config s.runtime.config) ∧
    s.runtime.state.service_state.repository_validation_required = false := by
  have hs : ((managed.get managed_isSome).runtime.evaluate_schedule .UNIX_EPOCH conditions).map (·.2) =
      some (.Start .Scheduled) := by decide
  obtain ⟨⟨after, action⟩, he, rfl⟩ := Option.map_eq_some_iff.1 hs
  exact ⟨_, Option.get_mem managed_isSome, hs,
    (backups_use_verified_repository started_starts (.of_isSome managed_isSome)).2 _ _ _ _ he⟩

def returned : Option System :=
  runList (step external) (fun _ _ => True) started (validates ++ [.request .Unenroll true (.quiet .UNIX_EPOCH)])

theorem returned_isSome : returned.isSome := by decide

/-- Once it has left management, a backup goes to its own repository, which nobody has validated. -/
theorem returned_backup_is_unverified : ∃ s, Starts external started ∧
    Run (step external) (fun _ _ => True) started (validates ++ [.request .Unenroll true (.quiet .UNIX_EPOCH)]) s ∧
    s.runtime.state.repository_operation = .Succeeded .Validate .UNIX_EPOCH ∧
    s.runtime.config.repository.url = some "D:\\home" ∧
    s.runtime.state.service_state.repository_requires_validation s.runtime.config = true ∧
    (s.runtime.evaluate_schedule .UNIX_EPOCH conditions).map (·.2) = some (.Start .Scheduled) :=
  ⟨returned.get returned_isSome, started_starts, .of_isSome returned_isSome, by decide, by decide, by decide, by decide⟩

end ReturnedDevice

end System

end ResticPal
