import ResticPal.Runtime.Effects
/-!
# Rejected changes

- `rejected_changes_nothing_iff`: a configuration change that is rejected leaves
  everything as it was, on disk and in memory, except where `records_alone` says.

A handler writes to up to three stores, in order, and takes back what it wrote
when a later write fails. `UpdateRepository` takes back the secrets it stored,
and nothing takes back what it wrote to `state.json` before `config.toml`.
-/

open Lib

namespace ResticPal

/-- The changes of the configuration: an edit or an `Unenroll` request, or the commit of an enrollment. -/
inductive ConfigurationChange where
  | request (command : RequestCommand) (elevated : Bool)
      (changes : command.is_edit = true ∨ command = .Unenroll)
  | commit (pending : PendingEnrollment)

/-- The runtime after a change, and whether the change was made. -/
def ConfigurationChange.run (ext : External) (runtime : ServiceRuntime) (io : RequestIo) :
    ConfigurationChange → ServiceRuntime × Bool
  | .request command elevated _ =>
    let handled := runtime.handle_request ext command elevated io
    (handled.1, handled.2.isAccepted)
  | .commit pending => commit_enrollment ext.parse_url runtime pending io

/-- A credential is stored or it is not, and one that is removed is gone. -/
structure RequestIo.AllOrNothing (io : RequestIo) : Prop where
  stored : ∀ i, (io.secrets i).write ≠ .storedUnprotected
  removed : ∀ reference, io.removed reference = true

/-- The request passes its checks, stores its secrets and writes `state.json`,
which did not ask for validation before, and cannot write `config.toml`. -/
def ServiceRuntime.records_alone (runtime : ServiceRuntime) (elevated : Bool) (io : RequestIo) : RequestCommand → Bool
  | .UpdateRepository display_name url mode options secret_updates =>
    match check_repository_edit runtime display_name url mode options secret_updates elevated io.now with
    | .error _ => false
    | .ok candidate =>
      let put := CredentialStore.put_all io.secrets 0 (runtime.credential_store.getD ∅) (stored_secrets secret_updates)
      (url.isSome || options.isSome || !secret_updates.isEmpty) && put.2.2 &&
        (edit_secrets candidate secret_updates put.2.1).effective.validate.isOk &&
        io.state_written && !io.config_written && runtime.config_store.isSome &&
        runtime.state_store.any (fun file =>
          file != .contents ⟨STATE_SCHEMA_VERSION, runtime.state.service_state.require_repository_validation⟩)
  | _ => false

def ConfigurationChange.records_alone (runtime : ServiceRuntime) (io : RequestIo) : ConfigurationChange → Bool
  | .request command elevated _ => runtime.records_alone elevated io command
  | .commit _ => false

/-! ## The handlers -/

section Handlers

variable {ext : External} {runtime : ServiceRuntime} {elevated : Bool} {io : RequestIo}

theorem save_state_absent {snapshot : ServiceStateSnapshot} {written : Bool} (h : runtime.state_store = none) :
    runtime.save_state snapshot written = some runtime := by
  simp only [ServiceRuntime.save_state, h]

theorem save_state_refused {snapshot : ServiceStateSnapshot} {file : StoredFile PersistedScheduleState}
    (h : runtime.state_store = some file) : runtime.save_state snapshot false = none := by
  simp [ServiceRuntime.save_state, h]

theorem save_state_written {snapshot : ServiceStateSnapshot} {file : StoredFile PersistedScheduleState}
    (h : runtime.state_store = some file) : runtime.save_state snapshot true =
      some { runtime with state_store := some (.contents ⟨STATE_SCHEMA_VERSION, snapshot⟩) } := by
  simp [ServiceRuntime.save_state, h]

/-- Only a repository edit can be rejected after it has written something. -/
theorem change_rejected {command : RequestCommand} (changes : command.is_edit = true ∨ command = .Unenroll)
    (hother : ∀ display_name url mode options secret_updates,
      command ≠ .UpdateRepository display_name url mode options secret_updates)
    (h : (runtime.handle_request ext command elevated io).2.isAccepted = false) :
    (runtime.handle_request ext command elevated io).1 = runtime := by
  have hhandled := handle_request_handled ext runtime command elevated io
  generalize runtime.handle_request ext command elevated io = after at hhandled h ⊢
  cases hhandled with
  | unchanged => rfl
  | unenrolled | sources | schedule | retention | settings => cases h
  | repository => exact absurd rfl (hother _ _ _ _ _)
  | _ => rcases changes with hc | hc <;> cases hc

theorem commit_enrollment_rejected {pending : PendingEnrollment} (hio : io.AllOrNothing)
    (h : (commit_enrollment ext.parse_url runtime pending io).2 = false) :
    (commit_enrollment ext.parse_url runtime pending io).1 = runtime := by
  revert h
  unfold commit_enrollment
  split
  · rename_i store config_store hstore hconfig
    simp only
    rw [(CredentialStore.put_all_spec io.secrets 0 store _).undo hio.stored hio.removed, ← hstore]
    split
    · exact fun _ => rfl
    · split
      · exact fun _ => rfl
      · split
        · exact fun _ => rfl
        · intro h
          cases h
  · exact fun _ => rfl

theorem save_config_cases (runtime : ServiceRuntime) (candidate : LocalConfig) (written : Bool) :
    (runtime.save_config candidate written = none ∧ runtime.config_store.isSome = true ∧ written = false) ∨
      ∃ saved, runtime.save_config candidate written = some saved ∧ (!written && runtime.config_store.isSome) = false := by
  unfold ServiceRuntime.save_config
  cases runtime.config_store with
  | none => exact .inr ⟨_, rfl, by simp⟩
  | some store =>
    cases written with
    | true => exact .inr ⟨_, rfl, rfl⟩
    | false => exact .inl ⟨rfl, rfl, rfl⟩

/-- The secrets an abandoned edit stored are gone. -/
theorem created_removed (runtime : ServiceRuntime) (hio : io.AllOrNothing) (secrets : List (String × Text.Bytes)) :
    runtime.credential_store.map (fun _ => CredentialStore.remove_all io.removed
      (CredentialStore.put_all io.secrets 0 (runtime.credential_store.getD ∅) secrets).1
      (CredentialStore.put_all io.secrets 0 (runtime.credential_store.getD ∅) secrets).2.1) =
      runtime.credential_store := by
  cases runtime.credential_store with
  | none => rfl
  | some store =>
    exact congrArg some ((CredentialStore.put_all_spec io.secrets 0 store secrets).undo hio.stored hio.removed)

theorem update_repository_rejected_iff {display_name url : Option String} {mode : Option RepositoryMode}
    {options : Option Options} {secret_updates : List RepositorySecretUpdate} (hio : io.AllOrNothing) :
    ((runtime.update_repository display_name url mode options secret_updates elevated io).2.isAccepted = false →
      (runtime.update_repository display_name url mode options secret_updates elevated io).1 = runtime) ↔
    runtime.records_alone elevated io (.UpdateRepository display_name url mode options secret_updates) = false := by
  unfold ServiceRuntime.update_repository ServiceRuntime.records_alone
  simp only
  cases check_repository_edit runtime display_name url mode options secret_updates elevated io.now with
  | error response => simp
  | ok candidate =>
    simp only [commit_repository, created_removed runtime hio]
    generalize CredentialStore.put_all io.secrets 0 (runtime.credential_store.getD ∅) (stored_secrets secret_updates) =
      put
    generalize (url.isSome || options.isSome || !secret_updates.isEmpty) = changed
    cases put.2.2 with
    | false => simp
    | true =>
      cases (edit_secrets candidate secret_updates put.2.1).effective.validate with
      | error e => simp [Except.isOk, Except.toBool]
      | ok u =>
        have hsaves (recorded : ServiceRuntime) := save_config_cases recorded
          (edit_secrets candidate secret_updates put.2.1).loc io.config_written
        cases changed with
        | false =>
          refine iff_of_true ?_ (by simp)
          simp only [Bool.false_eq_true, if_false, Bool.not_true]
          rcases hsaves runtime with ⟨hsave, -⟩ | ⟨saved, hsave, -⟩
          · rw [hsave]
            exact fun _ => rfl
          · rw [hsave]
            intro h
            cases h
        | true =>
          simp only [if_true, Bool.not_true, Bool.false_eq_true, if_false, Except.isOk, Except.toBool, Bool.true_and]
          rcases Option.eq_none_or_eq_some runtime.state_store with hs | ⟨file, hs⟩
          · refine iff_of_true ?_ (by simp [hs])
            rw [save_state_absent hs]
            rcases hsaves runtime with ⟨hsave, -⟩ | ⟨saved, hsave, -⟩
            · dsimp only
              rw [hsave]
              exact fun _ => rfl
            · dsimp only
              rw [hsave]
              intro h
              cases h
          · cases hw : io.state_written with
            | false =>
              refine iff_of_true ?_ (by simp)
              rw [save_state_refused hs]
              exact fun _ => rfl
            | true =>
              rw [save_state_written hs]
              rcases hsaves { runtime with state_store := some (.contents ⟨STATE_SCHEMA_VERSION,
                  runtime.state.service_state.require_repository_validation⟩) } with
                ⟨hsave, hc, hrefused⟩ | ⟨saved, hsave, hwritten⟩
              · dsimp only
                rw [hsave, hrefused, show runtime.config_store.isSome = true from hc, hs]
                simp only [Bool.not_false, Bool.true_and, Option.any_some, bne_eq_false_iff_eq]
                constructor
                · intro h
                  have hfile := congrArg ServiceRuntime.state_store (h rfl)
                  exact (Option.some.inj (hs.symm.trans hfile.symm))
                · rintro rfl -
                  rw [← hs]
              · refine iff_of_true ?_ ?_
                · dsimp only
                  rw [hsave]
                  intro h
                  cases h
                · have hwritten : (!io.config_written && runtime.config_store.isSome) = false := hwritten
                  rw [Bool.true_and, hwritten, Bool.false_and]

end Handlers

/-- A rejected change leaves everything as it was, exactly unless its request
replaces `state.json` and then cannot replace `config.toml`. -/
theorem rejected_changes_nothing_iff (ext : External) (runtime : ServiceRuntime) (io : RequestIo)
    (change : ConfigurationChange) (hio : io.AllOrNothing) :
    ((change.run ext runtime io).2 = false → (change.run ext runtime io).1 = runtime) ↔
      change.records_alone runtime io = false := by
  cases change with
  | commit pending => exact iff_of_true (commit_enrollment_rejected hio) rfl
  | request command elevated changes =>
    cases command with
    | UpdateRepository display_name url mode options secret_updates => exact update_repository_rejected_iff hio
    | _ => exact iff_of_true (@change_rejected ext runtime elevated io _ changes nofun) rfl

namespace ReadOnlyConfig

def loc : LocalConfig where
  repository := { url := some "D:\\home" }

def effective : EffectiveConfig where
  repository := { url := some "D:\\home" }

/-- The repository of `loc` is verified. -/
def verified : ServiceStateSnapshot := .mark_repository_verified {} effective .UNIX_EPOCH

def recorded : StoredFile PersistedScheduleState := .contents ⟨STATE_SCHEMA_VERSION, verified⟩

def runtime : ServiceRuntime :=
  from_resolved_with_state ⟨effective, none, ((choose_all {} loc none).run ∅).2⟩ loc verified ⟨none, .contents loc⟩
    (some ∅) recorded .missing .UNIX_EPOCH

theorem runtime_loads : load_with_credentials_and_policy External.inert.parse_url ⟨none, .contents loc⟩ (some ∅) recorded .missing
    none .UNIX_EPOCH = .ok runtime := by decide

/-- `config.toml` cannot be written. -/
def io : RequestIo := { RequestIo.quiet .UNIX_EPOCH with config_written := false }

theorem io_allOrNothing : io.AllOrNothing := ⟨fun _ h => (by cases h), fun _ => rfl⟩

def moves : ConfigurationChange :=
  .request (.UpdateRepository none (some "E:\\disk") none none []) true (.inl rfl)

/-- The move is rejected, and `state.json` no longer knows the repository that is still in use. -/
theorem rejected_move_forgets_verification :
    load_with_credentials_and_policy External.inert.parse_url ⟨none, .contents loc⟩ (some ∅) recorded .missing none .UNIX_EPOCH =
      .ok runtime ∧ io.AllOrNothing ∧ (moves.run .inert runtime io).2 = false ∧
    (moves.run .inert runtime io).1.state_store ≠ runtime.state_store ∧
    (moves.run .inert runtime io).1.state = runtime.state ∧
    (ScheduleStateStore.load recorded).map (·.repository_requires_validation effective) = some false ∧
    ((moves.run .inert runtime io).1.state_store.bind ScheduleStateStore.load).map
      (·.repository_requires_validation effective) = some true :=
  ⟨runtime_loads, io_allOrNothing, by decide, by decide, by decide, by decide, by decide⟩

def renames : ConfigurationChange :=
  .request (.UpdateRepository (some "Home") none none none []) true (.inl rfl)

theorem rejected_rename_changes_nothing :
    (renames.run .inert runtime io).2 = false ∧ (renames.run .inert runtime io).1 = runtime :=
  ⟨by decide, (rejected_changes_nothing_iff .inert runtime io renames io_allOrNothing).2 (by decide) (by decide)⟩

end ReadOnlyConfig

end ResticPal
