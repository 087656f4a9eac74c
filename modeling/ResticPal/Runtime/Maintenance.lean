import ResticPal.Runtime.Activity
import ResticPal.Runtime.Timing
/-!
# Retention and the result of the backup

A retention pass follows a backup that succeeded, and `finish_retention` turns the
outcome of the backup into the one that `finish_backup` records.

- `finish_retention_outcome`: the outcome is kept, or gets a warning.
- `maintenance_keeps_backup_result`: what the pass can and cannot change about the
  backup, and when the times and the failure counter move.
-/

namespace ResticPal

def RetentionOutcomeKind.complete : RetentionOutcomeKind → Bool
  | .Succeeded _ => true
  | _ => false

/-- `state.json` cannot be written. -/
def ServiceRuntime.save_fails (runtime : ServiceRuntime) (written : Bool) : Bool := runtime.state_store.isSome && !written

theorem save_state_isNone (runtime : ServiceRuntime) (snapshot : ServiceStateSnapshot) (written : Bool) :
    (runtime.save_state snapshot written).isNone = runtime.save_fails written := by
  unfold ServiceRuntime.save_state ServiceRuntime.save_fails
  cases runtime.state_store with
  | none => rfl
  | some file =>
    cases written with
    | true => rfl
    | false => rfl

/-! ## Warnings -/

section Warning

variable (backup : BackupOutcome) (code : String)

/-- A warning changes the kind and the code of a success only. -/
theorem with_warning_details : (backup.with_warning code).summary = backup.summary ∧
    (backup.with_warning code).failed_items = backup.failed_items ∧
    (backup.with_warning code).failed_items_omitted = backup.failed_items_omitted := by
  unfold BackupOutcome.with_warning
  split
  · exact ⟨rfl, rfl, rfl⟩
  · exact ⟨rfl, rfl, rfl⟩

theorem with_warning_code {old : String} (h : backup.warning_code = some old) :
    (backup.with_warning code).warning_code = some old := by
  unfold BackupOutcome.with_warning
  split
  · exact congrArg (Option.or · (some code)) h
  · exact h

theorem with_warning_kind : (backup.with_warning code).kind =
    if backup.kind.succeeded then .SucceededWithWarnings else backup.kind := by
  unfold BackupOutcome.with_warning
  split
  · rfl
  · rfl

end Warning

/-! ## The pass -/

section Pass

variable (runtime : ServiceRuntime) (backup : BackupOutcome) (kind : RetentionOutcomeKind) (now : DateTime) (written : Bool)

/-- The outcome is kept exactly when the pass is complete and recorded. -/
theorem finish_retention_outcome : ∃ code, (runtime.finish_retention backup kind now written).2 =
    if kind.complete && !runtime.save_fails written then backup else backup.with_warning code := by
  unfold ServiceRuntime.finish_retention
  dsimp only
  rw [save_state_isNone]
  cases kind with
  | Succeeded pruned =>
    refine ⟨"retention_state_save_failed", ?_⟩
    show (if runtime.save_fails written = true then _ else _) = _
    cases runtime.save_fails written with
    | true => rfl
    | false => rfl
  | Failed code => exact ⟨code, rfl⟩
  | Cancelled => exact ⟨"retention_cancelled", rfl⟩

theorem finish_retention_kind : (runtime.finish_retention backup kind now written).2.kind =
    if backup.kind.succeeded && !(kind.complete && !runtime.save_fails written) then .SucceededWithWarnings
    else backup.kind := by
  obtain ⟨code, houtcome⟩ := finish_retention_outcome runtime backup kind now written
  rw [houtcome]
  cases kind.complete && !runtime.save_fails written with
  | true => simp
  | false => simp [with_warning_kind]

/-- A success stays a success, and nothing else becomes one. -/
theorem finish_retention_succeeded :
    (runtime.finish_retention backup kind now written).2.kind.succeeded = backup.kind.succeeded := by
  rw [finish_retention_kind]
  split
  · rename_i h
    rw [Bool.and_eq_true] at h
    exact h.1.symm
  · rfl

/-- The times of the last passes in the state that is kept. -/
theorem finish_retention_times :
    let service_state := (runtime.finish_retention backup kind now written).1.state.service_state
    service_state.last_retention = (if kind.complete then some now else runtime.state.service_state.last_retention) ∧
    service_state.last_prune = (if kind = .Succeeded true then some now else runtime.state.service_state.last_prune) ∧
    service_state.last_success = runtime.state.service_state.last_success := by
  dsimp only
  rw [finish_retention_runtime]
  cases kind with
  | Succeeded pruned =>
    cases pruned with
    | true => exact ⟨rfl, rfl, rfl⟩
    | false => exact ⟨rfl, rfl, rfl⟩
  | Failed code => exact ⟨rfl, rfl, rfl⟩
  | Cancelled => exact ⟨rfl, rfl, rfl⟩

end Pass

/-- The pass reports a prune only when the prune command ran and succeeded. -/
theorem retention_pruned {executable : PathBuf} {config : EffectiveConfig} {prune_due : Bool} {io : RetentionIo}
    (h : (retention executable config prune_due io).1 = .Succeeded true) :
    prune_due = true ∧ ∃ prune, ResticCommandBuilder.retention executable config .Prune = .ok prune ∧
      prune ∈ (retention executable config prune_due io).2 ∧ execute_repository_invocation prune io.prune = .Succeeded := by
  have hfailure (outcome code : String) : retention_failure outcome code ≠ .Succeeded true := by
    unfold retention_failure
    nofun
  unfold retention at h ⊢
  cases hforget : ResticCommandBuilder.retention executable config .Forget with
  | error error =>
    rw [hforget] at h
    cases h
  | ok forget =>
    simp only [hforget] at h ⊢
    cases hran : execute_repository_invocation forget io.forget with
    | Cancelled =>
      rw [hran] at h
      cases h
    | Failed code =>
      rw [hran] at h
      exact absurd h (hfailure _ _)
    | Succeeded =>
      simp only [hran] at h ⊢
      cases prune_due with
      | false => cases h
      | true =>
        cases hprune : ResticCommandBuilder.retention executable config .Prune with
        | error error =>
          rw [hprune] at h
          cases h
        | ok prune =>
          simp only [hprune, Bool.not_true, Bool.false_eq_true, if_false] at h ⊢
          refine ⟨trivial, prune, rfl, ?_⟩
          cases hpruned : execute_repository_invocation prune io.prune with
          | Succeeded => exact ⟨List.mem_cons_of_mem _ List.mem_cons_self, rfl⟩
          | Cancelled =>
            rw [hpruned] at h
            cases h
          | Failed code =>
            rw [hpruned] at h
            exact absurd h (hfailure _ _)

theorem counted_failures_ge (failures : UInt32) (kind : BackupOutcomeKind) : failures ≤ counted_failures failures kind := by
  cases kind with
  | Failed code =>
    simp only [counted_failures]
    split
    · exact UInt32.le_refl _
    · rename_i hmax
      have hne : failures.toNat ≠ 2 ^ 32 - 1 := fun h => hmax (UInt32.toNat_inj.1 h)
      have hlt := failures.toNat_lt
      rw [UInt32.le_iff_toNat_le, UInt32.toNat_add, UInt32.toNat_one, Nat.mod_eq_of_lt (by omega)]
      exact Nat.le_succ _
  | _ => exact UInt32.le_refl _

theorem finish_backup_section_service_state {interval_hours : UInt32} {state after : RuntimeState} {now : DateTime}
    {outcome : BackupOutcome} (h : finish_backup_section interval_hours state now outcome = some after) :
    after.service_state.last_success =
      if outcome.kind.succeeded then some now else state.service_state.last_success := by
  unfold finish_backup_section finish_backup_by at h
  dsimp only at h
  split at h
  · rename_i hk
    rw [if_pos hk, ← Option.some.inj h]
  · rename_i hk
    obtain ⟨retry_at, -, rfl⟩ := Option.map_eq_some_iff.1 h
    rw [if_neg hk]

/-- What the end of a backup does to the last success and to the failure counter. -/
theorem finish_backup_at_successes {runtime after : ServiceRuntime} {now : DateTime} {outcome : BackupOutcome}
    {written : Bool} (h : runtime.finish_backup_at now outcome written = some after) :
    if outcome.kind.succeeded then
      after.state.status.last_success = some now ∧ after.state.service_state.last_success = some now ∧
      after.state.consecutive_failures = 0
    else
      after.state.status.last_success = runtime.state.status.last_success ∧
      after.state.service_state.last_success = runtime.state.service_state.last_success ∧
      runtime.state.consecutive_failures ≤ after.state.consecutive_failures := by
  obtain ⟨hsection, -⟩ := finish_backup_at_section h
  have hstored := finish_backup_section_service_state hsection
  rcases finish_backup_section_timing hsection with ⟨hk, deadline, htiming⟩ | ⟨hk, retry_at, -, htiming⟩
  · rw [if_pos hk]
    rw [if_pos hk] at hstored
    exact ⟨congrArg Timing.last_success htiming, hstored, congrArg Timing.consecutive_failures htiming⟩
  · rw [if_neg (Bool.eq_false_iff.1 hk)]
    rw [if_neg (Bool.eq_false_iff.1 hk)] at hstored
    refine ⟨congrArg Timing.last_success htiming, hstored, ?_⟩
    rw [show after.state.consecutive_failures = _ from congrArg Timing.consecutive_failures htiming]
    exact counted_failures_ge _ _

/-! ## The backup and its pass -/

/-- For every backup, every retention pass after it and every result of writing the state:
the pass keeps the summary, the failed items, an earlier warning and every result that is
no success, and turns a plain success into one with warnings exactly when it did not
complete or could not be recorded. The time of the last pass moves only when it completed,
that of the last prune only when the prune command ran and succeeded. When the backup is
finished later, the last success moves and the failure counter is reset exactly when the
backup itself had succeeded. -/
theorem maintenance_keeps_backup_result (runtime : ServiceRuntime) (backup : BackupOutcome) (kind : RetentionOutcomeKind)
    (now : DateTime) (written : Bool) :
    let finished := runtime.finish_retention backup kind now written
    (finished.2.summary = backup.summary ∧ finished.2.failed_items = backup.failed_items ∧
      finished.2.failed_items_omitted = backup.failed_items_omitted) ∧
    (∀ code, backup.warning_code = some code → finished.2.warning_code = some code) ∧
    (backup.kind.succeeded = false → finished.2.kind = backup.kind) ∧
    (backup.kind = .Succeeded → finished.2.kind =
      if kind.complete && !runtime.save_fails written then .Succeeded else .SucceededWithWarnings) ∧
    finished.1.state.service_state.last_retention =
      (if kind.complete then some now else runtime.state.service_state.last_retention) ∧
    finished.1.state.service_state.last_prune =
      (if kind = .Succeeded true then some now else runtime.state.service_state.last_prune) ∧
    (∀ executable config prune_due io, (retention executable config prune_due io).1 = kind →
      finished.1.state.service_state.last_prune ≠ runtime.state.service_state.last_prune →
      ∃ prune ∈ (retention executable config prune_due io).2,
        ResticCommandBuilder.retention executable config .Prune = .ok prune ∧
        execute_repository_invocation prune io.prune = .Succeeded) ∧
    (∀ (later after : ServiceRuntime) completed_at saved,
      later.finish_backup_at completed_at finished.2 saved = some after →
      if backup.kind.succeeded then
        after.state.status.last_success = some completed_at ∧
        after.state.service_state.last_success = some completed_at ∧ after.state.consecutive_failures = 0
      else
        after.state.status.last_success = later.state.status.last_success ∧
        after.state.service_state.last_success = later.state.service_state.last_success ∧
        later.state.consecutive_failures ≤ after.state.consecutive_failures) := by
  dsimp only
  have hkind := finish_retention_kind runtime backup kind now written
  obtain ⟨hretention, hprune, -⟩ := finish_retention_times runtime backup kind now written
  obtain ⟨code, houtcome⟩ := finish_retention_outcome runtime backup kind now written
  refine ⟨?_, ?_, ?_, ?_, hretention, hprune, ?_, ?_⟩
  · rw [houtcome]
    split
    · exact ⟨rfl, rfl, rfl⟩
    · exact with_warning_details backup code
  · intro old hold
    rw [houtcome]
    split
    · exact hold
    · exact with_warning_code backup code hold
  · intro hfailed
    rw [hkind, hfailed]
    rfl
  · intro hsucceeded
    rw [hkind, hsucceeded]
    cases kind.complete && !runtime.save_fails written with
    | true => rfl
    | false => rfl
  · intro executable config prune_due io hpass hmoved
    have hpruned : kind = .Succeeded true := by
      by_contra hnot
      exact hmoved (hprune.trans (if_neg hnot))
    obtain ⟨-, prune, hbuilt, hran, hdone⟩ := retention_pruned (hpass.trans hpruned)
    exact ⟨prune, hran, hbuilt, hdone⟩
  · intro later after completed_at saved hfinish
    have hsuccesses := finish_backup_at_successes hfinish
    rw [finish_retention_succeeded] at hsuccesses
    exact hsuccesses

namespace CancelledRetention

/-- A service without a `config.toml`, that has just started. -/
def started : ServiceRuntime :=
  from_resolved_with_state ⟨{}, none, ((choose_all {} {} none).run ∅).2⟩ {} {} ⟨none, .missing⟩ none .missing .missing
    .UNIX_EPOCH

def backup : BackupOutcome := { BackupOutcome.failed "" with kind := .Succeeded, summary := some ⟨12, 4096, 512, none⟩ }

def retained : ServiceRuntime × BackupOutcome := started.finish_retention backup .Cancelled .UNIX_EPOCH true

theorem finished_isSome : (retained.1.finish_backup_at .UNIX_EPOCH retained.2 true).isSome := by decide

/-- The retention of a backup is cancelled, and the backup is recorded as a success. -/
theorem cancelled_retention_keeps_success : retained.2.kind = .SucceededWithWarnings ∧ retained.2.summary = backup.summary ∧
    ∃ after ∈ retained.1.finish_backup_at .UNIX_EPOCH retained.2 true,
      after.state.status.last_success = some .UNIX_EPOCH ∧ after.state.service_state.last_success = some .UNIX_EPOCH ∧
      after.state.consecutive_failures = 0 := by
  obtain ⟨⟨hsummary, -⟩, -, -, hkind, -, -, -, hfinish⟩ :=
    maintenance_keeps_backup_result started backup .Cancelled .UNIX_EPOCH true
  exact ⟨hkind rfl, hsummary, _, Option.get_mem finished_isSome,
    hfinish retained.1 _ .UNIX_EPOCH true (Option.some_get finished_isSome).symm⟩

end CancelledRetention

end ResticPal
