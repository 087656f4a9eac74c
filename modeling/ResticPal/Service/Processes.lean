import ResticPal.Lib.Jobs
import ResticPal.Protocol.Json
import ResticPal.Service.Output
/-!
# Restic processes

How `ResticExecutor` starts restic, waits for it and ends it. What the system
answers to each call is a `ProcessIo`; the answers of the polls in a loop are a
list, and a loop that has used them all up is still running. The calls that
concern the child process are recorded, so that their order can be read off.

Times are in milliseconds.
-/

open Lib

namespace ResticPal

open Text (Bytes)

def PROCESS_POLL_INTERVAL : Nat := 100
def PROCESS_TERMINATION_GRACE : Nat := 5 * 1000
def REPOSITORY_OPERATION_TIMEOUT : Nat := 2 * 60 * 1000
def STALE_LOCK_CLEANUP_TIMEOUT : Nat := 2 * 60 * 1000

/-- `Child::try_wait`. -/
inductive TryWait where
  | Exited (code : Option Int)
  | Running
  | Failed
  deriving DecidableEq

/-- One turn of the loop that waits for restic: what the child and the cancellation token say, and the time since the start. -/
structure Poll where
  wait : TryWait
  cancelled : Bool
  elapsed : Nat
  deriving DecidableEq

/-- One turn of the loop that waits for a child that was told to end. -/
structure GracePoll where
  wait : TryWait
  elapsed : Nat
  deriving DecidableEq

/-- What the system does in one invocation of restic. -/
structure ProcessIo where
  /-- Every secret could be resolved. -/
  secrets : Bool := true
  wake_lock : Bool := true
  /-- What the token says before the start. -/
  cancelled : Bool := false
  job : Bool := true
  spawn : Bool := true
  assign : Bool := true
  /-- The blocking `wait` for a child that is in no job: it succeeds, fails or does not return. -/
  waited : Option Bool := some true
  stdout : Bool := true
  stderr : Bool := true
  polls : List Poll
  grace : List GracePoll := []
  /-- What restic wrote to standard error, as it was read. -/
  messages : String := ""
  deriving DecidableEq

/-- The loop of `terminate_process_tree`: whether the child was seen to end. -/
def await_termination : List GracePoll → Option Bool
  | [] => none
  | poll :: rest =>
    match poll.wait with
    | .Exited _ => some true
    | .Running => if poll.elapsed < PROCESS_TERMINATION_GRACE then await_termination rest else some false
    | .Failed => some false

/-- Why the loop that waits for restic ends. The last three have told the child to end, with or without success. -/
inductive WaitEnd where
  | Exited (code : Option Int)
  | Cancelled (reaped : Bool)
  | TimedOut (reaped : Bool)
  | Lost (reaped : Bool)
  deriving DecidableEq

/-- The loop that waits for restic. A backup has no time limit. -/
def await_exit (timeout : Option Nat) (grace : List GracePoll) : List Poll → Option WaitEnd
  | [] => none
  | poll :: rest =>
    match poll.wait with
    | .Exited code => some (.Exited code)
    | .Running =>
      if poll.cancelled then (await_termination grace).map .Cancelled
      else if timeout.any (· ≤ poll.elapsed) then (await_termination grace).map .TimedOut
      else await_exit timeout grace rest
    | .Failed => (await_termination grace).map .Lost

/-- The calls on the child. -/
abbrev Trace := List (JobEvent ResticInvocation)

/-- `terminate_process_tree`: the job is closed, the child killed, and its end waited for. -/
def terminated (result : ProcessResult) (reaped : Bool) : ProcessResult × Trace :=
  if reaped then (result, [.close, .kill, .reap, .join]) else (.TerminationFailed, [.close, .kill])

/-- What follows the loop that waits for restic. The readers are joined, and the job goes out of scope last. -/
def WaitEnd.finish (messages : String) : WaitEnd → ProcessResult × Trace
  | .Exited code => (.Exited code messages, [.reap, .join, .close])
  | .Cancelled reaped => terminated .Cancelled reaped
  | .TimedOut reaped => terminated .TimedOut reaped
  | .Lost reaped => terminated .WaitFailed reaped

/-- What `execute_invocation` and `execute_repository_invocation` have in common: one restic process, from its secrets to its end. -/
def run_process (timeout : Option Nat) (invocation : ResticInvocation) (io : ProcessIo) : Option (ProcessResult × Trace) :=
  if !io.secrets then some (.CredentialUnavailable, [])
  else if !io.wake_lock then some (.WakeLockUnavailable, [])
  else if io.cancelled then some (.CancelledBeforeStart, [])
  else if !io.job then some (.IsolationFailed, [])
  else if !io.spawn then some (.StartFailed, [.close])
  else if !io.assign then
    io.waited.map fun waited =>
      (.IsolationFailed, [.spawn invocation, .kill] ++ (if waited then [.reap] else []) ++ [.close])
  else if !io.stdout || !io.stderr then some (.OutputUnavailable, [.spawn invocation, .assign, .close])
  else
    (await_exit timeout io.grace io.polls).map fun ended =>
      ((ended.finish io.messages).1, [.spawn invocation, .assign] ++ (ended.finish io.messages).2)

/-! ## What can become of a process -/

/-- What one invocation can come to, and its calls on the child. -/
inductive Ran (invocation : ResticInvocation) (io : ProcessIo) : ProcessResult → Trace → Prop
  | notStarted {result : ProcessResult} (h : result = .CredentialUnavailable ∨ result = .WakeLockUnavailable ∨
      result = .CancelledBeforeStart ∨ result = .IsolationFailed) : Ran invocation io result []
  | startFailed : Ran invocation io .StartFailed [.close]
  /-- The child could not be put into its job: it is killed and waited for. -/
  | unassigned (cancelled : io.cancelled = false) (waited : Bool) : Ran invocation io .IsolationFailed
      ([.spawn invocation, .kill] ++ (if waited then [.reap] else []) ++ [.close])
  | unread (cancelled : io.cancelled = false) : Ran invocation io .OutputUnavailable [.spawn invocation, .assign, .close]
  | exited (cancelled : io.cancelled = false) {code : Option Int} (seen : ∃ poll ∈ io.polls, poll.wait = .Exited code) :
      Ran invocation io (.Exited code io.messages) [.spawn invocation, .assign, .reap, .join, .close]
  | ended (cancelled : io.cancelled = false) {result : ProcessResult}
      (h : result = .Cancelled ∨ result = .TimedOut ∨ result = .WaitFailed) :
      Ran invocation io result [.spawn invocation, .assign, .close, .kill, .reap, .join]
  | running (cancelled : io.cancelled = false) :
      Ran invocation io .TerminationFailed [.spawn invocation, .assign, .close, .kill]

/-- An exit code is one that the system has reported. -/
theorem await_exit_seen {timeout : Option Nat} {grace : List GracePoll} {polls : List Poll} {code : Option Int}
    (h : await_exit timeout grace polls = some (.Exited code)) : ∃ poll ∈ polls, poll.wait = .Exited code := by
  have hmap (f : Bool → WaitEnd) (hf : ∀ reaped, f reaped ≠ .Exited code) : (await_termination grace).map f ≠ some (.Exited code) := by
    cases await_termination grace with
    | none => simp
    | some reaped => simpa using hf reaped
  induction polls with
  | nil => cases h
  | cons poll rest ih =>
    unfold await_exit at h
    split at h
    · rename_i seen hwait
      cases h
      exact ⟨poll, List.mem_cons_self, hwait⟩
    · split at h
      · exact absurd h (hmap _ nofun)
      · split at h
        · exact absurd h (hmap _ nofun)
        · obtain ⟨seen, hseen, hwait⟩ := ih h
          exact ⟨seen, List.mem_cons_of_mem _ hseen, hwait⟩
    · exact absurd h (hmap _ nofun)

section

variable {invocation : ResticInvocation} {io : ProcessIo} {result : ProcessResult} {trace : Trace}

theorem run_process_ran {timeout : Option Nat} (h : run_process timeout invocation io = some (result, trace)) :
    Ran invocation io result trace := by
  unfold run_process at h
  split at h
  · cases h
    exact .notStarted (.inl rfl)
  split at h
  · cases h
    exact .notStarted (.inr (.inl rfl))
  split at h
  · cases h
    exact .notStarted (.inr (.inr (.inl rfl)))
  rename_i hcancelled
  have hcancelled : io.cancelled = false := by simpa using hcancelled
  split at h
  · cases h
    exact .notStarted (.inr (.inr (.inr rfl)))
  split at h
  · cases h
    exact .startFailed
  split at h
  · obtain ⟨waited, -, h⟩ := Option.map_eq_some_iff.1 h
    cases h
    exact .unassigned hcancelled waited
  split at h
  · cases h
    exact .unread hcancelled
  obtain ⟨ended, hended, h⟩ := Option.map_eq_some_iff.1 h
  cases h
  cases ended with
  | Exited code => exact .exited hcancelled (await_exit_seen hended)
  | Cancelled reaped =>
    cases reaped with
    | true => exact .ended hcancelled (.inl rfl)
    | false => exact .running hcancelled
  | TimedOut reaped =>
    cases reaped with
    | true => exact .ended hcancelled (.inr (.inl rfl))
    | false => exact .running hcancelled
  | Lost reaped =>
    cases reaped with
    | true => exact .ended hcancelled (.inr (.inr rfl))
    | false => exact .running hcancelled

/-- How the child stands when an invocation has returned. -/
def Settled (before : Child) (result : ProcessResult) (after : Child) : Prop :=
  match result with
  | .CredentialUnavailable | .WakeLockUnavailable | .CancelledBeforeStart | .StartFailed => after = before
  | .IsolationFailed => after = before ∨ after = .reaped ∨ after = .loose
  | .OutputUnavailable | .TerminationFailed => after = .condemned
  | .Cancelled | .TimedOut | .WaitFailed | .Exited _ _ => after = .reaped

/-- The calls of one invocation are in order, and a restic that was started has ended when the invocation
returns, or is being ended by the system. -/
theorem Ran.orderly (h : Ran invocation io result trace) {before : Child} (hbefore : before = .absent ∨ before = .reaped) :
    ∃ after, Orderly before trace after ∧ Settled before result after := by
  rcases hbefore with rfl | rfl
  all_goals
    cases h with
    | notStarted h =>
      refine ⟨_, .nil, ?_⟩
      rcases h with rfl | rfl | rfl | rfl
      · rfl
      · rfl
      · rfl
      · exact .inl rfl
    | startFailed => exact ⟨_, .of_runList rfl, rfl⟩
    | unassigned _ waited =>
      cases waited with
      | true => exact ⟨.reaped, .of_runList rfl, .inr (.inl rfl)⟩
      | false => exact ⟨.loose, .of_runList rfl, .inr (.inr rfl)⟩
    | unread => exact ⟨.condemned, .of_runList rfl, rfl⟩
    | exited => exact ⟨.reaped, .of_runList rfl, rfl⟩
    | ended _ h =>
      refine ⟨.reaped, .of_runList rfl, ?_⟩
      rcases h with rfl | rfl | rfl
      all_goals rfl
    | running => exact ⟨.condemned, .of_runList rfl, rfl⟩

theorem Ran.spawned (h : Ran invocation io result trace) :
    Lib.spawned trace = [] ∨ Lib.spawned trace = [invocation] ∧ io.cancelled = false := by
  cases h with
  | notStarted => exact .inl rfl
  | startFailed => exact .inl rfl
  | unassigned cancelled waited => exact .inr ⟨by cases waited <;> rfl, cancelled⟩
  | unread cancelled => exact .inr ⟨rfl, cancelled⟩
  | exited cancelled => exact .inr ⟨rfl, cancelled⟩
  | ended cancelled => exact .inr ⟨rfl, cancelled⟩
  | running cancelled => exact .inr ⟨rfl, cancelled⟩

theorem Ran.spawned_mem (h : Ran invocation io result trace) : ∀ started ∈ Lib.spawned trace, started ∈ [invocation] := by
  rcases h.spawned with hnone | ⟨hone, -⟩
  · rw [hnone]
    exact nofun
  · rw [hone]
    exact fun _ hmem => hmem

/-- Only an exit status is a success. -/
theorem Ran.succeeded (h : Ran invocation io result trace)
    (hs : execute_repository_invocation invocation result = .Succeeded) :
    Lib.spawned trace = [invocation] ∧ io.cancelled = false ∧ ∃ poll ∈ io.polls, poll.wait = .Exited (some 0) := by
  cases h with
  | exited cancelled seen =>
    rename_i code
    have hcode : code = some 0 := by
      by_contra hne
      unfold execute_repository_invocation at hs
      split at hs
      all_goals simp_all
    subst hcode
    exact ⟨rfl, cancelled, seen⟩
  | notStarted h => rcases h with rfl | rfl | rfl | rfl <;> cases hs
  | ended _ h => rcases h with rfl | rfl | rfl <;> cases hs
  | startFailed => cases hs
  | unassigned => cases hs
  | unread => cases hs
  | running => cases hs

/-- The results that may leave restic running for a while. -/
def Unsettling (result : ProcessResult) : Prop :=
  result = .IsolationFailed ∨ result = .OutputUnavailable ∨ result = .TerminationFailed

/-- No child, or one that has been seen to end. -/
def Quiet (child : Child) : Prop := child = .absent ∨ child = .reaped

theorem Ran.quiet (h : Ran invocation io result trace) {before : Child} (hbefore : Quiet before) :
    ∃ after, Orderly before trace after ∧ (Unsettling result ∨ Quiet after) := by
  obtain ⟨after, horderly, hsettled⟩ := h.orderly hbefore
  refine ⟨after, horderly, ?_⟩
  cases result with
  | IsolationFailed => exact .inl (.inl rfl)
  | OutputUnavailable => exact .inl (.inr (.inl rfl))
  | TerminationFailed => exact .inl (.inr (.inr rfl))
  | CredentialUnavailable | WakeLockUnavailable | CancelledBeforeStart | StartFailed => exact .inr (hsettled ▸ hbefore)
  | Cancelled | TimedOut | WaitFailed | Exited => exact .inr (.inr hsettled)

end

/-! ## Every wait ends -/

/-- The loops sleep between their polls. -/
def Paced (times : List Nat) : Prop := ∀ i time, times[i]? = some time → i * PROCESS_POLL_INTERVAL ≤ time

/-- Some poll comes at or after a time the polls have room for. -/
theorem Paced.reaches {times : List Nat} (h : Paced times) {limit : Nat}
    (hlong : limit + PROCESS_POLL_INTERVAL ≤ times.length * PROCESS_POLL_INTERVAL) : ∃ time ∈ times, limit ≤ time := by
  have hinterval : PROCESS_POLL_INTERVAL = 100 := rfl
  rw [hinterval] at hlong
  have hlast : times.length - 1 < times.length := by omega
  have htime := h (times.length - 1) _ (List.getElem?_eq_getElem hlast)
  rw [hinterval] at htime
  exact ⟨times[times.length - 1], List.getElem_mem hlast, by omega⟩

theorem await_termination_returns {grace : List GracePoll} (h : ∃ poll ∈ grace, PROCESS_TERMINATION_GRACE ≤ poll.elapsed) :
    (await_termination grace).isSome := by
  induction grace with
  | nil => simp at h
  | cons poll rest ih =>
    unfold await_termination
    split
    · rfl
    · split
      · rename_i helapsed
        obtain ⟨late, hlate, htime⟩ := h
        rcases List.mem_cons.1 hlate with rfl | hlate
        · omega
        · exact ih ⟨late, hlate, htime⟩
      · rfl
    · rfl

theorem await_exit_returns {timeout : Option Nat} {grace : List GracePoll} {polls : List Poll}
    (hgrace : (await_termination grace).isSome)
    (h : ∃ poll ∈ polls, poll.cancelled = true ∨ ∃ limit ∈ timeout, limit ≤ poll.elapsed) :
    (await_exit timeout grace polls).isSome := by
  induction polls with
  | nil => simp at h
  | cons poll rest ih =>
    unfold await_exit
    split
    · rfl
    · split
      · simpa using hgrace
      · rename_i hrunning
        split
        · simpa using hgrace
        · rename_i hintime
          obtain ⟨last, hlast, hstop⟩ := h
          rcases List.mem_cons.1 hlast with rfl | hlast
          · rcases hstop with hstop | ⟨limit, hlimit, hstop⟩
            · exact absurd hstop hrunning
            · rw [Option.mem_def.1 hlimit] at hintime
              exact absurd (decide_eq_true hstop) hintime
          · exact ih ⟨last, hlast, hstop⟩
    · simpa using hgrace

/-- A restic that is told to end is waited for no longer than five seconds, and it is told to when it is cancelled
or its time is over: an invocation returns, at the latest, with the poll that finds the token cancelled or the
limit passed, and the polls of the grace time after it. Two waits have no such bound: the one for a child that
is in no job has to return, and the joins of the readers are taken to. -/
theorem run_process_returns {timeout : Option Nat} {invocation : ResticInvocation} {io : ProcessIo}
    (hwaited : io.assign = false → io.waited.isSome) (hgrace : Paced (io.grace.map (·.elapsed)))
    (hgraceLong : PROCESS_TERMINATION_GRACE + PROCESS_POLL_INTERVAL ≤ io.grace.length * PROCESS_POLL_INTERVAL)
    (hstop : (∃ poll ∈ io.polls, poll.cancelled = true) ∨ ∃ limit ∈ timeout, Paced (io.polls.map (·.elapsed)) ∧
      limit + PROCESS_POLL_INTERVAL ≤ io.polls.length * PROCESS_POLL_INTERVAL) :
    (run_process timeout invocation io).isSome := by
  have hended : (await_termination io.grace).isSome := by
    obtain ⟨time, htime, hlate⟩ := hgrace.reaches (by simpa using hgraceLong)
    obtain ⟨poll, hpoll, rfl⟩ := List.mem_map.1 htime
    exact await_termination_returns ⟨poll, hpoll, hlate⟩
  have hexit : (await_exit timeout io.grace io.polls).isSome := by
    refine await_exit_returns hended ?_
    rcases hstop with ⟨poll, hpoll, hcancelled⟩ | ⟨limit, hlimit, hpaced, hlong⟩
    · exact ⟨poll, hpoll, .inl hcancelled⟩
    · obtain ⟨time, htime, hlate⟩ := hpaced.reaches (by simpa using hlong)
      obtain ⟨poll, hpoll, rfl⟩ := List.mem_map.1 htime
      exact ⟨poll, hpoll, .inr ⟨limit, hlimit, hlate⟩⟩
  unfold run_process
  split
  · rfl
  split
  · rfl
  split
  · rfl
  split
  · rfl
  split
  · rfl
  split
  · rename_i hassign
    simpa using hwaited (by simpa using hassign)
  split
  · rfl
  · simpa using hexit

/-- A restic that is cancelled and does not end. -/
def stubborn : ProcessIo :=
  { polls := [⟨.Running, true, 0⟩], grace := (List.range 51).map (fun i => ⟨.Running, i * PROCESS_POLL_INTERVAL⟩) }

theorem run_process_returns_stubborn : (stubborn.waited.isSome ∧ ∃ poll ∈ stubborn.polls, poll.cancelled = true) ∧
    (run_process none ⟨.Backup, ⟨"restic.exe"⟩, [], ∅, ∅⟩ stubborn).isSome := by
  refine ⟨⟨rfl, ⟨_, List.mem_cons_self, rfl⟩⟩, run_process_returns (fun _ => rfl) ?_ (by decide) (.inl ⟨_, List.mem_cons_self, rfl⟩)⟩
  intro i time htime
  simp only [stubborn, List.map_map, List.getElem?_map, Option.map_eq_some_iff] at htime
  obtain ⟨j, hj, rfl⟩ := htime
  obtain ⟨hlt, rfl⟩ := List.getElem?_eq_some_iff.1 hj
  rw [List.getElem_range]
  exact Nat.le_refl _

/-! ## The operations of the executor -/

namespace ResticExecutor

/-- What was read from a restic that has exited. A reader that failed is `none`. -/
structure BackupOutput where
  stdout : Option ParsedOutput
  stderr : Option ParsedOutput
  captured : Bytes

/-- The end of `execute_invocation`. -/
def execute_invocation (d : Decoder) (output : BackupOutput) : ProcessResult → BackupOutcome
  | .CredentialUnavailable => .failed "credential_unavailable"
  | .WakeLockUnavailable => .failed "wake_lock_unavailable"
  | .CancelledBeforeStart | .Cancelled => .cancelled
  | .IsolationFailed => .failed "process_isolation_failed"
  | .StartFailed => .failed "restic_start_failed"
  | .OutputUnavailable => .failed "restic_output_unavailable"
  | .TerminationFailed => .failed "restic_termination_failed"
  | .TimedOut => .failed "repository_operation_timed_out"
  | .WaitFailed => .failed "restic_wait_failed"
  | .Exited code _ => finish_outcome d code output.stdout output.stderr output.captured false

def backup_invocation_error_code : InvocationError → String
  | .UnsupportedNetworkBackupSource => "network_backup_source_unsupported"
  | .UnsupportedBackupSourceNamespace => "backup_source_namespace_unsupported"
  | .ProtectedBackupSource => "protected_backup_source"
  | _ => "invalid_configuration"

def backup_outcome_for_lock_cleanup : RepositoryOutcomeKind → Option BackupOutcome
  | .Succeeded => none
  | .Cancelled => some .cancelled
  | .Failed code => some (.failed (
    if code = "repository_operation_timed_out" then "stale_lock_cleanup_timed_out"
    else if code = "repository_operation_failed" then "stale_lock_cleanup_failed"
    else code))

section

variable (to_lowercase : String → String) (executable data_directory : PathBuf)

/-- `build_backup_invocations`, with the file system as it is at that moment: `unlock` and `backup`. -/
def build_backup_invocations (fs : FileSystem) (config : EffectiveConfig) :
    Except InvocationError (ResticInvocation × ResticInvocation) := do
  validate_backup_source_paths to_lowercase fs config.backup.paths (some data_directory)
  let canonical_data_directory := (fs.canonicalize data_directory).map ordinary_windows_path
  let required_exclusions := data_directory ::
    canonical_data_directory.toList.filter (fun canonical => !(data_directory.components == canonical.components))
  let backup ← ResticCommandBuilder.backup_with_required_exclusions to_lowercase executable config required_exclusions
  let unlock ← ResticCommandBuilder.unlock executable config
  return (unlock, backup)

/-- What the system does during a backup: the file system before and after the stale locks are removed, and the two processes. -/
structure BackupIo where
  before : FileSystem
  unlock : ProcessIo
  after : FileSystem
  backup : ProcessIo
  output : BackupOutput

def backup (d : Decoder) (config : EffectiveConfig) (io : BackupIo) : Option (BackupOutcome × Trace) :=
  match build_backup_invocations to_lowercase executable data_directory io.before config with
  | .error error => some (.failed (backup_invocation_error_code error), [])
  | .ok (unlock, _) => do
    let (cleanup, trace) ← run_process (some STALE_LOCK_CLEANUP_TIMEOUT) unlock io.unlock
    match backup_outcome_for_lock_cleanup (execute_repository_invocation unlock cleanup) with
    | some outcome => some (outcome, trace)
    | none =>
      -- Sources may have changed meanwhile: a junction must not be followed under a plan made before it was there.
      match build_backup_invocations to_lowercase executable data_directory io.after config with
      | .error error => some (.failed (backup_invocation_error_code error), trace)
      | .ok (_, backup) => do
        let (result, more) ← run_process none backup io.backup
        some (execute_invocation d io.output result, trace ++ more)

end

/-- `repository_operation`. -/
def repository_operation (executable : PathBuf) (config : EffectiveConfig) (operation : ResticOperation) (io : ProcessIo) :
    Option (RepositoryOutcomeKind × Trace) :=
  match ResticCommandBuilder.repository_setup executable config operation with
  | .error _ => some (.Failed "invalid_repository_configuration", [])
  | .ok invocation => do
    let (result, trace) ← run_process (some REPOSITORY_OPERATION_TIMEOUT) invocation io
    some (execute_repository_invocation invocation result, trace)

/-- `retention`, with its processes. -/
def retention (executable : PathBuf) (config : EffectiveConfig) (prune_due : Bool) (forget_io prune_io : ProcessIo) :
    Option (RetentionOutcomeKind × Trace) :=
  let timeout := some (config.schedule.wake_lock_timeout_seconds.toNat * 1000)
  match ResticCommandBuilder.retention executable config .Forget with
  | .error _ => some (.Failed "retention_forbidden", [])
  | .ok forget => do
    let (result, trace) ← run_process timeout forget forget_io
    match execute_repository_invocation forget result with
    | .Cancelled => some (.Cancelled, trace)
    | .Failed code => some (retention_failure code "retention_forget_failed", trace)
    | .Succeeded =>
      if !prune_due then some (.Succeeded false, trace)
      else match ResticCommandBuilder.retention executable config .Prune with
        | .error _ => some (.Failed "retention_forbidden", trace)
        | .ok prune => do
          let (result, more) ← run_process timeout prune prune_io
          match execute_repository_invocation prune result with
          | .Succeeded => some (.Succeeded true, trace ++ more)
          | .Cancelled => some (.Cancelled, trace ++ more)
          | .Failed code => some (retention_failure code "retention_prune_failed", trace ++ more)

/-! ## What a backup starts -/

section

variable {to_lowercase : String → String} {executable data_directory : PathBuf} {d : Decoder}

theorem build_operation {config : EffectiveConfig} {operation : ResticOperation} {arguments : List String}
    {invocation : ResticInvocation} (h : ResticCommandBuilder.build executable config operation arguments = .ok invocation) :
    invocation.operation = operation := by
  unfold ResticCommandBuilder.build at h
  cases hurl : config.repository.url with
  | none =>
    rw [hurl] at h
    cases h
  | some url =>
    rw [hurl] at h
    cases h
    rfl

/-- A plan is made only for sources that are allowed at that moment, and leaves the service's own directory out. -/
theorem build_backup_invocations_ok {fs : FileSystem} {config : EffectiveConfig} {unlock backup : ResticInvocation}
    (h : build_backup_invocations to_lowercase executable data_directory fs config = .ok (unlock, backup)) :
    validate_backup_source_paths to_lowercase fs config.backup.paths (some data_directory) = .ok () ∧
      unlock.operation = .Unlock ∧ ["--iexclude", data_directory.text] <:+: backup.arguments := by
  simp only [build_backup_invocations, bind_eq_ok, pure_eq_ok] at h
  obtain ⟨_, hvalid, backup', hbackup, unlock', hunlock, heq⟩ := h
  cases heq
  have hoperation : unlock.operation = .Unlock := by
    simp only [ResticCommandBuilder.unlock, check_bind_eq_ok] at hunlock
    exact build_operation hunlock.2.2
  refine ⟨hvalid, hoperation, ?_⟩
  simp only [ResticCommandBuilder.backup_with_required_exclusions, check_bind_eq_ok] at hbackup
  obtain ⟨-, -, -, -, -, -, hbuild⟩ := hbackup
  cases hurl : config.repository.url with
  | none =>
    rw [ResticCommandBuilder.build, hurl] at hbuild
    cases hbuild
  | some url =>
    rw [ResticCommandBuilder.build, hurl] at hbuild
    cases hbuild
    simp only [List.flatMap_cons]
    exact ⟨repository_options config ++ (["--cleanup-cache", "backup", "--json", "--use-fs-snapshot"] ++
      config.backup.exclusions.flatMap (fun exclusion => ["--exclude", exclusion])), _, by simp only [List.append_assoc]; rfl⟩

/-- A backup succeeds with the exit status 0, or with 3 when sources could not be read. -/
theorem finish_outcome_succeeded {code : Option Int} {stdout stderr : Option ParsedOutput} {captured : Bytes} {known : Bool}
    (h : (finish_outcome d code stdout stderr captured known).kind.succeeded = true) : code = some 0 ∨ code = some 3 := by
  unfold finish_outcome at h
  split at h
  · cases h
  split at h
  · cases h
  split at h
  · split at h
    · exact .inl rfl
    · cases h
    · cases h
  · dsimp only at h
    split at h
    · exact .inl rfl
    · exact .inr rfl
    · cases h
    · cases h

theorem execute_invocation_succeeded {invocation : ResticInvocation} {io : ProcessIo} {result : ProcessResult} {trace : Trace}
    (h : Ran invocation io result trace) {output : BackupOutput} (hs : (execute_invocation d output result).kind.succeeded = true) :
    Lib.spawned trace = [invocation] ∧ ∃ poll ∈ io.polls, poll.wait = .Exited (some 0) ∨ poll.wait = .Exited (some 3) := by
  cases h with
  | exited _ seen =>
    obtain ⟨poll, hpoll, hwait⟩ := seen
    refine ⟨rfl, poll, hpoll, ?_⟩
    rw [hwait]
    exact (finish_outcome_succeeded hs).imp (congrArg _) (congrArg _)
  | notStarted h => rcases h with rfl | rfl | rfl | rfl <;> cases hs
  | ended _ h => rcases h with rfl | rfl | rfl <;> cases hs
  | startFailed => cases hs
  | unassigned => cases hs
  | unread => cases hs
  | running => cases hs

/-- What a backup can come to. -/
inductive BackupRan (to_lowercase : String → String) (executable data_directory : PathBuf) (d : Decoder)
    (config : EffectiveConfig) (io : BackupIo) : BackupOutcome → Trace → Prop
  | refused (error : InvocationError) :
      BackupRan to_lowercase executable data_directory d config io (.failed (backup_invocation_error_code error)) []
  | stopped {unlock planned : ResticInvocation} {cleanup : ProcessResult} {trace : Trace} {outcome : BackupOutcome}
      (plan : build_backup_invocations to_lowercase executable data_directory io.before config = .ok (unlock, planned))
      (ran : Ran unlock io.unlock cleanup trace)
      (failed : backup_outcome_for_lock_cleanup (execute_repository_invocation unlock cleanup) = some outcome) :
      BackupRan to_lowercase executable data_directory d config io outcome trace
  /-- The sources are no longer allowed. -/
  | withdrawn {unlock planned : ResticInvocation} {cleanup : ProcessResult} {trace : Trace} (error : InvocationError)
      (plan : build_backup_invocations to_lowercase executable data_directory io.before config = .ok (unlock, planned))
      (ran : Ran unlock io.unlock cleanup trace) (cleaned : execute_repository_invocation unlock cleanup = .Succeeded) :
      BackupRan to_lowercase executable data_directory d config io (.failed (backup_invocation_error_code error)) trace
  | finished {unlock planned unlock' backup : ResticInvocation} {cleanup result : ProcessResult} {trace more : Trace}
      (plan : build_backup_invocations to_lowercase executable data_directory io.before config = .ok (unlock, planned))
      (ran : Ran unlock io.unlock cleanup trace) (cleaned : execute_repository_invocation unlock cleanup = .Succeeded)
      (replan : build_backup_invocations to_lowercase executable data_directory io.after config = .ok (unlock', backup))
      (ranBackup : Ran backup io.backup result more) :
      BackupRan to_lowercase executable data_directory d config io (execute_invocation d io.output result) (trace ++ more)

theorem backup_ran {config : EffectiveConfig} {io : BackupIo} {outcome : BackupOutcome} {trace : Trace}
    (h : backup to_lowercase executable data_directory d config io = some (outcome, trace)) :
    BackupRan to_lowercase executable data_directory d config io outcome trace := by
  unfold backup at h
  split at h
  · cases h
    exact .refused _
  · rename_i unlock planned hplan
    obtain ⟨⟨cleanup, first⟩, hunlock, h⟩ := Option.bind_eq_some_iff.1 h
    have hran := run_process_ran hunlock
    dsimp only at h
    split at h
    · rename_i hfailed
      cases h
      exact .stopped hplan hran hfailed
    · rename_i hcleaned
      have hcleaned : execute_repository_invocation unlock cleanup = .Succeeded := by
        revert hcleaned
        cases execute_repository_invocation unlock cleanup with
        | Succeeded => exact fun _ => rfl
        | Failed code => exact nofun
        | Cancelled => exact nofun
      split at h
      · cases h
        exact .withdrawn _ hplan hran hcleaned
      · rename_i hreplan
        obtain ⟨⟨result, more⟩, hbackup, h⟩ := Option.bind_eq_some_iff.1 h
        cases h
        exact .finished hplan hran hcleaned hreplan (run_process_ran hbackup)

theorem spawned_append {α : Type} (events rest : List (JobEvent α)) :
    Lib.spawned (events ++ rest) = Lib.spawned events ++ Lib.spawned rest := by
  simp [Lib.spawned]

/-- Whatever the system does: a backup process is started only when the removal of stale locks has exited with
success and nothing has been cancelled, on sources that are allowed as the file system is at that moment, with
the service's directory left out; and a backup succeeds only by the exit status of such a process. -/
theorem backup_started_on_checked_sources {config : EffectiveConfig} {io : BackupIo} {outcome : BackupOutcome} {trace : Trace}
    (h : backup to_lowercase executable data_directory d config io = some (outcome, trace)) :
    (∀ invocation ∈ Lib.spawned trace, invocation.operation ≠ .Unlock →
      (io.unlock.cancelled = false ∧ (∃ poll ∈ io.unlock.polls, poll.wait = .Exited (some 0)) ∧ io.backup.cancelled = false) ∧
      validate_backup_source_paths to_lowercase io.after config.backup.paths (some data_directory) = .ok () ∧
      ["--iexclude", data_directory.text] <:+: invocation.arguments) ∧
    (outcome.kind.succeeded = true → ∃ unlock backup, Lib.spawned trace = [unlock, backup] ∧
      ∃ poll ∈ io.backup.polls, poll.wait = .Exited (some 0) ∨ poll.wait = .Exited (some 3)) := by
  have hfirst {unlock planned : ResticInvocation} {cleanup : ProcessResult} {first : Trace}
      (plan : build_backup_invocations to_lowercase executable data_directory io.before config = .ok (unlock, planned))
      (ran : Ran unlock io.unlock cleanup first) : ∀ invocation ∈ Lib.spawned first, invocation.operation = .Unlock := by
    intro invocation hmem
    exact List.mem_singleton.1 (ran.spawned_mem invocation hmem) ▸ (build_backup_invocations_ok plan).2.1
  cases backup_ran h with
  | refused error => exact ⟨by simp [Lib.spawned], nofun⟩
  | stopped plan ran failed =>
    refine ⟨fun invocation hmem hother => absurd (hfirst plan ran invocation hmem) hother, fun hs => ?_⟩
    rename_i unlock planned cleanup
    revert failed hs
    cases execute_repository_invocation unlock cleanup with
    | Succeeded => exact nofun
    | Cancelled => rintro ⟨⟩ ⟨⟩
    | Failed code => rintro ⟨⟩ ⟨⟩
  | withdrawn error plan ran cleaned =>
    exact ⟨fun invocation hmem hother => absurd (hfirst plan ran invocation hmem) hother, nofun⟩
  | finished plan ran cleaned replan ranBackup =>
    obtain ⟨hone, hstarted, hcleaned⟩ := ran.succeeded cleaned
    rw [spawned_append]
    refine ⟨fun invocation hmem hother => ?_, fun hs => ?_⟩
    · rcases List.mem_append.1 hmem with hmem | hmem
      · exact absurd (hfirst plan ran invocation hmem) hother
      · rcases ranBackup.spawned with hnone | ⟨htwo, hcontinued⟩
        · rw [hnone] at hmem
          cases hmem
        · rw [htwo, List.mem_singleton] at hmem
          subst hmem
          obtain ⟨hvalid, -, hexcluded⟩ := build_backup_invocations_ok replan
          exact ⟨⟨hstarted, hcleaned, hcontinued⟩, hvalid, hexcluded⟩
    · obtain ⟨htwo, hseen⟩ := execute_invocation_succeeded ranBackup hs
      rw [hone, htwo]
      exact ⟨_, _, rfl, hseen⟩

end

/-- A repository on a local disk. -/
def localRepository : EffectiveConfig := { repository := { url := some "C:\\Backups" } }

/-- One directory to back up to it. -/
def documents : EffectiveConfig := { localRepository with backup := { paths := [⟨"C:\\Documents"⟩] } }

/-- A disk without links. -/
def plainDisk : FileSystem := { canonicalize := some, remote_drive := fun _ => false }

/-- A backup of it that is cancelled while it runs. -/
def cancelledBackup : BackupIo :=
  { before := plainDisk
    unlock := { polls := [⟨.Exited (some 0), false, 0⟩] }
    after := plainDisk
    backup := { polls := [⟨.Running, true, 0⟩], grace := [⟨.Exited none, 0⟩] }
    output := ⟨none, none, []⟩ }

theorem backup_started_on_checked_sources_cancelled :
    let d : Decoder := ⟨fun _ => none, fun _ => "", nofun⟩
    ∃ outcome trace, backup Text.to_ascii_lowercase ⟨"restic.exe"⟩ ⟨"C:\\Data"⟩ d documents cancelledBackup = some (outcome, trace) ∧
      (Lib.spawned trace).map (·.operation) = [.Unlock, .Backup] ∧
      ∀ invocation ∈ Lib.spawned trace, invocation.operation ≠ .Unlock →
        ["--iexclude", "C:\\Data"] <:+: invocation.arguments := by
  intro d
  have hspawned : (backup Text.to_ascii_lowercase ⟨"restic.exe"⟩ ⟨"C:\\Data"⟩ d documents cancelledBackup).map
      (fun ended => (Lib.spawned ended.2).map (·.operation)) = some [.Unlock, .Backup] := by
    decide +kernel
  obtain ⟨⟨outcome, trace⟩, h, hoperations⟩ := Option.map_eq_some_iff.1 hspawned
  exact ⟨outcome, trace, h, hoperations,
    fun invocation hmem hother => ((backup_started_on_checked_sources h).1 invocation hmem hother).2.2⟩

/-! ## What a retention pass starts -/

/-- How a pass ends with its last command. -/
def passEnd (pass : String) (pruned : Bool) : RepositoryOutcomeKind → RetentionOutcomeKind
  | .Succeeded => .Succeeded pruned
  | .Cancelled => .Cancelled
  | .Failed code => retention_failure code pass

/-- What a retention pass can come to. -/
inductive RetentionRan (executable : PathBuf) (config : EffectiveConfig) (prune_due : Bool) (forget_io prune_io : ProcessIo) :
    RetentionOutcomeKind → Trace → Prop
  | refused {error : InvocationError} (plan : ResticCommandBuilder.retention executable config .Forget = .error error) :
      RetentionRan executable config prune_due forget_io prune_io (.Failed "retention_forbidden") []
  | forgotten {forget : ResticInvocation} {result : ProcessResult} {trace : Trace}
      (plan : ResticCommandBuilder.retention executable config .Forget = .ok forget) (ran : Ran forget forget_io result trace)
      (last : execute_repository_invocation forget result ≠ .Succeeded ∨ prune_due = false) :
      RetentionRan executable config prune_due forget_io prune_io
        (passEnd "retention_forget_failed" false (execute_repository_invocation forget result)) trace
  | unpruned {forget : ResticInvocation} {result : ProcessResult} {trace : Trace} {error : InvocationError}
      (plan : ResticCommandBuilder.retention executable config .Forget = .ok forget) (ran : Ran forget forget_io result trace)
      (succeeded : execute_repository_invocation forget result = .Succeeded) (due : prune_due = true)
      (replan : ResticCommandBuilder.retention executable config .Prune = .error error) :
      RetentionRan executable config prune_due forget_io prune_io (.Failed "retention_forbidden") trace
  | pruned {forget prune : ResticInvocation} {result last : ProcessResult} {trace more : Trace}
      (plan : ResticCommandBuilder.retention executable config .Forget = .ok forget) (ran : Ran forget forget_io result trace)
      (succeeded : execute_repository_invocation forget result = .Succeeded) (due : prune_due = true)
      (replan : ResticCommandBuilder.retention executable config .Prune = .ok prune) (ranPrune : Ran prune prune_io last more) :
      RetentionRan executable config prune_due forget_io prune_io
        (passEnd "retention_prune_failed" true (execute_repository_invocation prune last)) (trace ++ more)

section

variable {executable : PathBuf} {config : EffectiveConfig} {prune_due : Bool} {forget_io prune_io : ProcessIo}
  {outcome : RetentionOutcomeKind} {trace : Trace}

theorem retention_ran (h : ResticExecutor.retention executable config prune_due forget_io prune_io = some (outcome, trace)) :
    RetentionRan executable config prune_due forget_io prune_io outcome trace := by
  unfold ResticExecutor.retention at h
  split at h
  · rename_i hplan
    cases h
    exact .refused hplan
  · rename_i forget hplan
    obtain ⟨⟨result, first⟩, hforget, h⟩ := Option.bind_eq_some_iff.1 h
    have hran := run_process_ran hforget
    have hlast (hne : execute_repository_invocation forget result ≠ .Succeeded ∨ prune_due = false) :
        RetentionRan executable config prune_due forget_io prune_io _ _ := .forgotten hplan hran hne
    cases hkind : execute_repository_invocation forget result with
    | Cancelled =>
      simp only [hkind, passEnd] at h hlast
      cases h
      exact hlast (.inl nofun)
    | Failed code =>
      simp only [hkind, passEnd] at h hlast
      cases h
      exact hlast (.inl nofun)
    | Succeeded =>
      simp only [hkind] at h hlast
      split at h
      · rename_i hdue
        cases h
        exact hlast (.inr (by simpa using hdue))
      · rename_i hdue
        have hdue : prune_due = true := by simpa using hdue
        split at h
        · rename_i hreplan
          cases h
          exact .unpruned hplan hran hkind hdue hreplan
        · rename_i prune hreplan
          obtain ⟨⟨last, more⟩, hprune, h⟩ := Option.bind_eq_some_iff.1 h
          have hpruned := RetentionRan.pruned hplan hran hkind hdue hreplan (run_process_ran hprune)
          cases hend : execute_repository_invocation prune last with
          | Succeeded | Cancelled =>
            simp only [hend, passEnd] at h hpruned
            cases h
            exact hpruned
          | Failed code =>
            simp only [hend, passEnd] at h hpruned
            cases h
            exact hpruned

/-- The pass comes to the outcome the results of its commands give, and starts no other command. -/
theorem retention_refines (h : ResticExecutor.retention executable config prune_due forget_io prune_io = some (outcome, trace)) :
    ∃ results, (ResticPal.retention executable config prune_due results).1 = outcome ∧
      ∀ invocation ∈ Lib.spawned trace, invocation ∈ (ResticPal.retention executable config prune_due results).2 := by
  cases retention_ran h with
  | refused plan =>
    refine ⟨⟨.StartFailed, .StartFailed⟩, ?_, by simp [Lib.spawned]⟩
    rw [ResticPal.retention, plan]
  | forgotten plan ran last =>
    rename_i forget result
    refine ⟨⟨result, .StartFailed⟩, ?_⟩
    simp only [ResticPal.retention, plan]
    cases hkind : execute_repository_invocation forget result with
    | Cancelled | Failed => exact ⟨rfl, ran.spawned_mem⟩
    | Succeeded =>
      have hdue : prune_due = false := last.resolve_left (fun hne => hne hkind)
      subst hdue
      exact ⟨rfl, ran.spawned_mem⟩
  | unpruned plan ran succeeded due replan =>
    rename_i forget result error
    refine ⟨⟨result, .StartFailed⟩, ?_⟩
    subst due
    simp only [ResticPal.retention, plan, succeeded, replan]
    exact ⟨rfl, ran.spawned_mem⟩
  | pruned plan ran succeeded due replan ranPrune =>
    rename_i forget prune result last first more
    refine ⟨⟨result, last⟩, ?_⟩
    have hmem : ∀ invocation ∈ Lib.spawned (first ++ more), invocation ∈ [forget, prune] := by
      intro invocation hmem
      rw [spawned_append] at hmem
      rcases List.mem_append.1 hmem with hmem | hmem
      · exact List.mem_append_left [prune] (ran.spawned_mem invocation hmem)
      · exact List.mem_append_right [forget] (ranPrune.spawned_mem invocation hmem)
    subst due
    simp only [ResticPal.retention, plan, succeeded, replan]
    cases execute_repository_invocation prune last with
    | Succeeded | Cancelled | Failed => exact ⟨rfl, hmem⟩

end

/-! ## One restic at a time -/

/-- An operation of the executor, with the configuration it is given and what the system does. -/
inductive Call where
  | backup (config : EffectiveConfig) (io : BackupIo)
  | repository (config : EffectiveConfig) (operation : ResticOperation) (io : ProcessIo)
  | retention (config : EffectiveConfig) (prune_due : Bool) (forget prune : ProcessIo)

/-- The code of a failure. -/
def repositoryCode : RepositoryOutcomeKind → Option String
  | .Failed code => some code
  | _ => none

def retentionCode : RetentionOutcomeKind → Option String
  | .Failed code => some code
  | _ => none

def backupCode : BackupOutcomeKind → Option String
  | .Failed code => some code
  | _ => none

section

variable (to_lowercase : String → String) (executable data_directory : PathBuf) (d : Decoder)

/-- The code the operation reports, if it failed, and its calls on restic processes. -/
def Call.run : Call → Option (Option String × Trace)
  | .backup config io => (ResticExecutor.backup to_lowercase executable data_directory d config io).map
      fun ran => (backupCode ran.1.kind, ran.2)
  | .repository config operation io => (repository_operation executable config operation io).map
      fun ran => (repositoryCode ran.1, ran.2)
  | .retention config prune_due forget prune => (ResticExecutor.retention executable config prune_due forget prune).map
      fun ran => (retentionCode ran.1, ran.2)

end

/-- The codes of an operation that may leave its restic running for a while. -/
def Unsettled (code : Option String) : Prop :=
  code = some "process_isolation_failed" ∨ code = some "restic_output_unavailable" ∨ code = some "restic_termination_failed"

theorem unsettling_code {result : ProcessResult} (h : Unsettling result) (invocation : ResticInvocation) :
    ∃ code, execute_repository_invocation invocation result = .Failed code ∧ Unsettled (some code) ∧
      backup_outcome_for_lock_cleanup (.Failed code) = some (.failed code) ∧
      ∀ pass, retention_failure code pass = .Failed code := by
  rcases h with rfl | rfl | rfl
  · exact ⟨_, rfl, .inl rfl, rfl, fun _ => rfl⟩
  · exact ⟨_, rfl, .inr (.inl rfl), rfl, fun _ => rfl⟩
  · exact ⟨_, rfl, .inr (.inr rfl), rfl, fun _ => rfl⟩

/-- A command that succeeded has left nothing running. -/
theorem quiet_of_succeeded {invocation : ResticInvocation} {result : ProcessResult} {after : Child}
    (h : Unsettling result ∨ Quiet after) (hs : execute_repository_invocation invocation result = .Succeeded) : Quiet after := by
  rcases h with h | h
  · obtain ⟨code, hcode, -⟩ := unsettling_code h invocation
    rw [hs] at hcode
    cases hcode
  · exact h

section

variable {to_lowercase : String → String} {executable data_directory : PathBuf} {d : Decoder}

theorem backup_orderly {config : EffectiveConfig} {io : BackupIo} {outcome : BackupOutcome} {trace : Trace}
    (h : backup to_lowercase executable data_directory d config io = some (outcome, trace)) {before : Child}
    (hbefore : Quiet before) : ∃ after, Orderly before trace after ∧ (Unsettled (backupCode outcome.kind) ∨ Quiet after) := by
  cases backup_ran h with
  | refused error => exact ⟨before, .nil, .inr hbefore⟩
  | stopped plan ran failed =>
    rename_i unlock planned cleanup
    obtain ⟨after, horderly, hquiet⟩ := ran.quiet hbefore
    refine ⟨after, horderly, hquiet.imp_left fun hresult => ?_⟩
    obtain ⟨code, hcode, hunsettled, houtcome, -⟩ := unsettling_code hresult unlock
    rw [hcode, houtcome] at failed
    cases failed
    exact hunsettled
  | withdrawn error plan ran cleaned =>
    obtain ⟨after, horderly, hquiet⟩ := ran.quiet hbefore
    exact ⟨after, horderly, .inr (quiet_of_succeeded hquiet cleaned)⟩
  | finished plan ran cleaned replan ranBackup =>
    obtain ⟨middle, horderly, hquiet⟩ := ran.quiet hbefore
    obtain ⟨after, hmore, hafter⟩ := ranBackup.quiet (quiet_of_succeeded hquiet cleaned)
    refine ⟨after, horderly.append hmore, hafter.imp_left fun hresult => ?_⟩
    rcases hresult with rfl | rfl | rfl
    · exact .inl rfl
    · exact .inr (.inl rfl)
    · exact .inr (.inr rfl)

theorem repository_orderly {config : EffectiveConfig} {operation : ResticOperation} {io : ProcessIo}
    {outcome : RepositoryOutcomeKind} {trace : Trace}
    (h : repository_operation executable config operation io = some (outcome, trace)) {before : Child}
    (hbefore : Quiet before) : ∃ after, Orderly before trace after ∧ (Unsettled (repositoryCode outcome) ∨ Quiet after) := by
  unfold repository_operation at h
  split at h
  · cases h
    exact ⟨before, .nil, .inr hbefore⟩
  · rename_i invocation _
    obtain ⟨⟨result, trace⟩, hrun, h⟩ := Option.bind_eq_some_iff.1 h
    cases h
    obtain ⟨after, horderly, hquiet⟩ := (run_process_ran hrun).quiet hbefore
    refine ⟨after, horderly, hquiet.imp_left fun hresult => ?_⟩
    obtain ⟨code, hcode, hunsettled, -⟩ := unsettling_code hresult invocation
    rw [hcode]
    exact hunsettled

theorem passEnd_quiet {invocation : ResticInvocation} {result : ProcessResult} {after : Child} (pass : String) (pruned : Bool)
    (h : Unsettling result ∨ Quiet after) :
    Unsettled (retentionCode (passEnd pass pruned (execute_repository_invocation invocation result))) ∨ Quiet after := by
  refine h.imp_left fun hresult => ?_
  obtain ⟨code, hcode, hunsettled, -, hpass⟩ := unsettling_code hresult invocation
  rw [hcode, passEnd, hpass]
  exact hunsettled

theorem retention_orderly {config : EffectiveConfig} {prune_due : Bool} {forget_io prune_io : ProcessIo}
    {outcome : RetentionOutcomeKind} {trace : Trace}
    (h : ResticExecutor.retention executable config prune_due forget_io prune_io = some (outcome, trace)) {before : Child}
    (hbefore : Quiet before) : ∃ after, Orderly before trace after ∧ (Unsettled (retentionCode outcome) ∨ Quiet after) := by
  cases retention_ran h with
  | refused => exact ⟨before, .nil, .inr hbefore⟩
  | forgotten plan ran last =>
    obtain ⟨after, horderly, hquiet⟩ := ran.quiet hbefore
    exact ⟨after, horderly, passEnd_quiet _ _ hquiet⟩
  | unpruned plan ran succeeded error =>
    obtain ⟨after, horderly, hquiet⟩ := ran.quiet hbefore
    exact ⟨after, horderly, .inr (quiet_of_succeeded hquiet succeeded)⟩
  | pruned plan ran succeeded due replan ranPrune =>
    obtain ⟨middle, horderly, hquiet⟩ := ran.quiet hbefore
    obtain ⟨after, hmore, hafter⟩ := ranPrune.quiet (quiet_of_succeeded hquiet succeeded)
    exact ⟨after, horderly.append hmore, passEnd_quiet _ _ hafter⟩

theorem Call.orderly {call : Call} {code : Option String} {trace : Trace}
    (h : call.run to_lowercase executable data_directory d = some (code, trace)) {before : Child} (hbefore : Quiet before) :
    ∃ after, Orderly before trace after ∧ (Unsettled code ∨ Quiet after) := by
  cases call with
  | backup config io =>
    obtain ⟨⟨outcome, _⟩, hran, h⟩ := Option.map_eq_some_iff.1 h
    cases h
    exact backup_orderly hran hbefore
  | repository config operation io =>
    obtain ⟨⟨outcome, _⟩, hran, h⟩ := Option.map_eq_some_iff.1 h
    cases h
    exact repository_orderly hran hbefore
  | retention config prune_due forget prune =>
    obtain ⟨⟨outcome, _⟩, hran, h⟩ := Option.map_eq_some_iff.1 h
    cases h
    exact retention_orderly hran hbefore

/-- Operations one after the other: the codes they report and all their calls. -/
inductive Calls (to_lowercase : String → String) (executable data_directory : PathBuf) (d : Decoder) :
    List Call → List (Option String) → Trace → Prop
  | nil : Calls to_lowercase executable data_directory d [] [] []
  | snoc {calls : List Call} {codes : List (Option String)} {trace more : Trace} {call : Call} {code : Option String}
      (before : Calls to_lowercase executable data_directory d calls codes trace)
      (last : call.run to_lowercase executable data_directory d = some (code, more)) :
      Calls to_lowercase executable data_directory d (calls ++ [call]) (codes ++ [code]) (trace ++ more)

/-- Through any sequence of operations, whatever the system does: until one reports that it could not isolate,
read or end its restic, no restic is started while another may be running, the readers of an output are joined
only when its restic has been seen to end, and between operations no restic is left. -/
theorem one_restic_at_a_time {calls : List Call} {codes : List (Option String)} {trace : Trace}
    (h : Calls to_lowercase executable data_directory d calls codes trace) (hcodes : ∀ code ∈ codes.dropLast, ¬ Unsettled code) :
    ∃ after, Orderly .absent trace after ∧ ((∃ code ∈ codes.getLast?, Unsettled code) ∨ Quiet after) := by
  induction h with
  | nil => exact ⟨.absent, .nil, .inr (.inl rfl)⟩
  | snoc before last ih =>
    rename_i calls codes trace more call code
    rw [List.dropLast_concat] at hcodes
    obtain ⟨middle, horderly, hmiddle⟩ := ih fun code hcode => hcodes code (List.dropLast_subset codes hcode)
    have hquiet : Quiet middle := by
      refine hmiddle.resolve_left ?_
      rintro ⟨code, hcode, hunsettled⟩
      exact hcodes code (List.mem_of_getLast? hcode) hunsettled
    obtain ⟨after, hmore, hafter⟩ := Call.orderly last hquiet
    refine ⟨after, horderly.append hmore, hafter.imp_left fun hunsettled => ⟨code, by simp, hunsettled⟩⟩

end

/-- A probe that is cancelled while it runs. -/
def cancelledProbe : ProcessIo :=
  { polls := [⟨.Running, false, 0⟩, ⟨.Running, true, 100⟩], grace := [⟨.Running, 0⟩, ⟨.Exited none, 100⟩] }

theorem one_restic_at_a_time_cancelled :
    let d : Decoder := ⟨fun _ => none, fun _ => "", nofun⟩
    let probe : Call := .repository localRepository .Probe cancelledProbe
    ∃ trace, Calls Text.to_ascii_lowercase ⟨"restic.exe"⟩ ⟨"C:\\Data"⟩ d [probe, probe] [none, none] trace ∧
      ∃ after, Orderly .absent trace after ∧ ((∃ code ∈ [none, none].getLast?, Unsettled code) ∨ Quiet after) := by
  have hcalls : Calls Text.to_ascii_lowercase ⟨"restic.exe"⟩ ⟨"C:\\Data"⟩ ⟨fun _ => none, fun _ => "", nofun⟩
      [.repository localRepository .Probe cancelledProbe, .repository localRepository .Probe cancelledProbe] [none, none] _ :=
    .snoc (.snoc .nil rfl) rfl
  exact ⟨_, hcalls, one_restic_at_a_time hcalls (by simp [Unsettled])⟩

end ResticExecutor

end ResticPal
