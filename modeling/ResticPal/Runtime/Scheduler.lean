import ResticPal.Runtime.State
/-!
# Schedule evaluation

`resticpal-service/src/runtime/scheduler.rs`. `evaluate_schedule` copies the
effective configuration and then works under the state lock: `evaluate_section`
is that second part, on whatever copy the first one took. A result of `none` is
a panic, at the end of representable time.
-/

open Lib

namespace ResticPal

def CONDITION_RETRY_SECONDS : UInt64 := 60

structure SystemConditions where
  network_available : Bool
  on_battery : Bool
  metered_network : Bool
  deriving DecidableEq

inductive ScheduleAction where
  | None
  | Start (trigger : BackupTrigger)
  deriving DecidableEq

def ScheduleAction.isStart : ScheduleAction → Bool
  | .Start _ => true
  | .None => false

def waiting_reason : ScheduleBlocker → WaitingReason
  | .WakeGrace => .WakeGrace
  | .NetworkUnavailable => .Network
  | .BatteryDisallowed => .Battery
  | .MeteredNetworkDisallowed => .MeteredNetwork

def startsWith (text start : List Char) : Bool := start.isPrefixOf text

def repository_requires_network (repository : String) : Bool :=
  let repository := (Text.trim repository).toList
  let network (path : List Char) : Bool := startsWith path ['\\', '\\'] || startsWith path ['/', '/']
  if startsWith repository "local:".toList || startsWith repository "LOCAL:".toList then network (repository.drop 6)
  else if network repository then true
  else match repository with
    | drive :: ':' :: separator :: _ =>
      if drive.isAlpha && (separator == '\\' || separator == '/') then false else repository.contains ':'
    | _ => repository.contains ':'

def ServiceRuntime.record_resume (runtime : ServiceRuntime) (now : DateTime) : ServiceRuntime :=
  { runtime with state := { runtime.state with resumed_at := some now } }

/-- Drop an expired update hold, and show again the status it replaced. -/
def release_hold (state : RuntimeState) (now : DateTime) : RuntimeState :=
  let released := { state with update_hold_until := none, update_hold_previous_status := none }
  match state.update_hold_previous_status with
  | some (previous_state, previous_deadline) =>
    if state.status.state = .Waiting .Update then
      { released with status := { state.status with
        state := previous_state, state_since := now, next_deadline := previous_deadline } }
    else released
  | none => released

def scheduler_snapshot (config : EffectiveConfig) (state : RuntimeState) (now : DateTime)
    (conditions : SystemConditions) : SchedulerSnapshot where
  now
  last_success := state.status.last_success
  resumed_at := state.resumed_at
  not_before := state.not_before
  manual_requested := state.manual_requested
  backup_running := state.running
  network_required := repository_requires_network (config.repository.url.getD "")
  network_available := conditions.network_available
  on_battery := conditions.on_battery
  metered_network := conditions.metered_network

/-- Record what `decide` decided. -/
def record_decision (state : RuntimeState) (now : DateTime) : ScheduleDecision → Option (RuntimeState × ScheduleAction)
  | .AlreadyRunning => some (state, .None)
  | .Start trigger => some ({ state with
      status := { state.status with
        state := .Running .PreparingSnapshot
        state_since := now
        last_attempt := some now
        progress := none
        next_deadline := none }
      manual_requested := false
      resumed_at := none
      not_before := none }, .Start trigger)
  | .Idle next_deadline =>
    let status := { state.status with next_deadline := some next_deadline }
    let status := match status.state with
      | .Waiting _ => transition_state status .Idle now
      | _ => status
    some ({ state with status, resumed_at := none }, .None)
  | .Waiting _ blockers retry_at =>
    blockers.head?.map fun blocker => ({ state with
      status := { transition_state state.status (.Waiting (waiting_reason blocker)) now with
        next_deadline := (retry_at.or state.not_before).or (some now) } }, .None)

/-- An evaluation, given the retry while an update is installed and the decision. -/
def evaluate_with (retry : Option DateTime) (decide : SchedulerSnapshot → Option ScheduleDecision)
    (config : EffectiveConfig) (state : RuntimeState) (now : DateTime) (conditions : SystemConditions) :
    Option (RuntimeState × ScheduleAction) :=
  if state.update_install_active then do
    let retry ← retry
    return ({ state with
      status := { transition_state state.status (.Waiting .Update) now with next_deadline := some retry } }, .None)
  else if state.update_hold_until.any (fun deadline => now < deadline) then
    some ({ state with
      status := { transition_state state.status (.Waiting .Update) now with
        next_deadline := state.update_hold_until } }, .None)
  else
    let state := release_hold state now
    if !config.is_configured || state.management_operation_active ||
        !repository_operation_allows_backup state.repository_operation then some (state, .None)
    else do
      let decision ← decide (scheduler_snapshot config state now conditions)
      record_decision state now decision

/-- Evaluate under the state lock, on a copy of the configuration. -/
def evaluate_section (config : EffectiveConfig) (state : RuntimeState) (now : DateTime)
    (conditions : SystemConditions) : Option (RuntimeState × ScheduleAction) :=
  evaluate_with (now.checked_add_signed (CONDITION_RETRY_SECONDS.toNat * 1000000000)) (Schedule.decide config.schedule)
    config state now conditions

def ServiceRuntime.evaluate_schedule (runtime : ServiceRuntime) (now : DateTime) (conditions : SystemConditions) :
    Option (ServiceRuntime × ScheduleAction) :=
  (evaluate_section runtime.config runtime.state now conditions).map
    (fun evaluated => ({ runtime with state := evaluated.1 }, evaluated.2))

/-- How long the event loop waits for an event before it evaluates again, in milliseconds. -/
def ServiceRuntime.next_evaluation_delay (runtime : ServiceRuntime) (now : DateTime) : Nat :=
  if runtime.state.management_operation_active then CONDITION_RETRY_SECONDS.toNat * 1000
  else match runtime.state.status.state with
    | .Waiting .Network | .Waiting .Battery | .Waiting .MeteredNetwork => CONDITION_RETRY_SECONDS.toNat * 1000
    | _ => runtime.state.status.next_deadline.elim (60 * 60 * 1000)
        (fun deadline => (Duration.num_milliseconds (deadline.signed_duration_since now)).toNat)

end ResticPal
