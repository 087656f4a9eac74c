import ResticPal.Lib.Runs
/-!
# A child process and its job

A supervisor starts children, one at a time, and puts each into a job object
that kills what is in it when its last handle is closed, as it is when the
supervisor dies. What the supervisor knows of its child is a `Child`; its calls
are `JobEvent`s, and `Child.step` says which of them are in order: no second
child while one may be running, and nobody waits for the output of a child that
has not been seen to end.
-/

namespace Lib

/-- What a supervisor knows of its last child. -/
inductive Child where
  | absent
  /-- Running, and in no job. -/
  | loose
  /-- Running in a job that is open. -/
  | held
  /-- Was running in a job that has been closed: the system is ending it. -/
  | condemned
  /-- Seen to have ended. -/
  | reaped
  deriving DecidableEq

inductive JobEvent (α : Type) where
  | spawn (command : α)
  | assign
  | kill
  | close
  | reap
  /-- Wait until the child's output ends. -/
  | join
  deriving DecidableEq

variable {α : Type}

def Child.step : Child → JobEvent α → Option Child
  | .absent, .spawn _ | .reaped, .spawn _ => some .loose
  | .loose, .assign => some .held
  | .loose, .kill => some .loose
  | .held, .kill => some .held
  | .condemned, .kill => some .condemned
  | .held, .close => some .condemned
  | .absent, .close => some .absent
  | .loose, .close => some .loose
  | .reaped, .close => some .reaped
  | .loose, .reap | .held, .reap | .condemned, .reap => some .reaped
  | .reaped, .join => some .reaped
  | _, _ => none

/-- The events are in order, and lead from one knowledge of the child to the other. -/
def Orderly (child : Child) (events : List (JobEvent α)) (after : Child) : Prop :=
  Run Child.step (fun _ _ => True) child events after

/-- The commands that were started. -/
def spawned (events : List (JobEvent α)) : List α :=
  events.filterMap fun
    | .spawn command => some command
    | _ => none

namespace Orderly

variable {child middle after : Child} {events rest : List (JobEvent α)}

theorem append (h : Orderly child events middle) (hrest : Orderly middle rest after) :
    Orderly child (events ++ rest) after := by
  induction hrest with
  | nil => simpa using h
  | snoc _ ho hs ih =>
    rw [← List.append_assoc]
    exact .snoc ih ho hs

/-- Events that can be taken one after the other. -/
theorem of_runList (h : runList Child.step (fun _ _ => True) child events = some after) : Orderly child events after :=
  Run.of_runList h

end Orderly

end Lib
