import Lanewise.Lanes.Mask
import Lanewise.Text.Duration

/-!
# Tasks

A task that is spawned inside a region captures the mask in force once, and runs as one unit over all
active lanes; it is never spread out lane by lane. Whoever joins it learns its result, or that it
panicked, or that it did not finish in time.
-/

set_option autoImplicit false

namespace Lanewise

/-- How the run of a task ends, if it does. -/
inductive Run (α : Type) where
  | finished (value : α)
  | panicked
  /-- The task is still running when it is joined. -/
  | unfinished

/-- Why joining a task gives no result. -/
inductive TaskError where
  | panicked
  | timeout (limit : Duration)
  deriving DecidableEq

/-- The text of an error. -/
def TaskError.message : TaskError → String
  | panicked => "task panicked"
  | timeout limit => "task did not finish within " ++ limit.text

/-- A spawned task: the mask that it captured, and its run. -/
structure LaneTask (α : Type) where
  mask : Mask
  run : Run α

namespace LaneTask

variable {α : Type}

/-- Spawns a task over the lanes of a mask. -/
def spawn (mask : Mask) (body : Mask → Run α) : LaneTask α :=
  { mask, run := body mask }

/-- Waits for a task. Waiting for a task that does not finish does not end. -/
def join? (t : LaneTask α) : Option (Except TaskError α) :=
  match t.run with
  | .finished value => some (.ok value)
  | .panicked => some (.error .panicked)
  | .unfinished => none

/-- Waits for a task, but no longer than a limit. -/
def joinWithin (t : LaneTask α) (limit : Duration) : Except TaskError α :=
  t.join?.getD (.error (.timeout limit))

end LaneTask

end Lanewise
