import Bootstrap.Machine.Launch

/-!
# The end of a utility

What a utility prints is written at its end, unless it has to be there earlier; if it
cannot be written, the utility fails.
-/

namespace Bootstrap.Utility

open Machine

/-- Writes what is still to be written; where that failed, the utility did, with a status of its
own. -/
def settle (failure status : Nat) : Step Nat := do
  Step.flush
  match (← get).outputFault with
  | some e =>
      modify fun p => { p with outputFault := none }
      Step.complain (raw "write error: " ++ raw e.strerror)
      return failure
  | none => return status

/-- Runs a utility: what it prints is written at its end, however it ends. -/
def runPlain (failure : Nat) (work : Step Nat) : Step Nat := do
  let p ← get
  let (result, after) := Id.run (work.run.run p)
  set after
  match result with
  | .ok status => settle failure status
  | .error (.exited status) => settle failure status
  | .error e => throw e

end Bootstrap.Utility
