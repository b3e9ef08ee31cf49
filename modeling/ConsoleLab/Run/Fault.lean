/-
  ConsoleLab.Run.Fault — what stops a run.
-/

import ConsoleLab.Source.Location

namespace ConsoleLab

open Source (Location)

inductive Fault
  /-- The end of a loop that is not the innermost active one. -/
  | loopMismatch
  /-- A variable that holds text was to be counted up. -/
  | nonNumericIncrement (name value : String)
  | overflow (name : String)
  /-- More instructions than `limit` without a read. -/
  | stepLimit (limit : Nat)
  deriving DecidableEq

namespace Fault

def message : Fault → String
  | loopMismatch => "the end of a loop was reached without its start"
  | nonNumericIncrement name value =>
    "cannot add 1 to '" ++ name ++ "' because it holds \"" ++ value ++ "\", not a number"
  | overflow name => "'" ++ name ++ "' became too large to count"
  | stepLimit limit =>
    "too many steps (" ++ limit.repr ++ "), the program may be stuck in a loop"

def diagnostic (fault : Fault) (place : Location) : String :=
  "Runtime error (line " ++ place.line.repr ++ "): " ++ fault.message

end Fault

end ConsoleLab
