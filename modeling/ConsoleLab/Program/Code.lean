/-
  ConsoleLab.Program.Code — the instructions of a program.

  A statement is one instruction. A loop is a `loopStart`, the code of its body and a
  `loopEnd`; either end names the index of the other.
-/

import ConsoleLab.Loop.Header
import ConsoleLab.Statement.Basic

namespace ConsoleLab

open Source (Location)

inductive Action
  | perform (what : Statement)
  /-- Enters a loop, or passes over it to right after the instruction at `stop`. -/
  | loopStart (header : Loop.Header) (stop : Nat)
  /-- Ends a pass through the loop that starts at the instruction at `start`. -/
  | loopEnd (start : Nat)
  deriving DecidableEq

structure Instruction where
  action : Action
  place : Location
  deriving DecidableEq

namespace Instruction

/-- The start of a loop with the index of its end filled in; anything else stays as it is. -/
def endAt (stop : Nat) (i : Instruction) : Instruction :=
  match i.action with
  | .loopStart header _ => { i with action := .loopStart header stop }
  | _ => i

end Instruction

end ConsoleLab
