/-
  ConsoleLab.Run.Basic — one run of a program.

  A run is ready to go on, waits for an answer, or has stopped. It keeps the index of
  the next instruction, the variables, the transcript, the loops it is in, and how many
  instructions were charged to the step limit.
-/

import ConsoleLab.Program.Basic
import ConsoleLab.Run.Fault
import ConsoleLab.Run.Store
import ConsoleLab.Run.Transcript

namespace ConsoleLab

open Source (Location)

structure RunConfig where
  /-- How many instructions may be carried out between two reads. -/
  maxSteps : Option Nat
  /-- What is printed for a variable that was never assigned. -/
  undefinedMarker : String
  deriving DecidableEq

def RunConfig.default : RunConfig := ⟨some 100000, "[undefined]"⟩

inductive PendingRead
  | one (name : String) (mode : ReadMode)
  /-- The variables of a formatted read that have no value yet, with their hints. -/
  | many (names : List String) (hints : List ScanHint)
  deriving DecidableEq

namespace PendingRead

def names : PendingRead → List String
  | one name _ => [name]
  | many names _ => names

def prompt : PendingRead → String
  | one name .value => "enter a value for " ++ name
  | one name .line => "enter a line for " ++ name
  | one name .character =>
    if name = getcharSlot then "enter a character" else "enter a character for " ++ name
  | many names hints =>
    "enter " ++ ", ".intercalate names ++ " (" ++ " ".intercalate (hints.map ScanHint.text) ++ ")"

end PendingRead

structure LoopFrame where
  /-- The index of its first instruction. -/
  start : Nat
  bodyStart : Nat
  condition : Loop.Condition
  stepName : String
  deriving DecidableEq

inductive Phase
  | ready
  | waiting (read : PendingRead)
  | finished
  | halted (fault : Fault)
  deriving DecidableEq

/-- Where a run stands when control comes back. -/
inductive Status
  | finished
  | waiting
  | halted
  deriving DecidableEq

def Status.text : Status → String
  | finished => "FINISHED"
  | waiting => "INPUT"
  | halted => "HALTED"

/-- What the instructions of a program work on. -/
structure Machine where
  code : Array Instruction
  config : RunConfig
  pc : Nat
  store : Store
  transcript : Transcript
  /-- The active loops, the innermost first. -/
  loops : List LoopFrame
  /-- The place of the instruction that was reached last. -/
  place : Location
  /-- The instructions charged to the step limit since control was last handed to the run. -/
  charged : Nat
  deriving DecidableEq

structure Run extends Machine where
  phase : Phase
  deriving DecidableEq

namespace Run

def start (code : Array Instruction) (config : RunConfig) : Run where
  code := code
  config := config
  pc := 0
  store := .empty
  transcript := .empty
  loops := []
  phase := .ready
  place := (code[0]?.map Instruction.place).getD .nowhere
  charged := 0

def status? (r : Run) : Option Status :=
  match r.phase with
  | .ready => none
  | .waiting _ => some .waiting
  | .finished => some .finished
  | .halted _ => some .halted

def pending? (r : Run) : Option PendingRead :=
  match r.phase with
  | .waiting read => some read
  | _ => none

def isRunning (r : Run) : Bool :=
  match r.phase with
  | .ready | .waiting _ => true
  | .finished | .halted _ => false

/-- Whether a run stands between two instructions. -/
def isReady (r : Run) : Bool :=
  match r.phase with
  | .ready => true
  | _ => false

end Run

end ConsoleLab
