/-
  ConsoleLab.Run.Step — carrying out instructions.

  `step` carries out one instruction, `steps` at most a given number of them, and
  `resume` as many as it takes until the run waits for an answer or stops. Every
  instruction but a read is charged to the step limit before it is carried out; the one
  that exceeds the limit is not carried out, and the run halts there.
-/

import ConsoleLab.Run.Basic

namespace ConsoleLab

open Source (Location)

/-! ## What an instruction needs from the store -/

namespace Store

def partText (s : Store) (marker : String) : PrintPart → String
  | .literal text => text
  | .var name =>
    match s.get? name with
    | some value => value.display
    | none => marker
  | .newline => "\n"

/-- The text of a print. Unless its last part is a newline, a space is added, so that
    consecutive prints do not run together. -/
def printText (s : Store) (marker : String) (parts : List PrintPart) : String :=
  let text := parts.foldl (fun out part => out ++ s.partText marker part) ""
  if parts.getLast? = some .newline then text else text ++ " "

def numberOf? (s : Store) (name : String) : Option Int64 :=
  match s.get? name with
  | some value => value.number?
  | none => some 0

def operand? (s : Store) : Loop.Operand → Option Int64
  | .var name => s.numberOf? name
  | .lit value => some value

/-- Whether a condition holds; a side that is no number makes it false. -/
def satisfies (s : Store) (c : Loop.Condition) : Bool :=
  match s.operand? c.left, s.operand? c.right with
  | some left, some right => c.comparison.holds left right
  | _, _ => false

def increment (s : Store) (name : String) : Except Fault Store :=
  match s.get? name with
  | none => .ok (s.set name (.int 1))
  | some value =>
    match value.number? with
    | none => .error (.nonNumericIncrement name value.display)
    | some n =>
      if n = Int64.maxValue then .error (.overflow name) else .ok (s.set name (.int (n + 1)))

end Store

namespace Run

/-! ## The end of a run -/

def finishedMessage : String := "Program finished, exit code 0"

def silentFinishMessage : String := "Program finished with no output"

def finish (r : Run) : Run :=
  let message := if r.transcript.hasOutput then finishedMessage else silentFinishMessage
  { r with phase := .finished, loops := [], transcript := r.transcript.system message }

def halt (r : Run) (fault : Fault) : Run :=
  { r with
    phase := .halted fault
    loops := []
    transcript := r.transcript.system (fault.diagnostic r.place) }

/-! ## One instruction -/

def print (r : Run) (parts : List PrintPart) : Run :=
  let text := r.store.printText r.config.undefinedMarker parts
  { r with transcript := r.transcript.print text r.place, pc := r.pc + 1 }

/-- Starts a loop: its variable is set, and if the condition fails the loop is passed over. -/
def enterLoop (r : Run) (header : Loop.Header) (stop : Nat) : Run :=
  let store := r.store.set header.initName (.int header.initValue)
  if store.satisfies header.condition then
    { r with
      store := store
      loops := ⟨r.pc, r.pc + 1, header.condition, header.stepName⟩ :: r.loops
      pc := r.pc + 1 }
  else { r with store := store, pc := stop + 1 }

/-- Ends a pass through the innermost loop, which has to be the one that starts at `start`. -/
def endPass (r : Run) (start : Nat) : Except Fault Run :=
  match r.loops with
  | [] => .error .loopMismatch
  | frame :: outer =>
    if frame.start = start then
      match r.store.increment frame.stepName with
      | .error fault => .error fault
      | .ok store =>
        if store.satisfies frame.condition then
          .ok { r with store := store, pc := frame.bodyStart }
        else .ok { r with store := store, loops := outer, pc := r.pc + 1 }
    else .error .loopMismatch

def readOf? : Action → Option PendingRead
  | .perform (.read name mode) => some (.one name mode)
  | .perform (.scan names hints) => some (.many names hints)
  | _ => none

def isRead (a : Action) : Bool :=
  (readOf? a).isSome

/-- Carries out an action. A read has nothing to carry out: the run waits before it. -/
def perform (r : Run) : Action → Except Fault Run
  | .perform (.print parts) => .ok (r.print parts)
  | .perform (.read _ _) => .ok r
  | .perform (.scan _ _) => .ok r
  | .loopStart header stop => .ok (r.enterLoop header stop)
  | .loopEnd start => r.endPass start

def overLimit? (r : Run) : Option Fault :=
  match r.config.maxSteps with
  | some limit => if limit < r.charged then some (.stepLimit limit) else none
  | none => none

def execute (r : Run) (action : Action) : Except Fault Run :=
  match r.overLimit? with
  | some fault => .error fault
  | none => r.perform action

def charge (r : Run) (i : Instruction) : Run :=
  { r with place := i.place, charged := r.charged + 1 }

/-- The run at an instruction: it waits where the instruction is a read, and else the
    instruction is charged and carried out. -/
def reach (r : Run) (i : Instruction) : Run :=
  match readOf? i.action with
  | some read => { r with place := i.place, phase := .waiting read }
  | none =>
    match (r.charge i).execute i.action with
    | .ok next => next
    | .error fault => (r.charge i).halt fault

/-- One instruction further, or to the end if there is none. A run that waits or has stopped
    stays as it is. -/
def step (r : Run) : Run :=
  if r.isReady then
    match r.code[r.pc]? with
    | none => r.finish
    | some i => r.reach i
  else r

def steps : Nat → Run → Run
  | 0, r => r
  | n + 1, r => if r.isReady then steps n r.step else r

/-! ## Many instructions -/

def uncharged (r : Run) : Run :=
  if r.isReady then { r with charged := 0 } else r

/-- Goes on until the run waits or stops. A step limit is met within one step more than it
    allows; a run without one takes at most `fuel` steps. -/
def resume (fuel : Nat) (r : Run) : Run :=
  match r.config.maxSteps with
  | some limit => r.uncharged.steps (limit + 1)
  | none => r.uncharged.steps fuel

end Run

end ConsoleLab
