/-
  ConsoleLab.Session.Basic — a session at the keyboard.

  A session shows one run of a program at a time and passes typed answers to it. While
  the run waits, characters go to the answer; otherwise they are commands. Moving the
  focus and scrolling never touch the run.
-/

import ConsoleLab.Pane.Source
import ConsoleLab.Pane.Variables
import ConsoleLab.Run.Answer

namespace ConsoleLab

open Pane (SourceScroll VariablesScroll)

inductive Focus
  | source
  | console
  | store
  deriving DecidableEq

def Focus.next : Focus → Focus
  | source => console
  | console => store
  | store => source

inductive Key
  | escape
  | tab
  | up
  | down
  | enter
  | backspace
  | char (c : Char)
  /-- Any key without a meaning here. -/
  | other
  deriving DecidableEq

/-- The largest scroll position; it stands for the newest output. -/
def scrollLimit : Nat := UInt64.size - 1

structure Session where
  program : Program
  config : RunConfig
  source : String
  run : Run
  typed : String
  focus : Focus
  sourceScroll : SourceScroll
  consoleScroll : Nat
  variablesScroll : VariablesScroll
  runs : Nat
  quit : Bool
  /-- What the status bar says, as it was written last. -/
  message : String
  deriving DecidableEq

namespace Session

def statusLine (status : Option Status) (prompt : Option String) (runs : Nat) : String :=
  let text :=
    match status with
    | some .waiting =>
      match prompt with
      | some prompt => "Waiting: " ++ prompt
      | none => "Waiting for input"
    | some .finished => "Program finished"
    | some .halted => "Program stopped by an error"
    | none => "Running"
  if 1 < runs then text ++ " (run " ++ runs.repr ++ ")" else text

def refresh (s : Session) : Session :=
  { s with message := statusLine s.run.status? (s.run.pending?.map PendingRead.prompt) s.runs }

def start (fuel : Nat) (program : Program) (config : RunConfig) (source : String) : Session :=
  refresh {
    program := program
    config := config
    source := source
    run := Run.begin fuel program.code config
    typed := ""
    focus := .source
    sourceScroll := .start
    consoleScroll := scrollLimit
    variablesScroll := .start
    runs := 1
    quit := false
    message := "" }

/-- Gives the typed answer to the run. The reason for which it is refused is written over at
    once. -/
def submit (fuel : Nat) (s : Session) : Session :=
  let taken := { s with typed := "" }
  let given :=
    match s.run.answer fuel s.typed with
    | .ok run => { taken with run := run }
    | .error e => { taken with message := e.message }
  { given with consoleScroll := scrollLimit }.refresh

def rerun (fuel : Nat) (s : Session) : Session :=
  refresh { s with
    run := Run.begin fuel s.program.code s.config
    runs := s.runs + 1
    typed := ""
    consoleScroll := scrollLimit
    variablesScroll := .start }

def scrollUp (s : Session) : Session :=
  match s.focus with
  | .source => { s with sourceScroll := s.sourceScroll.up scrollLimit }
  | .console => { s with consoleScroll := s.consoleScroll - 1 }
  | .store => { s with variablesScroll := s.variablesScroll.up }

def scrollDown (s : Session) : Session :=
  match s.focus with
  | .source => { s with sourceScroll := s.sourceScroll.down }
  | .console => { s with consoleScroll := min (s.consoleScroll + 1) scrollLimit }
  | .store => { s with variablesScroll := s.variablesScroll.down scrollLimit }

def eraseLast (typed : String) : String :=
  String.ofList typed.toList.dropLast

def typeKey (fuel : Nat) (s : Session) : Key → Session
  | .enter => s.submit fuel
  | .backspace => { s with typed := eraseLast s.typed }
  | .char c => { s with typed := s.typed.push c }
  | _ => s

def commandKey (fuel : Nat) (s : Session) : Key → Session
  | .char c =>
    if c = 'q' ∨ c = 'Q' then { s with quit := true }
    else if c = 'r' ∨ c = 'R' then s.rerun fuel
    else s
  | _ => s

def handle (fuel : Nat) (s : Session) (key : Key) : Session :=
  match key with
  | .escape => { s with quit := true }
  | .tab => { s with focus := s.focus.next }
  | .up => s.scrollUp
  | .down => s.scrollDown
  | key => if s.run.pending?.isSome then s.typeKey fuel key else s.commandKey fuel key

end Session

end ConsoleLab
