/-
  ConsoleLab.Run.Engine — a run with the flags that the engine keeps.

  Between two calls the engine keeps whether the run goes on, whether it has halted, and the
  read that it waits for. Each flag is set on its own, and a call looks at them one by one. The
  instructions know nothing of them: they work on the rest as they do in a `Run`, which has one
  phase in place of the flags.
-/

import ConsoleLab.Run.Report

namespace ConsoleLab

structure Engine extends Machine where
  /-- Not set back when the run waits. -/
  running : Bool
  halted : Bool
  pendingRead : Option PendingRead
  deriving DecidableEq

namespace Engine

def start (code : Array Instruction) (config : RunConfig) : Engine where
  toMachine := (Run.start code config).toMachine
  running := true
  halted := false
  pendingRead := none

def body (e : Engine) : Run :=
  ⟨e.toMachine, .ready⟩

/-- Takes over what an instruction has done; it touches no flag. -/
def keep (e : Engine) (r : Run) : Engine :=
  { e with toMachine := r.toMachine }

def finish (e : Engine) : Engine :=
  { e.keep e.body.finish with running := false }

def halt (e : Engine) (fault : Fault) : Engine :=
  { e.keep (e.body.halt fault) with running := false, halted := true, pendingRead := none }

def stoppedStatus (e : Engine) : Status :=
  if e.halted then .halted else .finished

def status? (e : Engine) : Option Status :=
  if e.pendingRead.isSome then some .waiting
  else if e.running then none
  else some e.stoppedStatus

def goOn : Nat → Engine → Option Status × Engine
  | 0, e => (none, e)
  | n + 1, e =>
    match e.code[e.pc]? with
    | none => (some .finished, e.finish)
    | some i =>
      match Run.readOf? i.action with
      | some read => (some .waiting, { e with place := i.place, pendingRead := some read })
      | none =>
        let charged := e.keep (e.body.charge i)
        match charged.body.execute i.action with
        | .ok next => goOn n (charged.keep next)
        | .error fault => (some .halted, charged.halt fault)

def resume (fuel : Nat) (e : Engine) : Option Status × Engine :=
  if e.running then
    if e.pendingRead.isSome then (some .waiting, e)
    else { e with charged := 0 }.goOn (e.body.budget fuel)
  else (some e.stoppedStatus, e)

def passRead (fuel : Nat) (e : Engine) : Except AnswerError (Option Status) × Engine :=
  let (word, next) := { e with pc := e.pc + 1 }.resume fuel
  (.ok word, next)

/-- Answers the pending read. The read is taken out before anything is known about the answer,
    and what an answer leaves of it is put back. -/
def supplyInput (fuel : Nat) (e : Engine) (raw : String) :
    Except AnswerError (Option Status) × Engine :=
  let taken := { e with pendingRead := none }
  match e.pendingRead with
  | none => (.error .notWaiting, taken)
  | some read =>
    let value := Text.trim raw
    let echoed := { taken with transcript := taken.transcript.echo value }
    match read with
    | .one name mode =>
      { echoed with store := echoed.store.set name (mode.valueOf value) }.passRead fuel
    | .many names hints =>
      let pieces := answerPieces value
      let stored := { echoed with store := echoed.store.scan names hints pieces }
      if pieces.length < names.length then
        let rest := .many (names.drop pieces.length) (hints.drop pieces.length)
        (.ok (some .waiting), { stored with pendingRead := some rest })
      else stored.passRead fuel

end Engine

end ConsoleLab
