/-
  ConsoleLab.CommandLine.Plain — running a program without a screen.

  The transcript is written as it grows, piece by piece: each time the run hands back control,
  what it holds behind the bytes written so far. What happens next is decided by the word that
  the call handed back. The session ends when the program does, or when it waits and there is
  no answer left.
-/

import ConsoleLab.Run.Report
import ConsoleLab.Text.Bytes

namespace ConsoleLab.CommandLine

inductive Ending
  | finished
  | halted
  /-- The run waits, and there is no answer left. -/
  | inputEnded
  | refused (error : AnswerError)
  /-- What was written so far ends inside a character. -/
  | cutInside
  /-- The run has no step limit and has used up its fuel. -/
  | outOfFuel
  deriving DecidableEq

structure PlainRun where
  /-- What was written, piece by piece. -/
  pieces : List String
  ending : Ending
  run : Run
  deriving DecidableEq

/-- What the transcript of a run holds behind its first `printed` bytes. -/
def textAfter? (printed : Nat) (r : Run) : Option String :=
  (Text.dropBytes? printed r.transcript.text.toList).map String.ofList

/-- Writes what is new, and goes on as the word of the last call says: with an answer where the
    run waits for one. -/
def giveAnswers (fuel printed : Nat) (word : Option Status) (r : Run) (answers : List String) :
    PlainRun :=
  match textAfter? printed r with
  | none => ⟨[], .cutInside, r⟩
  | some piece =>
    match word with
    | none => ⟨[piece], .outOfFuel, r⟩
    | some .finished => ⟨[piece], .finished, r⟩
    | some .halted => ⟨[piece], .halted, r⟩
    | some .waiting =>
      match answers with
      | [] => ⟨[piece], .inputEnded, r⟩
      | answer :: rest =>
        match r.answerReport fuel answer with
        | .error e => ⟨[piece], .refused e, r⟩
        | .ok (word, next) =>
          let later := giveAnswers fuel r.transcript.text.utf8ByteSize word next rest
          { later with pieces := piece :: later.pieces }

def plainSession (fuel : Nat) (p : Program) (config : RunConfig) (answers : List String) :
    PlainRun :=
  let (word, r) := (Run.start p.code config).resumeReport fuel
  giveAnswers fuel 0 word r answers

/-- The exit code; an error that is passed on leaves with 1, and a cut inside a character breaks
    the session off. -/
def exitCode : Ending → Nat
  | .finished => 0
  | .halted | .inputEnded | .outOfFuel => 2
  | .refused _ => 1
  | .cutInside => 101

def inputEnded : String := "sprout: input ended while the program was waiting for a value\n"

def complaint : Ending → String
  | .inputEnded => inputEnded
  | .refused .notWaiting => "Error: Custom \x7b kind: Other, error: NotAwaitingInput \x7d\n"
  | .finished | .halted | .cutInside | .outOfFuel => ""

def warning (s : Skipped) : String :=
  "warning: line " ++ s.place.line.repr ++ ": `" ++ s.text ++ "` is not simulated (" ++
    s.reason.message ++ ")\n"

end ConsoleLab.CommandLine
