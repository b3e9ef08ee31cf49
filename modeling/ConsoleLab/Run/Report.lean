/-
  ConsoleLab.Run.Report — what a call tells its caller.

  A call hands back a word next to the run: it names the place where control came back, a
  read, the end of the code or an instruction that failed. `goOn` is the run with that word,
  `resumeReport` and `answerReport` are the two calls with it.
-/

import ConsoleLab.Run.Answer

namespace ConsoleLab.Run

/-- Carries out at most `n` instructions and tells why it went no further; no word if only the
    bound was reached. -/
def goOn : Nat → Run → Option Status × Run
  | 0, r => (none, r)
  | n + 1, r =>
    match r.code[r.pc]? with
    | none => (some .finished, r.finish)
    | some i =>
      match readOf? i.action with
      | some read => (some .waiting, { r with place := i.place, phase := .waiting read })
      | none =>
        match (r.charge i).execute i.action with
        | .ok next => goOn n next
        | .error fault => (some .halted, (r.charge i).halt fault)

def budget (fuel : Nat) (r : Run) : Nat :=
  match r.config.maxSteps with
  | some limit => limit + 1
  | none => fuel

def resumeReport (fuel : Nat) (r : Run) : Option Status × Run :=
  match r.phase with
  | .ready => { r with charged := 0 }.goOn (r.budget fuel)
  | .waiting _ => (some .waiting, r)
  | .finished => (some .finished, r)
  | .halted _ => (some .halted, r)

/-- An answer, with the word for where control came back. An answer that leaves variables without
    a value hands control back at once. -/
def answerReport (fuel : Nat) (r : Run) (raw : String) : Except AnswerError (Option Status × Run) :=
  match r.phase with
  | .waiting read =>
    let next := r.accept read (Text.trim raw)
    match next.phase with
    | .waiting _ => .ok (some .waiting, next)
    | _ => .ok (next.resumeReport fuel)
  | _ => .error .notWaiting

end ConsoleLab.Run
