/-
  ConsoleLab.Run.Answer — answering a read.

  An answer is trimmed and echoed. A read of one variable takes all of it or its first
  character. A formatted read takes its pieces between white space and commas, one for
  each variable; while there are fewer pieces than variables the run keeps waiting for
  the rest, and pieces to spare are dropped.
-/

import ConsoleLab.Run.Step

namespace ConsoleLab

def firstCharacter (s : String) : String :=
  String.ofList (s.toList.take 1)

def ReadMode.valueOf (mode : ReadMode) (answer : String) : Value :=
  match mode with
  | .value => .text answer
  | .line => .text answer
  | .character => .text (firstCharacter answer)

def ScanHint.valueOf (hint : ScanHint) (piece : String) : Value :=
  match hint with
  | .integer =>
    match Text.readInt64? piece with
    | some n => .int n
    | none => .text piece
  | .char => .text (firstCharacter piece)
  | .float => .text piece
  | .string => .text piece

def answerPieces (answer : String) : List String :=
  Text.piecesBetween (fun c => Text.isBlank c || c == ',') answer

/-- Gives each variable its piece, read by its hint, as long as there are pieces. -/
def Store.scan (s : Store) (names : List String) (hints : List ScanHint) (pieces : List String) :
    Store :=
  ((names.zip hints).zip pieces).foldl
    (fun s ((name, hint), piece) => s.set name (hint.valueOf piece)) s

inductive AnswerError
  | notWaiting
  deriving DecidableEq

def AnswerError.message : AnswerError → String
  | notWaiting => "the program is not waiting for input"

namespace Run

def passRead (r : Run) (store : Store) : Run :=
  { r with store := store, pc := r.pc + 1, phase := .ready }

def accept (r : Run) (read : PendingRead) (answer : String) : Run :=
  let r := { r with transcript := r.transcript.echo answer }
  match read with
  | .one name mode => r.passRead (r.store.set name (mode.valueOf answer))
  | .many names hints =>
    let pieces := answerPieces answer
    let store := r.store.scan names hints pieces
    if pieces.length < names.length then
      let rest := .many (names.drop pieces.length) (hints.drop pieces.length)
      { r with store := store, phase := .waiting rest }
    else r.passRead store

def answer (fuel : Nat) (r : Run) (raw : String) : Except AnswerError Run :=
  match r.phase with
  | .waiting read =>
    .ok ((r.accept read (Text.trim raw)).resume fuel)
  | _ => .error .notWaiting

def begin (fuel : Nat) (code : Array Instruction) (config : RunConfig) : Run :=
  (start code config).resume fuel

end Run

end ConsoleLab
