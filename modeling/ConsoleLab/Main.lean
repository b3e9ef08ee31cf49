/-
  ConsoleLab.Main — the command itself.

  It reads the file and the standard input, writes what the library answers, and leaves
  with the exit code. Nothing is decided here.
-/

import ConsoleLab.CommandLine.Command

namespace ConsoleLab.Main

open CommandLine

/-- The number of steps after which a run without a step limit is given up. -/
def patience : Nat := 4611686018427387904

def readError (e : IO.Error) : ReadError :=
  match e with
  | .noFileOrDirectory _ _ _ => .notFound
  | .inappropriateType _ code _ => if code = 20 then .notDirectory else .isDirectory
  | e => .other e.toString

def readSource (file : String) : IO (Except ReadError String) := do
  try
    match String.fromUTF8? (← IO.FS.readBinFile file) with
    | some text => return .ok text
    | none => return .error .notUtf8
  catch e => return .error (readError e)

def writePieces (pieces : List String) : IO Unit := do
  let out ← IO.getStdout
  pieces.forM out.putStr
  out.flush

/-- Answers a run that still waits with the lines of the standard input. -/
partial def answerFromInput (input : IO.FS.Stream) (last : PlainRun) : IO PlainRun := do
  if last.ending ≠ .inputEnded then return last
  let line ← try input.getLine catch _ => pure ""
  if line.isEmpty then return last
  let printed := last.run.transcript.text.utf8ByteSize
  let next := giveAnswers patience printed (some .waiting) last.run (Text.lines line)
  writePieces next.pieces
  answerFromInput input next

def runPlain (o : Options) (p : Program) : IO UInt32 := do
  let err ← IO.getStderr
  p.skipped.forM fun piece => err.putStr (warning piece)
  let played := plainSession patience p o.config o.inputs
  writePieces played.pieces
  let last ← answerFromInput (← IO.getStdin) played
  err.putStr (complaint last.ending)
  return UInt32.ofNat (exitCode last.ending)

end ConsoleLab.Main

open ConsoleLab.CommandLine in
def main (arguments : List String) : IO UInt32 := do
  let err ← IO.getStderr
  match Options.parse arguments with
  | .error stop =>
    let outcome := stopOutcome stop
    IO.print outcome.out
    err.putStr outcome.err
    return UInt32.ofNat outcome.code
  | .ok o =>
    if o.verbose then IO.FS.writeFile logFile ""
    match load o (← ConsoleLab.Main.readSource o.file) with
    | .error text =>
      err.putStr text
      return 1
    | .ok p =>
      if o.plain then ConsoleLab.Main.runPlain o p
      else
        err.putStr noScreen
        return 1
