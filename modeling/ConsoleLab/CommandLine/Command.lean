/-
  ConsoleLab.CommandLine.Command — the command from its arguments to its exit.

  `respond` is the whole command as a function: arguments, the files it may read and the
  bytes of its standard input give the exit code and what is written.
-/

import ConsoleLab.CommandLine.Options
import ConsoleLab.CommandLine.Plain

namespace ConsoleLab.CommandLine

inductive ReadError
  | notFound
  | notDirectory
  | isDirectory
  | notUtf8
  /-- Any other reason that the operating system gives. -/
  | other (description : String)
  deriving DecidableEq

def ReadError.message : ReadError → String
  | notFound => "No such file or directory (os error 2)"
  | notDirectory => "Not a directory (os error 20)"
  | isDirectory => "Is a directory (os error 21)"
  | notUtf8 => "stream did not contain valid UTF-8"
  | other description => description

structure Outcome where
  code : Nat
  out : String
  err : String
  logged : Bool
  deriving DecidableEq

def logFile : String := "sprout.log"

def versionText : String := "sprout 0.1.0\n"

def usageLine : String := "Usage: sprout [OPTIONS] <FILE>\n"

def helpText : String :=
  "Run beginner C++ programs in a simulated console\n\n" ++ usageLine ++
  "\nArguments:\n" ++
  "  <FILE>  C++ source file to run\n" ++
  "\nOptions:\n" ++
  "      --plain                    Print the console to stdout instead of opening the TUI\n" ++
  "  -i, --input <VALUE>            Answer for the next read; repeat for several (plain mode)\n" ++
  "      --max-steps <N>            Tokens one run may execute between two reads " ++
  "[default: 100000]\n" ++
  "      --unbounded                Disable the step guard\n" ++
  "      --legacy-print-order       Print literals before variables, like the old web " ++
  "playground\n" ++
  "      --undefined-marker <TEXT>  Text printed for a variable that was never assigned\n" ++
  "  -v, --verbose                  Write debug logs to sprout.log\n" ++
  "  -h, --help                     Print help\n" ++
  "  -V, --version                  Print version\n"

def usageText (e : UsageError) : String :=
  "error: " ++ e.message ++ "\n\n" ++ usageLine ++ "\nFor more information, try '--help'.\n"

def stopOutcome : Stop → Outcome
  | .usage error => ⟨2, "", usageText error, false⟩
  | .help => ⟨0, helpText, "", false⟩
  | .version => ⟨0, versionText, "", false⟩

def load (o : Options) (source : Except ReadError String) : Except String Program :=
  match source with
  | .error e => .error ("sprout: cannot read " ++ o.file ++ ": " ++ e.message ++ "\n")
  | .ok source =>
    match Program.parse o.printOrder source with
    | .error e => .error (e.render source)
    | .ok p => .ok p

def noScreen : String := "sprout: no terminal to draw on; use --plain\n"

def plainOutcome (fuel : Nat) (o : Options) (p : Program) (stdin : ByteArray) : Outcome :=
  let answers := o.inputs ++ Text.linesOfBytes stdin
  let played := plainSession fuel p o.config answers
  ⟨exitCode played.ending, "".intercalate played.pieces,
    "".intercalate (p.skipped.map warning) ++ complaint played.ending, o.verbose⟩

def respond (fuel : Nat) (arguments : List String) (readFile : String → Except ReadError String)
    (stdin : ByteArray) : Outcome :=
  match Options.parse arguments with
  | .error stop => stopOutcome stop
  | .ok o =>
    match load o (readFile o.file) with
    | .error text => ⟨1, "", text, o.verbose⟩
    | .ok p => if o.plain then plainOutcome fuel o p stdin else ⟨1, "", noScreen, o.verbose⟩

end ConsoleLab.CommandLine
