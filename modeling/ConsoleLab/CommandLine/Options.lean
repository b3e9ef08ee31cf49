/-
  ConsoleLab.CommandLine.Options — the arguments of the command.

  Arguments are read from left to right. An option that takes a value takes it from the
  same argument, or from the next one unless that looks like an option. After two
  dashes every argument is a file. The first argument that is wrong, or asks for help
  or the version, decides; what is missing or contradictory shows only at the end.
-/

import ConsoleLab.Run.Basic

namespace ConsoleLab.CommandLine

inductive Switch
  | plain
  | unbounded
  | legacyPrintOrder
  | verbose
  deriving DecidableEq

inductive Setting
  | input
  | maxSteps
  | undefinedMarker
  deriving DecidableEq

inductive Request
  | turnOn (switch : Switch)
  | set (setting : Setting)
  | help
  | version
  deriving DecidableEq

def Request.ofLong? (name : String) : Option Request :=
  match name with
  | "plain" => some (turnOn .plain)
  | "unbounded" => some (turnOn .unbounded)
  | "legacy-print-order" => some (turnOn .legacyPrintOrder)
  | "verbose" => some (turnOn .verbose)
  | "input" => some (set .input)
  | "max-steps" => some (set .maxSteps)
  | "undefined-marker" => some (set .undefinedMarker)
  | "help" => some help
  | "version" => some version
  | _ => none

def Request.ofShort? : Char → Option Request
  | 'v' => some (turnOn .verbose)
  | 'i' => some (set .input)
  | 'h' => some help
  | 'V' => some version
  | _ => none

inductive UsageError
  | unknownOption (name : String)
  | unexpectedValue (option : String)
  | unexpectedFile (name : String)
  | repeated (option : String)
  | badNumber (text : String)
  | missingValue
  | missingFile
  | emptyFile
  | conflict
  deriving DecidableEq

def UsageError.message : UsageError → String
  | unknownOption name => "unexpected argument '" ++ name ++ "' found"
  | unexpectedValue option => "unexpected value for '" ++ option ++ "' found; no more were expected"
  | unexpectedFile name => "unexpected argument '" ++ name ++ "' found"
  | repeated option => "the argument '" ++ option ++ "' cannot be used multiple times"
  | badNumber text => "invalid value '" ++ text ++ "' for '--max-steps <N>'"
  | missingValue => "a value is required for an option but none was supplied"
  | missingFile => "the following required arguments were not provided:\n  <FILE>"
  | emptyFile => "a value is required for '<FILE>' but none was supplied"
  | conflict => "the argument '--max-steps <N>' cannot be used with '--unbounded'"

/-- Why the arguments do not lead to a run. -/
inductive Stop
  | usage (error : UsageError)
  | help
  | version
  deriving DecidableEq

/-- The arguments as far as they have been read. -/
structure Draft where
  file : Option String
  switches : List Switch
  /-- The newest first. -/
  inputs : List String
  maxSteps : Option Nat
  undefinedMarker : Option String
  /-- The option whose value the next argument has to be. -/
  awaited : Option Setting
  /-- Two dashes have been read. -/
  filesOnly : Bool
  deriving DecidableEq

namespace Draft

def blank : Draft := ⟨none, [], [], none, none, none, false⟩

def takeFile (d : Draft) (name : String) : Except Stop Draft :=
  if d.file.isSome then .error (.usage (.unexpectedFile name))
  else if name.isEmpty then .error (.usage .emptyFile)
  else .ok { d with file := some name }

def turnOn (d : Draft) (switch : Switch) (name : String) : Except Stop Draft :=
  if switch ∈ d.switches then .error (.usage (.repeated name))
  else .ok { d with switches := switch :: d.switches }

def takeValue (d : Draft) (setting : Setting) (value : String) : Except Stop Draft :=
  match setting with
  | .input => .ok { d with inputs := value :: d.inputs }
  | .maxSteps =>
    if d.maxSteps.isSome then .error (.usage (.repeated "--max-steps <N>"))
    else
      match Text.readCount? value with
      | some n => .ok { d with maxSteps := some n }
      | none => .error (.usage (.badNumber value))
  | .undefinedMarker =>
    if d.undefinedMarker.isSome then .error (.usage (.repeated "--undefined-marker <TEXT>"))
    else .ok { d with undefinedMarker := some value }

def readLong (d : Draft) (option : List Char) : Except Stop Draft :=
  let name := option.takeWhile (· ≠ '=')
  let attached := option.dropWhile (· ≠ '=')
  let written := String.ofList ('-' :: '-' :: name)
  match Request.ofLong? (String.ofList name) with
  | none => .error (.usage (.unknownOption written))
  | some (.set setting) =>
    match attached with
    | [] => .ok { d with awaited := some setting }
    | _ :: value => d.takeValue setting (String.ofList value)
  | some request =>
    if attached.isEmpty then
      match request with
      | .turnOn switch => d.turnOn switch written
      | .version => .error .version
      | _ => .error .help
    else .error (.usage (.unexpectedValue written))

def readShort (d : Draft) : List Char → Except Stop Draft
  | [] => .ok d
  | letter :: rest =>
    let written := String.ofList ['-', letter]
    match Request.ofShort? letter with
    | none => .error (.usage (.unknownOption written))
    | some (.set setting) =>
      match rest with
      | [] => .ok { d with awaited := some setting }
      | '=' :: value => d.takeValue setting (String.ofList value)
      | value => d.takeValue setting (String.ofList value)
    | some (.turnOn switch) =>
      match d.turnOn switch written with
      | .ok d => d.readShort rest
      | .error stop => .error stop
    | some .version => .error .version
    | some .help => .error .help

/-- Checks that no option waits for a value. -/
def settled (d : Draft) : Except Stop Draft :=
  if d.awaited.isSome then .error (.usage .missingValue) else .ok d

def readArgument (d : Draft) (argument : String) : Except Stop Draft :=
  if d.filesOnly then d.takeFile argument
  else
    match argument.toList with
    | ['-', '-'] => do return { (← d.settled) with filesOnly := true }
    | '-' :: '-' :: option => do (← d.settled).readLong option
    | '-' :: letter :: rest => do (← d.settled).readShort (letter :: rest)
    | _ =>
      match d.awaited with
      | some setting => { d with awaited := none }.takeValue setting argument
      | none => d.takeFile argument

/-- Reads arguments from left to right, up to the first that decides. -/
def readArguments : Draft → List String → Except Stop Draft
  | d, [] => .ok d
  | d, argument :: rest => do (← d.readArgument argument).readArguments rest

end Draft

structure Options where
  file : String
  plain : Bool
  /-- Answers that come before those from the standard input. -/
  inputs : List String
  printOrder : PrintOrder
  config : RunConfig
  /-- Whether the log file is to be written. -/
  verbose : Bool
  deriving DecidableEq

namespace Options

def ofDraft (d : Draft) : Except Stop Options := do
  let d ← d.settled
  match d.file with
  | none => .error (.usage .missingFile)
  | some file =>
    let unbounded := decide (Switch.unbounded ∈ d.switches)
    if unbounded ∧ d.maxSteps.isSome then .error (.usage .conflict)
    else
      let standard := RunConfig.default
      return {
        file := file
        plain := decide (Switch.plain ∈ d.switches)
        inputs := d.inputs.reverse
        printOrder := if Switch.legacyPrintOrder ∈ d.switches then .literalsFirst else .source
        config :=
          ⟨if unbounded then none else d.maxSteps.or standard.maxSteps,
            d.undefinedMarker.getD standard.undefinedMarker⟩
        verbose := decide (Switch.verbose ∈ d.switches) }

def parse (arguments : List String) : Except Stop Options := do
  ofDraft (← Draft.blank.readArguments arguments)

end Options

end ConsoleLab.CommandLine
