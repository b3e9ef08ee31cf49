/-
  ConsoleLab.Statement.Recognize — what a statement of the source means.

  A statement is recognised by its first word. The forms that run are

      print  ::= cout ("<<" operand)+
      read   ::= cin (">>" name)+
      scan   ::= scanf "(" string ("," ["&"] name)* ")"
      line   ::= gets "(" name ")" | getline "(" cin "," name ")"
      char   ::= [type] name "=" getchar "(" ")" | getchar "(" ")"

  with `std ::` dropped wherever it stands. Declarations, `return` and `using` have no
  effect; everything else is skipped, and the learner is told why.
-/

import ConsoleLab.Lexeme.Basic
import ConsoleLab.Statement.ScanFormat

namespace ConsoleLab

inductive SkipReason
  | blockRunsOnce
  | printWithoutInsert
  | nothingToPrint
  | readWithoutExtract
  | nothingToRead
  | scanWithoutFormat
  | nothingToScan
  | lineForm
  | streamLineForm
  | formattedPrint
  | jump
  | control
  | initialValue
  | assignment
  | looseIncrement
  | unknown
  deriving DecidableEq

def SkipReason.message : SkipReason → String
  | blockRunsOnce => "only counting for-loops are simulated; this block runs once"
  | printWithoutInsert => "cout needs `<<` before each value"
  | nothingToPrint => "nothing to print"
  | readWithoutExtract => "cin needs `>>` before each variable"
  | nothingToRead => "cin needs a variable to read into"
  | scanWithoutFormat => "scanf needs a format string, like `scanf(\"%d\", &x)`"
  | nothingToScan => "scanf needs at least one variable"
  | lineForm => "gets needs one variable, like `gets(name)`"
  | streamLineForm => "getline needs the form `getline(cin, name)`"
  | formattedPrint => "printf is not simulated; use cout to print"
  | jump => "break and continue are not simulated"
  | control => "only counting for-loops are simulated"
  | initialValue => "initial values are not simulated; values come from input or a loop"
  | assignment => "assignments are not simulated; values come from input or a loop"
  | looseIncrement => "++ and -- only work in a for-loop header"
  | unknown => "this statement is not simulated"

inductive Recognized
  | statements (all : List Statement)
  /-- It has no effect that a learner could see. -/
  | silent
  | skipped (reason : SkipReason)
  deriving DecidableEq

inductive Opening
  | print
  | read
  | scan
  | line
  | streamLine
  | character
  | formattedPrint
  | silent
  | jump
  | control
  | typeName
  | other
  deriving DecidableEq

def typeNames : List String :=
  ["int", "char", "float", "double", "string", "bool", "long", "short", "unsigned", "signed",
    "auto", "const"]

def Opening.ofWord (word : String) : Opening :=
  if word = "cout" then .print
  else if word = "cin" then .read
  else if word = "scanf" then .scan
  else if word = "gets" then .line
  else if word = "getline" then .streamLine
  else if word = "getchar" then .character
  else if word ∈ ["printf", "puts"] then .formattedPrint
  else if word ∈ ["return", "using"] then .silent
  else if word ∈ ["break", "continue"] then .jump
  else if word ∈ ["if", "else", "while", "do", "switch"] then .control
  else if word ∈ typeNames then .typeName
  else .other

namespace Recognize

def withoutStd : List LexemeKind → List LexemeKind
  | .ident "std" :: .symbol .scope :: rest => withoutStd rest
  | lexeme :: rest => lexeme :: withoutStd rest
  | [] => []

def leadingName? (piece : List LexemeKind) : Option String :=
  piece.head?.bind LexemeKind.name?

/-- The part that an operand of a print stands for: its first lexeme decides. -/
def partOf? : List LexemeKind → Option PrintPart
  | .string text :: _ => some (.literal text)
  | .char text :: _ => some (.literal text)
  | .int value :: _ => some (.literal (Text.int64Text value))
  | .float text :: _ => some (.literal text)
  | .ident name :: _ => some (if name = "endl" then .newline else .var name)
  | _ => none

/-- The pieces behind each `mark`, if the list starts with one. -/
def piecesBehind? (mark : Symbol) : List LexemeKind → Option (List (List LexemeKind))
  | .symbol first :: rest => if first = mark then some (rest.splitOn (.symbol mark)) else none
  | _ => none

def print (order : PrintOrder) (rest : List LexemeKind) : Recognized :=
  match piecesBehind? .insert rest with
  | none => .skipped .printWithoutInsert
  | some operands =>
    match operands.filterMap partOf? with
    | [] => .skipped .nothingToPrint
    | parts => .statements [.print (order.arrange parts)]

def read (rest : List LexemeKind) : Recognized :=
  match piecesBehind? .extract rest with
  | none => .skipped .readWithoutExtract
  | some targets =>
    match targets.filterMap leadingName? with
    | [] => .skipped .nothingToRead
    | names => .statements (names.map fun name => .read name .value)

/-- The lexemes before the last closing parenthesis, or all of them if there is none. -/
def beforeLastClose (lexemes : List LexemeKind) : List LexemeKind :=
  match lexemes.reverse.dropWhile (· ≠ .symbol .closeParen) with
  | [] => lexemes
  | _ :: before => before.reverse

def scanTarget? : List LexemeKind → Option String
  | .symbol .ampersand :: rest => leadingName? rest
  | argument => leadingName? argument

/-- The first `n` of `hints`; where there are fewer, the rest are integers. -/
def padHints (n : Nat) (hints : List ScanHint) : List ScanHint :=
  hints.take n ++ List.replicate (n - hints.length) .integer

/-- A formatted read. What stands between the format and the first comma is passed
    over. -/
def scan : List LexemeKind → Recognized
  | .symbol .openParen :: .string format :: rest =>
    match ((beforeLastClose rest).splitOn (.symbol .comma)).tail.filterMap scanTarget? with
    | [] => .skipped .nothingToScan
    | names => .statements [.scan names (padHints names.length (ScanFormat.hints format))]
  | _ => .skipped .scanWithoutFormat

def line : List LexemeKind → Recognized
  | [.symbol .openParen, .ident name, .symbol .closeParen] => .statements [.read name .line]
  | _ => .skipped .lineForm

def streamLine : List LexemeKind → Recognized
  | [.symbol .openParen, .ident stream, .symbol .comma, .ident name, .symbol .closeParen] =>
    if stream = "cin" then .statements [.read name .line] else .skipped .streamLineForm
  | _ => .skipped .streamLineForm

def getcharCall : List LexemeKind :=
  [.ident "getchar", .symbol .openParen, .symbol .closeParen]

def named (name : String) : List LexemeKind → Recognized
  | .symbol .assign :: rest =>
    if rest = getcharCall then .statements [.read name .character] else .skipped .assignment
  | [.symbol .increment] => .skipped .looseIncrement
  | [.symbol .decrement] => .skipped .looseIncrement
  | _ => .skipped .unknown

def isTypeName : LexemeKind → Bool
  | .ident word => decide (word ∈ typeNames)
  | _ => false

def declaration (rest : List LexemeKind) : Recognized :=
  let body := rest.dropWhile isTypeName
  if body.contains (.symbol .assign) then
    match body with
    | .ident name :: .symbol .assign :: value =>
      if value = getcharCall then .statements [.read name .character]
      else .skipped .initialValue
    | _ => .skipped .initialValue
  else .silent

end Recognize

def recognize (order : PrintOrder) (chunk : List LexemeKind) : Recognized :=
  match Recognize.withoutStd chunk with
  | [] => .silent
  | .ident word :: rest =>
    match Opening.ofWord word with
    | .print => Recognize.print order rest
    | .read => Recognize.read rest
    | .scan => Recognize.scan rest
    | .line => Recognize.line rest
    | .streamLine => Recognize.streamLine rest
    | .character =>
      if .ident word :: rest = Recognize.getcharCall then
        .statements [.read getcharSlot .character]
      else Recognize.named word rest
    | .formattedPrint => .skipped .formattedPrint
    | .silent => .silent
    | .jump => .skipped .jump
    | .control => .skipped .control
    | .typeName => Recognize.declaration rest
    | .other => Recognize.named word rest
  | _ :: _ => .skipped .unknown

end ConsoleLab
