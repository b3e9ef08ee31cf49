/-
  ConsoleLab.Program.StructuralError — why a program cannot run at all.

  An error names the line it is about, if there is one, and can be shown together with
  the lines around it.
-/

import ConsoleLab.Text.Blank
import ConsoleLab.Text.Lines

namespace ConsoleLab

inductive StructuralError
  | missingEntry
  | duplicateEntry (line firstLine : Nat)
  | unmatchedClose (line : Nat)
  | unclosedBlock (line : Nat)
  | malformedLoop (line : Nat) (reason : String)
  | loopWithoutBody (line : Nat)
  deriving DecidableEq

namespace StructuralError

def line? : StructuralError → Option Nat
  | missingEntry => none
  | duplicateEntry line _ => some line
  | unmatchedClose line => some line
  | unclosedBlock line => some line
  | malformedLoop line _ => some line
  | loopWithoutBody line => some line

def onLine (line : Nat) : String :=
  "line " ++ line.repr ++ ": "

def message : StructuralError → String
  | missingEntry => "the program needs an `int main()` function"
  | duplicateEntry line firstLine =>
    onLine line ++ "`int main()` is defined again (first defined on line " ++ firstLine.repr ++ ")"
  | unmatchedClose line => onLine line ++ "this `\x7d` has no matching `\x7b`"
  | unclosedBlock line => onLine line ++ "this `\x7b` is never closed"
  | malformedLoop line reason => onLine line ++ "malformed for-loop: " ++ reason
  | loopWithoutBody line => onLine line ++ "the for-loop body must be wrapped in `\x7b \x7d`"

def alignedNumber (width n : Nat) : String :=
  String.ofList (List.replicate (width - n.repr.length) ' ') ++ n.repr

def contextRow (width line n : Nat) (text : String) : String :=
  (if n = line then ">" else " ") ++ " " ++ alignedNumber width n ++ " | " ++ text ++ "\n"

/-- The row of carets below the line at fault. It is indented by the bytes of the white
    space before the text, and has a caret for each character of the trimmed text. -/
def caretRow (width : Nat) (text : String) : String :=
  let indent := text.utf8ByteSize - (String.ofList (Text.trimLeft text.toList)).utf8ByteSize
  let carets := max 1 (Text.trim text).length
  String.ofList
    ([' ', ' '] ++ List.replicate width ' ' ++ [' ', '|', ' '] ++ List.replicate indent ' ' ++
      List.replicate carets '^' ++ ['\n'])

/-- The rows around `line`, which is one of `lines`: up to two before it and two after. -/
def context (lines : List String) (line : Nat) : String :=
  let first := max 1 (line - 2)
  let last := min (line + 2) lines.length
  let width := last.repr.length
  let rows := ((lines.take last).drop (first - 1)).zipIdx first
  rows.foldl
    (fun out (text, n) =>
      let out := out ++ contextRow width line n text
      if n = line then out ++ caretRow width text else out)
    ""

/-- The message of an error and, if its line is one of the source, the lines around it. -/
def render (e : StructuralError) (source : String) : String :=
  let head := "error: " ++ e.message ++ "\n"
  match e.line? with
  | none => head
  | some line =>
    let lines := Text.lines source
    if line = 0 ∨ lines.length < line then head else head ++ context lines line

end StructuralError

end ConsoleLab
