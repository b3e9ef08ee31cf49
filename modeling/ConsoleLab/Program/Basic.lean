/-
  ConsoleLab.Program.Basic — a program ready to run.

  A program is code and the list of pieces of its source that are not simulated, each
  with the line it stands on.
-/

import ConsoleLab.Lexeme.Lexer
import ConsoleLab.Program.Outline

namespace ConsoleLab

open Source (Location)

structure Skipped where
  place : Location
  /-- The line of the piece, trimmed. -/
  text : String
  reason : SkipReason
  deriving DecidableEq

structure Program where
  code : Array Instruction
  skipped : List Skipped
  deriving DecidableEq

namespace Program

def quote (lines : Array String) (remark : Remark) : Skipped :=
  ⟨remark.place, Text.trim (lines[remark.place.line - 1]?.getD ""), remark.reason⟩

def ofOutline (source : String) (o : Outline) : Program :=
  let lines := (Text.lines source).toArray
  ⟨o.code, o.remarks.reverse.map (quote lines)⟩

def parse (order : PrintOrder) (source : String) : Except StructuralError Program := do
  return ofOutline source (← Outline.ofLexemes order (lex source))

end Program

end ConsoleLab
