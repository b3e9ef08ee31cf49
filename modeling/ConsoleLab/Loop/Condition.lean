/-
  ConsoleLab.Loop.Condition — what keeps a counting loop going.

  A condition compares two operands, each a variable or a number.
-/

import ConsoleLab.Lexeme.Basic

namespace ConsoleLab.Loop

inductive Comparison
  | lt
  | le
  | gt
  | ge
  | eq
  | ne
  deriving DecidableEq

namespace Comparison

def holds : Comparison → Int64 → Int64 → Bool
  | lt, left, right => decide (left < right)
  | le, left, right => decide (left ≤ right)
  | gt, left, right => decide (right < left)
  | ge, left, right => decide (right ≤ left)
  | eq, left, right => decide (left = right)
  | ne, left, right => decide (left ≠ right)

def symbol : Comparison → Symbol
  | lt => .less
  | le => .lessEq
  | gt => .greater
  | ge => .greaterEq
  | eq => .equal
  | ne => .notEqual

def ofLexeme? : LexemeKind → Option Comparison
  | .symbol .less => some lt
  | .symbol .lessEq => some le
  | .symbol .greater => some gt
  | .symbol .greaterEq => some ge
  | .symbol .equal => some eq
  | .symbol .notEqual => some ne
  | _ => none

def text (c : Comparison) : String :=
  String.ofList c.symbol.spelling

theorem ofLexeme?_symbol (c : Comparison) : ofLexeme? (.symbol c.symbol) = some c := by
  cases c <;> rfl

end Comparison

inductive Operand
  | var (name : String)
  | lit (value : Int64)
  deriving DecidableEq

def Operand.text : Operand → String
  | var name => name
  | lit value => Text.int64Text value

structure Condition where
  left : Operand
  comparison : Comparison
  right : Operand
  deriving DecidableEq

def Condition.text (c : Condition) : String :=
  c.left.text ++ " " ++ c.comparison.text ++ " " ++ c.right.text

end ConsoleLab.Loop
