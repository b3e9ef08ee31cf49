/-
  ConsoleLab.Loop.Header — the header of a counting loop.

  The one accepted form is

      for ( [type] name = ["-"] int ; operand comparison operand ; name "++" | "++" name )

  and a header of any other form is refused with the first part that is wrong, in the
  order shape, sections, start, condition, step.
-/

import ConsoleLab.Loop.Condition

namespace ConsoleLab.Loop

/-- A counting loop without its body: `initName` starts from `initValue`, and `stepName`
    grows by one after each pass. -/
structure Header where
  initName : String
  initValue : Int64
  condition : Condition
  stepName : String
  deriving DecidableEq

inductive HeaderFault
  | shape
  | sections
  | start
  | condition
  | step
  deriving DecidableEq

def HeaderFault.message : HeaderFault → String
  | shape => "expected `for (start; condition; step)`"
  | sections => "a for-loop header has exactly three parts separated by `;`"
  | start => "the loop must start from a whole number, like `int i = 0`"
  | condition => "the loop condition must compare two values, like `i < 10`"
  | step => "only `i++` is supported as the loop step"

namespace Header

def readInt? : List LexemeKind → Option Int64
  | [.int value] => some value
  | [.symbol .minus, .int value] => some (-value)
  | _ => none

def readOperand? : List LexemeKind → Option Operand
  | [.ident name] => some (.var name)
  | lexemes => (readInt? lexemes).map .lit

/-- The start `[type] name = int`: the variable and its first value. -/
def readStart? : List LexemeKind → Option (String × Int64)
  | .ident _ :: .ident name :: .symbol .assign :: value => (readInt? value).map (name, ·)
  | .ident name :: .symbol .assign :: value => (readInt? value).map (name, ·)
  | _ => none

/-- The condition: the operands stand on the two sides of the first comparison. -/
def readCondition? (lexemes : List LexemeKind) : Option Condition :=
  let isOperandPart := fun lexeme => (Comparison.ofLexeme? lexeme).isNone
  match lexemes.dropWhile isOperandPart with
  | [] => none
  | mark :: right => do
    let comparison ← Comparison.ofLexeme? mark
    let left ← readOperand? (lexemes.takeWhile isOperandPart)
    let right ← readOperand? right
    return ⟨left, comparison, right⟩

def readStep? : List LexemeKind → Option String
  | [.ident name, .symbol .increment] => some name
  | [.symbol .increment, .ident name] => some name
  | _ => none

def ofSections (start condition step : List LexemeKind) : Except HeaderFault Header :=
  match readStart? start with
  | none => .error .start
  | some (initName, initValue) =>
    match readCondition? condition with
    | none => .error .condition
    | some condition =>
      match readStep? step with
      | none => .error .step
      | some stepName => .ok ⟨initName, initValue, condition, stepName⟩

def parse : List LexemeKind → Except HeaderFault Header
  | .ident word :: .symbol .openParen :: rest =>
    if word = "for" ∧ rest.getLast? = some (.symbol .closeParen) then
      match rest.dropLast.splitOn (.symbol .semicolon) with
      | [start, condition, step] => ofSections start condition step
      | _ => .error .sections
    else .error .shape
  | _ => .error .shape

end Header

end ConsoleLab.Loop
