/-
  ConsoleLab.Run.Value — what a variable holds.

  A loop counter and an integer read by a format are numbers; everything else that is
  read is text. Text is used as a number where it spells one.
-/

import ConsoleLab.Text.Blank
import ConsoleLab.Text.Decimal

namespace ConsoleLab

inductive Value
  | int (number : Int64)
  | text (content : String)
  deriving DecidableEq

namespace Value

/-- The number that loops see: text counts by the number it spells between white space. -/
def number? : Value → Option Int64
  | int number => some number
  | text content => Text.readInt64? (Text.trim content)

def int? : Value → Option Int64
  | int number => some number
  | text _ => none

def display : Value → String
  | int number => Text.int64Text number
  | text content => content

def kindLabel : Value → String
  | int _ => "int"
  | text _ => "str"

end Value

end ConsoleLab
