/-
  ConsoleLab.Statement.ScanFormat — the format of a formatted read.

  A percent sign, any digits and length modifiers, and one more character make a
  conversion. A conversion that the simulator knows gives a hint; any other, the
  doubled percent sign among them, gives none.
-/

import ConsoleLab.Statement.Basic

namespace ConsoleLab

def ScanHint.ofConversion? : Char → Option ScanHint
  | 'd' | 'i' | 'u' => some integer
  | 'f' => some float
  | 's' => some string
  | 'c' => some char
  | _ => none

namespace ScanFormat

def isModifier (c : Char) : Bool :=
  ('0' ≤ c && c ≤ '9') || c == 'l' || c == 'h'

/-- The hints of the conversions in `cs`; `inside` says that a percent sign and perhaps
    some modifiers stand right before. -/
def hintsFrom (inside : Bool) : List Char → List ScanHint
  | [] => []
  | c :: rest =>
    if inside then
      if isModifier c then hintsFrom true rest
      else (ScanHint.ofConversion? c).toList ++ hintsFrom false rest
    else hintsFrom (c == '%') rest

def hints (format : String) : List ScanHint :=
  hintsFrom false format.toList

end ScanFormat

end ConsoleLab
