/-
  ConsoleLab.Source.Location — places in a source text.

  Lines and columns are counted from one; a column counts characters. Nothing but a
  newline ends a line here.
-/

namespace ConsoleLab.Source

structure Location where
  line : Nat
  column : Nat
  deriving DecidableEq

namespace Location

def nowhere : Location := ⟨0, 0⟩

def start : Location := ⟨1, 1⟩

def next (p : Location) (c : Char) : Location :=
  if c = '\n' then ⟨p.line + 1, 1⟩ else ⟨p.line, p.column + 1⟩

def after (p : Location) (cs : List Char) : Location :=
  cs.foldl next p

end Location

end ConsoleLab.Source
