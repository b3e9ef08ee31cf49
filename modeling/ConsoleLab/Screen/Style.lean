/-
  ConsoleLab.Screen.Style — colours and emphasis.

  A style says what it changes: colours that it leaves open stay as they are below it,
  and emphasis is only ever added.
-/

namespace ConsoleLab.Screen

inductive Color
  | rgb (red green blue : Nat)
  | black
  | white
  deriving DecidableEq

structure Style where
  ink : Option Color
  paper : Option Color
  bold : Bool
  italic : Bool
  deriving DecidableEq

namespace Style

def plain : Style := ⟨none, none, false, false⟩

def inked (color : Color) : Style := { plain with ink := some color }

def on (s : Style) (color : Color) : Style := { s with paper := some color }

def bolded (s : Style) : Style := { s with bold := true }

def slanted (s : Style) : Style := { s with italic := true }

/-- What is seen when `above` is laid over `below`. -/
def onto (above below : Style) : Style :=
  ⟨above.ink.or below.ink, above.paper.or below.paper, above.bold || below.bold,
    above.italic || below.italic⟩

theorem plain_onto (s : Style) : plain.onto s = s := by
  simp [onto, plain]

theorem onto_plain (s : Style) : s.onto plain = s := by
  simp [onto, plain]

theorem onto_assoc (a b c : Style) : (a.onto b).onto c = a.onto (b.onto c) := by
  simp [onto, Option.or_assoc, Bool.or_assoc]

end Style

end ConsoleLab.Screen
