/-
  ConsoleLab.Pane.Prompt — the pane where answers are typed.
-/

import ConsoleLab.Pane.Theme

namespace ConsoleLab.Pane

open Screen (Grid Rect Style)

namespace PromptView

/-- Where the cursor stands: after the typed characters, counted as one column each in 16 bits,
    but not beyond the last column of the area. There is none without a prompt. -/
def cursor (prompt : Option String) (typed : String) (r : Rect) : Option (Nat × Nat) :=
  prompt.map fun _ =>
    (min ((r.x + 3 + typed.length) % UInt16.size) (r.x + (r.width - 2)), r.y + 1)

def draw (prompt : Option String) (typed : String) (r : Rect) (g : Grid) : Grid :=
  match prompt with
  | none =>
    let style := Style.inked Theme.comment
    let g := (g.modifyArea r (Screen.Cell.restyle style)).drawBorder r
      (.inked Theme.quietBorder) " Input "
    (g.modifyArea r.inner (Screen.Cell.restyle style)).drawParagraph r.inner .left
      [[⟨"(the program is not waiting for input)", .plain⟩]]
  | some prompt =>
    let title := " Input: " ++ prompt ++ " "
    (g.drawBorder r (Style.inked Theme.secondary).bolded title).drawParagraph r.inner .left
      [[⟨"> ", .inked Theme.secondary⟩, ⟨typed, .inked Theme.ink⟩]]

end PromptView

end ConsoleLab.Pane
