/-
  ConsoleLab.Pane.Console — the pane with the transcript.
-/

import ConsoleLab.Pane.Theme
import ConsoleLab.Run.Step

namespace ConsoleLab.Pane

open Screen (Grid Rect SpanLine Style)

namespace ConsoleView

/-- The number of lines above the pane that a drawing in `height` rows uses and leaves behind,
    for a transcript of `total` lines. -/
def settle (scroll height total : Nat) : Nat :=
  if total = 0 then scroll else min scroll (total - Theme.visibleRows height)

def spanStyle (stream : Stream) (text : String) : Style :=
  match stream with
  | .program => .inked Theme.ink
  | .echo => (Style.inked Theme.echo).bolded
  | .system =>
    if text = Run.finishedMessage ∨ text = Run.silentFinishMessage then
      (Style.inked Theme.success).slanted
    else (Style.inked Theme.error).bolded

def lineSpans (line : DisplayLine) : SpanLine :=
  line.spans.map fun (stream, text) => ⟨text, spanStyle stream text⟩

def draw (lines : List DisplayLine) (scroll : Nat) (focused : Bool) (r : Rect) (g : Grid) :
    Grid :=
  if lines.isEmpty then
    let style := Style.inked Theme.comment
    let g := (g.modifyArea r (Screen.Cell.restyle style)).drawBorder r (Theme.border focused)
      " Console "
    (g.modifyArea r.inner (Screen.Cell.restyle style)).drawParagraph r.inner .left
      [[⟨"(no output)", .plain⟩]]
  else
    let shown := (lines.drop scroll).take (Theme.visibleRows r.height)
    (g.drawBorder r (Theme.border focused) " Console ").drawList r.inner.indented
      (shown.map fun line => (.plain, lineSpans line))

end ConsoleView

end ConsoleLab.Pane
