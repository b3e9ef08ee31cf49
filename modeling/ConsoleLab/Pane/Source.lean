/-
  ConsoleLab.Pane.Source — the pane with the source text.

  The line that the run has reached is kept at one row of the pane while the text moves
  below it, as far as the text reaches.
-/

import ConsoleLab.Pane.Highlight
import ConsoleLab.Text.Lines

namespace ConsoleLab.Pane

open Screen (Grid Rect Span SpanLine Style)

inductive LineMark
  | current
  | waiting
  | fault
  deriving DecidableEq

structure SourceView where
  lines : List String
  /-- The line that the run has reached, counted from one. -/
  current : Nat
  mark : LineMark
  skipped : List Nat

structure SourceScroll where
  offset : Nat
  /-- The row at which the current line is kept; none before the first drawing. -/
  targetRow : Option Nat
  deriving DecidableEq

namespace SourceScroll

def start : SourceScroll := ⟨0, none⟩

/-- The scroll state that a drawing in `height` rows uses and leaves behind, for a text of
    `total` lines. -/
def settle (s : SourceScroll) (height total current : Nat) : SourceScroll :=
  let visible := Theme.visibleRows height
  let row := min (s.targetRow.getD (visible / 2)) (visible - 1)
  let offset :=
    if 0 < current ∧ current ≤ total then
      if visible < total then min (current - 1 - row) (total - visible) else 0
    else s.offset
  ⟨offset, some row⟩

/-- Moves the text up, which moves the current line down. -/
def up (limit : Nat) (s : SourceScroll) : SourceScroll :=
  { s with targetRow := s.targetRow.map fun row => min (row + 1) limit }

def down (s : SourceScroll) : SourceScroll :=
  { s with targetRow := s.targetRow.map fun row => row - 1 }

end SourceScroll

namespace SourceView

def numberStyle (v : SourceView) (n : Nat) : Style :=
  if n = v.current then
    match v.mark with
    | .fault => (Style.inked Theme.error).bolded
    | .waiting => (Style.inked Theme.secondary).bolded
    | .current => (Style.inked Theme.secondary).bolded
  else .inked Theme.comment

def emphasise (v : SourceView) (n : Nat) (span : Span) : Span :=
  if n = v.current then
    match v.mark with
    | .fault => { span with style := ((Style.inked .white).on Theme.error).bolded }
    | .waiting => { span with style := ((Style.inked .black).on Theme.secondary).bolded }
    | .current => { span with style := (Style.plain.on Theme.ground).onto span.style }
  else span

def numberText (n : Nat) : String :=
  String.ofList (List.replicate (4 - n.repr.length) ' ') ++ n.repr

def lineSpans (v : SourceView) (n : Nat) (text : String) : SpanLine :=
  ⟨numberText n, v.numberStyle n⟩ ::
    ⟨if v.skipped.contains n then "~" else " ", .inked Theme.comment⟩ ::
      (Highlight.line text).map (v.emphasise n)

def draw (v : SourceView) (scroll : SourceScroll) (focused : Bool) (r : Rect) (g : Grid) : Grid :=
  let shown := (v.lines.drop scroll.offset).take (Theme.visibleRows r.height)
  let lines := (shown.zipIdx (scroll.offset + 1)).map fun (text, n) => v.lineSpans n text
  (g.drawBorder r (Theme.border focused) " Source Code ").drawParagraph r.inner .left lines

end SourceView

end ConsoleLab.Pane
