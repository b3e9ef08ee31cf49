/-
  ConsoleLab.Screen.Draw — putting text on a screen.

  Text is drawn cluster by cluster. In a paragraph, clusters without a column are left
  out and a line ends where the next cluster does not fit. In a list (and in a title)
  clusters without a column continue the symbol before them, and the cell that a wide
  cluster hides is blank.
-/

import ConsoleLab.Screen.Grid
import ConsoleLab.Text.Cluster
import ConsoleLab.Text.Columns
import ConsoleLab.Text.Lines

namespace ConsoleLab.Screen

structure Span where
  text : String
  style : Style
  deriving DecidableEq

namespace Span

def columns (s : Span) : Nat :=
  Text.columns s.text.toList

def clusters (s : Span) : List (List Char) :=
  (Text.clusters s.text.toList).filter (· ≠ ['\n'])

end Span

abbrev SpanLine := List Span

def SpanLine.columns (line : SpanLine) : Nat :=
  line.foldl (fun total span => total + span.columns) 0

namespace Grid

/-! ## Lines of a list -/

/-- Draws clusters of a span that starts at column `first` and has to end before column
    `stop`; the next one is drawn at `x`, and `fresh` says that it is the first. -/
def overlayClusters (style : Style) (y first stop : Nat) :
    Nat → Bool → List (List Char) → Grid → Grid
  | _, _, [], g => g
  | x, fresh, cluster :: rest, g =>
    let width := Text.columns cluster
    let symbol := String.ofList cluster
    if stop < x + width then g
    else
      let drawn :=
        if fresh then g.modify x y (Cell.put symbol style)
        else if x = first then g.modify x y (Cell.append symbol style)
        else if width = 0 then g.modify (x - 1) y (Cell.append symbol style)
        else g.modify x y (Cell.put symbol style)
      let hidden := drawn.modifyArea ⟨x + 1, y, width - 1, 1⟩ fun _ => .blank
      overlayClusters style y first stop (x + width) false rest hidden

def overlaySpans (y stop : Nat) : Nat → SpanLine → Grid → Grid
  | _, [], g => g
  | x, span :: rest, g =>
    let width := span.columns
    if width = 0 ∨ stop ≤ x then overlaySpans y stop x rest g
    else
      overlaySpans y stop (x + width) rest
        (overlayClusters span.style y x stop x true span.clusters g)

def drawList (g : Grid) (r : Rect) (items : List (Style × SpanLine)) : Grid :=
  ((items.take r.height).zipIdx r.y).foldl
    (fun g ((style, line), y) =>
      (g.modifyArea ⟨r.x, y, r.width, 1⟩ (Cell.restyle style)) |> overlaySpans y r.right r.x line)
    g

/-! ## Lines of a paragraph -/

/-- The clusters at the start of a line that fit into `limit` columns, of which `used` are
    taken. A cluster that fits into no line is passed over. -/
def fitting (limit : Nat) : Nat → List (List Char × Style) → List (List Char × Style)
  | _, [] => []
  | used, (cluster, style) :: rest =>
    let width := Text.columns cluster
    if limit < width then fitting limit used rest
    else if limit < used + width then []
    else (cluster, style) :: fitting limit (used + width) rest

def placeClusters (y : Nat) : Nat → List (List Char × Style) → Grid → Grid
  | _, [], g => g
  | x, (cluster, style) :: rest, g =>
    let width := Text.columns cluster
    if width = 0 then placeClusters y x rest g
    else
      placeClusters y (x + width) rest
        (g.modify x y (Cell.put (String.ofList cluster) style))

inductive Alignment
  | left
  | right
  deriving DecidableEq

def drawParagraph (g : Grid) (r : Rect) (alignment : Alignment) (lines : List SpanLine) : Grid :=
  if r.isEmpty then g
  else
    ((lines.take r.height).zipIdx r.y).foldl
      (fun g (line, y) =>
        let clusters := line.flatMap fun span => span.clusters.map (·, span.style)
        let shown := fitting r.width 0 clusters
        let used := shown.foldl (fun total c => total + Text.columns c.1) 0
        let x :=
          match alignment with
          | .left => r.x
          | .right => r.x + (r.width - used)
        g |> placeClusters y x shown)
      g

/-! ## Frames -/

/-- Draws a border around an area, with a title in its top row. The title ends after the
    columns of its lines, or where the corner is. -/
def drawBorder (g : Grid) (r : Rect) (style : Style) (title : String) : Grid :=
  if r.isEmpty then g
  else
    let side := fun (g : Grid) (symbol : String) (part : Rect) =>
      g.modifyArea part (Cell.put symbol style)
    let g := side g "│" ⟨r.x, r.y, 1, r.height⟩
    let g := side g "─" ⟨r.x, r.y, r.width, 1⟩
    let g := side g "│" ⟨r.right - 1, r.y, 1, r.height⟩
    let g := side g "─" ⟨r.x, r.bottom - 1, r.width, 1⟩
    let g := side g "┘" ⟨r.right - 1, r.bottom - 1, 1, 1⟩
    let g := side g "┐" ⟨r.right - 1, r.y, 1, 1⟩
    let g := side g "└" ⟨r.x, r.bottom - 1, 1, 1⟩
    let g := side g "┌" ⟨r.x, r.y, 1, 1⟩
    let spans := (Text.lines title).map fun piece => (⟨piece, .plain⟩ : Span)
    g |> overlaySpans r.y (r.x + 1 + min (r.width - 2) (SpanLine.columns spans)) (r.x + 1) spans

end Grid

end ConsoleLab.Screen
