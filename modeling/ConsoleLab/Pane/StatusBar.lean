/-
  ConsoleLab.Pane.StatusBar — the bottom line: how far the run is, and the keys.
-/

import ConsoleLab.Pane.Theme
import ConsoleLab.Run.Basic

namespace ConsoleLab.Pane

open Screen (Color Grid Rect Span SpanLine Style)

structure StatusView where
  message : String
  status : Option Status
  /-- The number of the next instruction, of `total`. -/
  position : Nat
  total : Nat
  skipped : Nat

namespace StatusView

def onGround (color : Color) : Style :=
  (Style.inked color).on Theme.ground

def badge (color : Color) : Style :=
  ((Style.inked .black).on color).bolded

def color : Option Status → Color
  | some .halted => Theme.error
  | some .waiting => Theme.secondary
  | some .finished => Theme.success
  | none => Theme.primary

def left (v : StatusView) : SpanLine :=
  let messageColor := if v.status = some .halted then Theme.error else Theme.ink
  [⟨" Token " ++ (min v.position v.total).repr ++ "/" ++ v.total.repr ++ " ",
      badge (color v.status)⟩,
    ⟨" | ", onGround Theme.comment⟩, ⟨" " ++ v.message ++ " ", onGround messageColor⟩] ++
  if 0 < v.skipped then [⟨" ~" ++ v.skipped.repr ++ " skipped ", onGround Theme.comment⟩] else []

def keyHelp (key what : String) : SpanLine :=
  [⟨key, (Style.inked .black).on Theme.comment⟩, ⟨what, onGround Theme.ink⟩]

def separator : Span :=
  ⟨"│", onGround Theme.comment⟩

def gap : Span :=
  ⟨" ", onGround Theme.ink⟩

def label : Option Status → SpanLine
  | some .waiting => [separator, ⟨" ⌨ INPUT ", badge Theme.secondary⟩]
  | some .finished => [separator, ⟨" FINISHED ", badge Theme.success⟩]
  | some .halted => [separator, ⟨" HALTED ", badge Theme.error⟩]
  | none => []

def right (v : StatusView) : SpanLine :=
  let first :=
    if v.status = some .waiting then
      keyHelp " ↵ " " submit " ++ [separator, gap] ++ keyHelp " Esc " " quit "
    else keyHelp " r " " run again " ++ [separator, gap] ++ keyHelp " q " " quit "
  first ++ [separator, gap] ++ keyHelp " ⇥ " " focus " ++ [separator, gap] ++
    keyHelp " ↑/↓ " " scroll " ++ label v.status

def draw (v : StatusView) (r : Rect) (g : Grid) : Grid :=
  let (leftHalf, rightHalf) := r.splitColumns 50
  let fill := Screen.Cell.restyle (Style.plain.on Theme.ground)
  let g := (g.modifyArea leftHalf fill).drawParagraph leftHalf .left [v.left]
  (g.modifyArea rightHalf fill).drawParagraph rightHalf .right [v.right]

end StatusView

end ConsoleLab.Pane
