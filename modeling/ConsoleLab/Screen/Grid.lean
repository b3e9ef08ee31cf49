/-
  ConsoleLab.Screen.Grid — the cells of a screen.
-/

import ConsoleLab.Screen.Style

namespace ConsoleLab.Screen

structure Cell where
  symbol : String
  style : Style
  deriving DecidableEq

namespace Cell

def blank : Cell := ⟨" ", .plain⟩

def put (symbol : String) (style : Style) (c : Cell) : Cell :=
  ⟨symbol, style.onto c.style⟩

def append (symbol : String) (style : Style) (c : Cell) : Cell :=
  ⟨c.symbol ++ symbol, style.onto c.style⟩

def restyle (style : Style) (c : Cell) : Cell :=
  { c with style := style.onto c.style }

end Cell

structure Rect where
  x : Nat
  y : Nat
  width : Nat
  height : Nat
  deriving DecidableEq

namespace Rect

def right (r : Rect) : Nat := r.x + r.width

def bottom (r : Rect) : Nat := r.y + r.height

def isEmpty (r : Rect) : Bool := r.width == 0 || r.height == 0

def inner (r : Rect) : Rect :=
  ⟨r.x + 1, r.y + 1, r.width - 2, r.height - 2⟩

def indented (r : Rect) : Rect :=
  ⟨r.x + 1, r.y, r.width - 1, r.height⟩

end Rect

structure Grid where
  width : Nat
  height : Nat
  cells : Array Cell
  deriving DecidableEq

namespace Grid

def blank (width height : Nat) : Grid :=
  ⟨width, height, Array.replicate (width * height) .blank⟩

def area (g : Grid) : Rect := ⟨0, 0, g.width, g.height⟩

def modify (g : Grid) (x y : Nat) (f : Cell → Cell) : Grid :=
  if x < g.width ∧ y < g.height then
    { g with cells := g.cells.modify (y * g.width + x) f }
  else g

def modifyArea (g : Grid) (r : Rect) (f : Cell → Cell) : Grid :=
  (List.range r.height).foldl
    (fun g dy => (List.range r.width).foldl (fun g dx => g.modify (r.x + dx) (r.y + dy) f) g) g

def row (g : Grid) (y : Nat) : List Cell :=
  (g.cells.extract (y * g.width) ((y + 1) * g.width)).toList

def rows (g : Grid) : List (List Cell) :=
  (List.range g.height).map g.row

end Grid

/-! ## Dividing an area -/

/-- `percent` per cent of `size`, a half rounded up. -/
def share (percent size : Nat) : Nat :=
  (2 * percent * size + 100) / 200

namespace Rect

def splitColumns (r : Rect) (percent : Nat) : Rect × Rect :=
  let left := share percent r.width
  (⟨r.x, r.y, left, r.height⟩, ⟨r.x + left, r.y, r.width - left, r.height⟩)

def splitRows (r : Rect) (percent : Nat) : Rect × Rect :=
  let upper := share percent r.height
  (⟨r.x, r.y, r.width, upper⟩, ⟨r.x, r.y + upper, r.width, r.height - upper⟩)

def splitBottom (r : Rect) (rows : Nat) : Rect × Rect :=
  let lower := min rows r.height
  (⟨r.x, r.y, r.width, r.height - lower⟩, ⟨r.x, r.y + (r.height - lower), r.width, lower⟩)

end Rect

end ConsoleLab.Screen
