/-
  ConsoleLab.Pane.Variables — the pane with the variables and the active loops.
-/

import ConsoleLab.Pane.Theme
import ConsoleLab.Run.Basic

namespace ConsoleLab.Pane

open Screen (Grid Rect Span SpanLine Style)

structure VariablesView where
  store : Store
  /-- The active loops, the outermost first. -/
  loops : List LoopFrame
  awaited : List String

structure VariablesScroll where
  offset : Nat
  /-- The number of items at the last drawing. -/
  lastCount : Nat
  deriving DecidableEq

namespace VariablesScroll

def start : VariablesScroll := ⟨0, 0⟩

/-- The scroll state that a drawing in `height` rows uses and leaves behind, for `total` items.
    New items that do not fit are scrolled to. -/
def settle (s : VariablesScroll) (height total : Nat) : VariablesScroll :=
  let visible := Theme.visibleRows height
  let offset := if s.lastCount < total ∧ visible < total then total - visible else s.offset
  ⟨min offset (total - visible), total⟩

def up (s : VariablesScroll) : VariablesScroll :=
  { s with offset := s.offset - 1 }

def down (limit : Nat) (s : VariablesScroll) : VariablesScroll :=
  { s with offset := min (s.offset + 1) limit }

end VariablesScroll

namespace VariablesView

def kindText (word : String) : String :=
  word ++ String.ofList (List.replicate (4 - word.length) ' ')

def valueSpan : Value → Span
  | .int n => ⟨Text.int64Text n, .inked Theme.number⟩
  | .text content => ⟨"\"" ++ content ++ "\"", .inked Theme.string⟩

def awaitedStyle : Style :=
  (Style.inked Theme.secondary).bolded

def variableItem (v : VariablesView) (name : String) (value : Value) : Style × SpanLine :=
  let nameStyle := if v.awaited.contains name then awaitedStyle else .inked Theme.ink
  (.plain,
    [⟨kindText value.kindLabel, .inked Theme.typeName⟩, ⟨name, nameStyle⟩,
      ⟨" = ", .inked Theme.comment⟩, valueSpan value])

def awaitedItem (name : String) : Style × SpanLine :=
  (.plain,
    [⟨"    ", .plain⟩, ⟨name, awaitedStyle⟩, ⟨" ← waiting", .inked Theme.comment⟩])

def loopItem (depth : Nat) (frame : LoopFrame) : Style × SpanLine :=
  (.plain,
    [⟨"▸ ", .inked Theme.secondary⟩, ⟨depth.repr, .inked Theme.comment⟩,
      ⟨" │ ", .inked Theme.comment⟩,
      ⟨"while " ++ frame.condition.text, .inked Theme.keyword⟩,
      ⟨", " ++ frame.stepName ++ "++", .inked Theme.ink⟩])

def loopItems (loops : List LoopFrame) : List (Style × SpanLine) :=
  if loops.isEmpty then []
  else
    (.plain, []) :: (.plain, [⟨"Active loops", (Style.inked Theme.comment).bolded⟩]) ::
      loops.zipIdx.map fun (frame, depth) => loopItem depth frame

def items (v : VariablesView) : List (Style × SpanLine) :=
  let assigned :=
    if v.store.bindings.isEmpty then
      [(Style.inked Theme.comment, [(⟨"(none yet)", .plain⟩ : Span)])]
    else v.store.bindings.map fun (name, value) => v.variableItem name value
  let missing := v.awaited.filter fun name => !v.store.contains name
  assigned ++ missing.map awaitedItem ++ loopItems v.loops

def draw (v : VariablesView) (scroll : VariablesScroll) (focused : Bool) (r : Rect) (g : Grid) :
    Grid :=
  let shown := (v.items.drop scroll.offset).take (Theme.visibleRows r.height)
  (g.drawBorder r (Theme.border focused) " Variables ").drawList r.inner shown

end VariablesView

end ConsoleLab.Pane
