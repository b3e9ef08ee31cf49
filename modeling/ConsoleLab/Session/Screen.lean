/-
  ConsoleLab.Session.Screen — what a session shows.

  The screen has the source above the console on the left, the variables on the right,
  and below them the answer box and the status bar. Drawing settles the scroll positions
  for the size of the screen; a second drawing at the same size changes nothing more.
-/

import ConsoleLab.Pane.Console
import ConsoleLab.Pane.Prompt
import ConsoleLab.Pane.StatusBar
import ConsoleLab.Session.Basic

namespace ConsoleLab

open Screen (Grid Rect)
open Pane (LineMark SourceView VariablesView StatusView)

structure Layout where
  source : Rect
  console : Rect
  store : Rect
  prompt : Rect
  status : Rect
  deriving DecidableEq

/-- The panes of a screen of the given size. A low screen keeps its first row for the
    answer box and its second for the status bar. -/
def Layout.ofSize (width height : Nat) : Layout :=
  let (rows, status) := (⟨0, 0, width, height⟩ : Rect).splitBottom (min 1 (height - 1))
  let (panes, prompt) := rows.splitBottom 3
  let (left, right) := panes.splitColumns 60
  let (upper, lower) := left.splitRows 60
  ⟨upper, lower, right, prompt, status⟩

def dropRepeats : List Nat → List Nat
  | [] => []
  | [a] => [a]
  | a :: b :: rest => if a = b then dropRepeats (b :: rest) else a :: dropRepeats (b :: rest)

namespace Session

def sourceView (s : Session) : SourceView where
  lines := Text.lines s.source
  current := s.run.place.line
  mark :=
    match s.run.phase with
    | .waiting _ => .waiting
    | .halted _ => .fault
    | _ => .current
  skipped := dropRepeats (s.program.skipped.map fun piece => piece.place.line)

def awaited (s : Session) : List String :=
  match s.run.pending? with
  | some read => read.names
  | none => []

def variablesView (s : Session) : VariablesView :=
  ⟨s.run.store, s.run.loops.reverse, s.awaited⟩

def statusView (s : Session) : StatusView :=
  ⟨s.message, s.run.status?, s.run.pc, s.run.code.size, s.program.skipped.length⟩

def settle (layout : Layout) (s : Session) : Session :=
  let source := s.sourceView
  { s with
    sourceScroll := s.sourceScroll.settle layout.source.height source.lines.length source.current
    consoleScroll :=
      Pane.ConsoleView.settle s.consoleScroll layout.console.height s.run.transcript.lines.length
    variablesScroll :=
      s.variablesScroll.settle layout.store.height s.variablesView.items.length }

def draw (layout : Layout) (s : Session) (g : Grid) : Grid :=
  g |> s.sourceView.draw s.sourceScroll (s.focus == .source) layout.source
    |> Pane.ConsoleView.draw s.run.transcript.lines s.consoleScroll (s.focus == .console)
      layout.console
    |> s.variablesView.draw s.variablesScroll (s.focus == .store) layout.store
    |> Pane.PromptView.draw (s.run.pending?.map PendingRead.prompt) s.typed layout.prompt
    |> s.statusView.draw layout.status

/-- A key pressed on a screen with the given layout: it is drawn before and after. -/
def press (fuel : Nat) (layout : Layout) (s : Session) (key : Key) : Session :=
  ((s.settle layout).handle fuel key).settle layout

end Session

end ConsoleLab
