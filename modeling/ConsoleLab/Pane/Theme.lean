/-
  ConsoleLab.Pane.Theme — the colours of the panes.
-/

import ConsoleLab.Screen.Draw

namespace ConsoleLab.Pane.Theme

open Screen (Color Style)

def ink : Color := .rgb 205 214 244
def primary : Color := .rgb 137 180 250
def secondary : Color := .rgb 250 179 135
def comment : Color := .rgb 108 112 134
def success : Color := .rgb 166 227 161
def error : Color := .rgb 243 139 168
def keyword : Color := .rgb 137 180 250
def string : Color := .rgb 250 179 135
def number : Color := .rgb 250 179 135
def focusedBorder : Color := .rgb 249 226 175
def quietBorder : Color := .rgb 108 112 134
def ground : Color := .rgb 50 50 70
def function : Color := .rgb 249 226 175
def typeName : Color := .rgb 148 226 213
def echo : Color := .rgb 245 194 231

def border (focused : Bool) : Style :=
  if focused then (Style.inked focusedBorder).bolded else .inked quietBorder

def visibleRows (height : Nat) : Nat :=
  max 1 (height - 2)

end ConsoleLab.Pane.Theme
