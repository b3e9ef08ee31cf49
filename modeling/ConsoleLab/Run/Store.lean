/-
  ConsoleLab.Run.Store — the variables of a run.

  All variables live in one scope. They are listed in the order in which they were
  first assigned; a later assignment changes the value and keeps the place.
-/

import ConsoleLab.Run.Value

namespace ConsoleLab

/-- The assigned variables with their values, in the order of first assignment. -/
structure Store where
  bindings : List (String × Value)
  deriving DecidableEq

namespace Store

def empty : Store := ⟨[]⟩

def get? (s : Store) (name : String) : Option Value :=
  (s.bindings.find? fun entry => entry.1 == name).map Prod.snd

def contains (s : Store) (name : String) : Bool :=
  s.bindings.any fun entry => entry.1 == name

/-- A list of variables with `value` for `name`: in its place if it is there, else at the end. -/
def assign (name : String) (value : Value) : List (String × Value) → List (String × Value)
  | [] => [(name, value)]
  | entry :: rest =>
    if entry.1 = name then (entry.1, value) :: rest else entry :: assign name value rest

def set (s : Store) (name : String) (value : Value) : Store :=
  ⟨assign name value s.bindings⟩

def size (s : Store) : Nat :=
  s.bindings.length

theorem find?_assign (name other : String) (value : Value) (vs : List (String × Value)) :
    ((assign name value vs).find? fun entry => entry.1 == other).map Prod.snd =
      if other = name then some value
      else (vs.find? fun entry => entry.1 == other).map Prod.snd := by
  induction vs with
  | nil => grind [assign]
  | cons entry rest ih => grind [assign]

/-- An assignment changes the variable it names and no other. -/
theorem get?_set (s : Store) (name other : String) (value : Value) :
    (s.set name value).get? other = if other = name then some value else s.get? other :=
  find?_assign name other value s.bindings

end Store

end ConsoleLab
