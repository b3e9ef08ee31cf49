/-
  ConsoleLab.Proofs.Run.Structured — what a program means as a tree.

  The meaning of a block is given by recursion over the tree, without an index, a stack of
  loops or a pause: a statement turns one world into the next, and a loop sets its
  variable and, while its condition holds, does its body and counts up. Answers come from
  the world; a read that finds none ends the program, as does a variable that cannot be
  counted up. A loop may make any number of passes, so `Block.eval` is given a bound for
  them and has no result where it is too small (`eval_mono`: a result stays with a larger
  one).
-/

import ConsoleLab.Program.Block
import ConsoleLab.Run.Answer

namespace ConsoleLab

open Source (Location)

structure World where
  store : Store
  /-- Everything printed and typed. -/
  output : String
  /-- The answers that nothing has read yet. -/
  answers : List String
  deriving DecidableEq

inductive Outcome
  | done
  /-- At the end of a pass, at the closing brace at `place`. -/
  | faulted (fault : Fault) (place : Location)
  /-- At the read at `place`, which still wants `read`. -/
  | starved (read : PendingRead) (place : Location)
  deriving DecidableEq

def andThen (first : Option (Outcome × World)) (next : World → Option (Outcome × World)) :
    Option (Outcome × World) :=
  match first with
  | some (.done, w) => next w
  | other => other

namespace Statement

def fill (place : Location) (names : List String) (hints : List ScanHint) (store : Store)
    (output : String) : List String → Outcome × World
  | [] =>
    if names = [] then (.done, ⟨store, output, []⟩)
    else (.starved (.many names hints) place, ⟨store, output, []⟩)
  | raw :: rest =>
    if names = [] then (.done, ⟨store, output, raw :: rest⟩)
    else
      let answer := Text.trim raw
      let pieces := answerPieces answer
      fill place (names.drop pieces.length) (hints.drop pieces.length)
        (store.scan names hints pieces) (output ++ answer ++ "\n") rest

theorem fill_nil (place : Location) (hints : List ScanHint) (store : Store) (output : String)
    (answers : List String) :
    fill place [] hints store output answers = (.done, ⟨store, output, answers⟩) := by
  cases answers <;> rfl

def eval (marker : String) (place : Location) (w : World) : Statement → Outcome × World
  | .print parts => (.done, { w with output := w.output ++ w.store.printText marker parts })
  | .read name mode =>
    match w.answers with
    | [] => (.starved (.one name mode) place, w)
    | raw :: rest =>
      let answer := Text.trim raw
      (.done, ⟨w.store.set name (mode.valueOf answer), w.output ++ answer ++ "\n", rest⟩)
  | .scan names hints => fill place names hints w.store w.output w.answers

end Statement

namespace Block

/-- While the condition holds, does the body and counts up; `fuel` bounds the tests. -/
def passes (header : Loop.Header) (close : Location) (body : World → Option (Outcome × World)) :
    Nat → World → Option (Outcome × World)
  | 0, _ => none
  | fuel + 1, w =>
    if w.store.satisfies header.condition then
      andThen (body w) fun w =>
        match w.store.increment header.stepName with
        | .ok store => passes header close body fuel { w with store := store }
        | .error fault => some (.faulted fault close, w)
    else some (.done, w)

/-- The meaning of a block, where no loop is entered for more than `fuel` tests. -/
def eval (marker : String) (fuel : Nat) : Block → World → Option (Outcome × World)
  | empty, w => some (.done, w)
  | statement before place what, w =>
    andThen (before.eval marker fuel w) fun w => some (what.eval marker place w)
  | loop before _ header body close, w =>
    andThen (before.eval marker fuel w) fun w =>
      passes header close (body.eval marker fuel) fuel
        { w with store := w.store.set header.initName (.int header.initValue) }

def ScansFill : Block → Prop
  | empty => True
  | statement before _ what =>
    before.ScansFill ∧ ∀ names hints, what = .scan names hints → names ≠ []
  | loop before _ _ body _ => before.ScansFill ∧ body.ScansFill

end Block

/-! ## A larger bound -/

theorem andThen_mono {first first' : Option (Outcome × World)}
    {next next' : World → Option (Outcome × World)} {result : Outcome × World}
    (hfirst : ∀ r, first = some r → first' = some r)
    (hnext : ∀ w r, next w = some r → next' w = some r)
    (h : andThen first next = some result) : andThen first' next' = some result := by
  cases hf : first with
  | none => rw [hf] at h; cases h
  | some r =>
    rw [hfirst r hf]
    rw [hf] at h
    obtain ⟨out, w⟩ := r
    cases out with
    | done => exact hnext w _ h
    | faulted | starved => exact h

namespace Block

theorem passes_mono {header : Loop.Header} {close : Location}
    {body body' : World → Option (Outcome × World)}
    (hbody : ∀ w r, body w = some r → body' w = some r) {n m : Nat} (hle : n ≤ m) {w : World}
    {result : Outcome × World} (h : passes header close body n w = some result) :
    passes header close body' m w = some result := by
  induction n generalizing m w result with
  | zero => cases h
  | succ n ih =>
    obtain ⟨m, rfl⟩ : ∃ k, m = k + 1 := ⟨m - 1, by omega⟩
    unfold passes at h ⊢
    split at h
    · rename_i hs
      rw [if_pos hs]
      refine andThen_mono (hbody w) (fun w' r hr => ?_) h
      cases hinc : w'.store.increment header.stepName with
      | ok store =>
        simp only [hinc] at hr ⊢
        exact ih (Nat.le_of_succ_le_succ hle) hr
      | error fault =>
        simp only [hinc] at hr ⊢
        exact hr
    · rename_i hs
      rw [if_neg hs]
      exact h

/-- A result of a block stays with a larger bound, so a block has one result. -/
theorem eval_mono {b : Block} {marker : String} {n m : Nat} (hle : n ≤ m) {w : World}
    {result : Outcome × World} (h : b.eval marker n w = some result) :
    b.eval marker m w = some result := by
  induction b generalizing w result with
  | empty => exact h
  | statement before place what ih => exact andThen_mono (fun _ => ih) (fun _ _ hr => hr) h
  | loop before place header body close ihBefore ihBody =>
    exact andThen_mono (fun _ => ihBefore)
      (fun _ _ hr => passes_mono (fun _ _ => ihBody) hle hr) h

end Block

end ConsoleLab
