/-
  ConsoleLab.Program.Block — programs as trees.

  A block is a sequence of statements and counting loops, the loops with blocks of
  their own. Flattened, it is code in which the two ends of each loop name each other.
-/

import ConsoleLab.Program.Code

namespace ConsoleLab

open Source (Location)

/-- A sequence of statements and loops, the last one outermost. -/
inductive Block
  | empty
  | statement (before : Block) (place : Location) (what : Statement)
  /-- A loop whose header stands at `place` and whose closing brace stands at `close`. -/
  | loop (before : Block) (place : Location) (header : Loop.Header) (body : Block)
      (close : Location)
  deriving DecidableEq

namespace Block

def size : Block → Nat
  | empty => 0
  | statement before _ _ => before.size + 1
  | loop before _ _ body _ => before.size + body.size + 2

/-- The code of a block whose first instruction has the index `start`. -/
def code (start : Nat) : Block → List Instruction
  | empty => []
  | statement before place what => before.code start ++ [⟨.perform what, place⟩]
  | loop before place header body close =>
    let first := start + before.size
    before.code start ++ ⟨.loopStart header (first + body.size + 1), place⟩ ::
      (body.code (first + 1) ++ [⟨.loopEnd first, close⟩])

def flatten (b : Block) : Array Instruction :=
  (b.code 0).toArray

theorem length_code (b : Block) (start : Nat) : (b.code start).length = b.size := by
  induction b generalizing start with
  | empty => rfl
  | statement before place what ih => simp [code, size, ih]
  | loop before place header body close ihBefore ihBody =>
    simp only [code, size, List.length_append, List.length_cons, List.length_nil, ihBefore, ihBody]
    omega

theorem size_flatten (b : Block) : b.flatten.size = b.size := by
  simp [flatten, length_code]

end Block

end ConsoleLab
