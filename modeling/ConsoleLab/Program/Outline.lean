/-
  ConsoleLab.Program.Outline — the block structure of a program.

  The chunks of a program are read one after the other. An opening brace opens a block,
  whose kind its header decides: the main function, a counting loop, or a plain block
  that only groups. A closing brace closes the innermost open block. Only what stands
  inside the main function counts.

  While it is read, a program is a stack of open blocks and the code so far. An open
  loop remembers the index of its first instruction, which names no true end until the
  loop closes; plain blocks leave no trace in the code.
-/

import ConsoleLab.Program.Chunk
import ConsoleLab.Program.Code
import ConsoleLab.Program.StructuralError
import ConsoleLab.Statement.Recognize

namespace ConsoleLab

open Source (Location)

inductive FrameKind
  | entry
  | plain
  /-- A loop whose first instruction has the index `start`. -/
  | loop (start : Nat)
  deriving DecidableEq

structure Frame where
  kind : FrameKind
  brace : Location
  deriving DecidableEq

structure Remark where
  place : Location
  reason : SkipReason
  deriving DecidableEq

/-- A program that has been read up to some chunk. -/
structure Outline where
  /-- The open blocks, the innermost first. -/
  frames : List Frame
  code : Array Instruction
  /-- The newest first. -/
  remarks : List Remark
  entryLine : Option Nat
  deriving DecidableEq

namespace Outline

def blank : Outline := ⟨[], #[], [], none⟩

def inEntry (o : Outline) : Bool :=
  o.frames.any fun frame => frame.kind == .entry

def push (o : Outline) (kind : FrameKind) (brace : Location) : Outline :=
  { o with frames := ⟨kind, brace⟩ :: o.frames }

def skip (o : Outline) (place : Location) (reason : SkipReason) : Outline :=
  { o with remarks := ⟨place, reason⟩ :: o.remarks }

def add (o : Outline) (place : Location) (statements : List Statement) : Outline :=
  { o with code := o.code ++ statements.map fun what => Instruction.mk (.perform what) place }

/-- Opens a loop. Its end is not known yet; the index of the loop stands in for it. -/
def openLoop (o : Outline) (place : Location) (header : Loop.Header) (brace : Location) : Outline :=
  { o.push (.loop o.code.size) brace with
    code := o.code.push ⟨.loopStart header o.code.size, place⟩ }

/-- Ends the loop that starts at the instruction at `start`, and tells the start. -/
def endLoop (o : Outline) (start : Nat) (brace : Location) : Outline :=
  { o with code := (o.code.modify start (.endAt o.code.size)).push ⟨.loopEnd start, brace⟩ }

def openBlock (o : Outline) (header : List Lexeme) (brace : Location) :
    Except StructuralError Outline :=
  let kinds := header.map Lexeme.kind
  let place := (header.head?.map Lexeme.place).getD brace
  if Chunk.isEntryHead kinds then
    match o.entryLine with
    | some firstLine => .error (.duplicateEntry place.line firstLine)
    | none => .ok { o.push .entry brace with entryLine := some place.line }
  else if o.inEntry then
    if Chunk.startsLoop kinds then
      match Loop.Header.parse kinds with
      | .error fault => .error (.malformedLoop place.line fault.message)
      | .ok header => .ok (o.openLoop place header brace)
    else if header.isEmpty then .ok (o.push .plain brace)
    else .ok ((o.skip place .blockRunsOnce).push .plain brace)
  else .ok (o.push .plain brace)

def readStatement (order : PrintOrder) (o : Outline) (lexemes : List Lexeme) :
    Except StructuralError Outline :=
  match lexemes with
  | [] => .ok o
  | first :: _ =>
    if o.inEntry then
      let kinds := lexemes.map Lexeme.kind
      if Chunk.startsLoop kinds then .error (.loopWithoutBody first.place.line)
      else
        match recognize order kinds with
        | .statements all => .ok (o.add first.place all)
        | .silent => .ok o
        | .skipped reason => .ok (o.skip first.place reason)
    else .ok o

def closeBlock (o : Outline) (brace : Location) : Except StructuralError Outline :=
  match o.frames with
  | [] => .error (.unmatchedClose brace.line)
  | ⟨.loop start, _⟩ :: frames => .ok ({ o with frames := frames }.endLoop start brace)
  | _ :: frames => .ok { o with frames := frames }

def readChunk (order : PrintOrder) (o : Outline) (chunk : Chunk) :
    Except StructuralError Outline :=
  match chunk.cut with
  | .openBrace brace => o.openBlock chunk.lexemes brace
  | .closeBrace brace => do (← o.readStatement order chunk.lexemes).closeBlock brace
  | .semicolon => o.readStatement order chunk.lexemes
  | .textEnd => o.readStatement order chunk.lexemes

/-- Reads chunks one after the other, up to the first error. -/
def readChunks (order : PrintOrder) : Outline → List Chunk → Except StructuralError Outline
  | o, [] => .ok o
  | o, chunk :: rest => do (← o.readChunk order chunk).readChunks order rest

def complete (o : Outline) : Except StructuralError Outline :=
  match o.frames, o.entryLine with
  | frame :: _, _ => .error (.unclosedBlock frame.brace.line)
  | [], none => .error .missingEntry
  | [], some _ => .ok o

def ofLexemes (order : PrintOrder) (lexemes : List Lexeme) : Except StructuralError Outline := do
  (← blank.readChunks order (chunks lexemes)).complete

end Outline

end ConsoleLab
