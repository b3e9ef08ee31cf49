/-
  ConsoleLab.Run.Transcript — everything that a run shows.

  A transcript only grows. Its entries are output of the program, echoes of what was
  typed, and messages of the system. Output printed by one statement several times in
  a row makes one entry. A message always starts on a fresh line.
-/

import ConsoleLab.Source.Location

namespace ConsoleLab

open Source (Location)

inductive Stream
  | program
  | echo
  | system
  deriving DecidableEq

inductive Entry
  | program (text : String) (place : Location)
  | echo (text : String)
  | system (text : String)
  deriving DecidableEq

namespace Entry

def text : Entry → String
  | program text _ => text
  | echo text => text
  | system text => text

def stream : Entry → Stream
  | program _ _ => .program
  | echo _ => .echo
  | system _ => .system

def place? : Entry → Option Location
  | program _ place => some place
  | echo _ => none
  | system _ => none

def isOutput : Entry → Bool
  | program text _ => !text.isEmpty
  | _ => false

end Entry

structure DisplayLine where
  spans : List (Stream × String)
  deriving DecidableEq

def DisplayLine.text (line : DisplayLine) : String :=
  line.spans.foldl (fun out span => out ++ span.2) ""

/-- The entries of a run, the newest first. -/
structure Transcript where
  newestFirst : List Entry
  deriving DecidableEq

namespace Transcript

def empty : Transcript := ⟨[]⟩

def entries (t : Transcript) : List Entry :=
  t.newestFirst.reverse

def print (t : Transcript) (text : String) (place : Location) : Transcript :=
  if text.isEmpty then t
  else
    match t with
    | ⟨.program old there :: rest⟩ =>
      if there = place then ⟨.program (old ++ text) there :: rest⟩
      else ⟨.program text place :: .program old there :: rest⟩
    | ⟨rest⟩ => ⟨.program text place :: rest⟩

def echo (t : Transcript) (value : String) : Transcript :=
  ⟨.echo (value ++ "\n") :: t.newestFirst⟩

/-- Whether a character shown next would be the first of its line. -/
def atLineStart (t : Transcript) : Bool :=
  match t.newestFirst.find? fun entry => !entry.text.isEmpty with
  | none => true
  | some entry => entry.text.toList.getLast? == some '\n'

def system (t : Transcript) (message : String) : Transcript :=
  let fresh := if t.atLineStart then t.newestFirst else .system "\n" :: t.newestFirst
  ⟨.system (message ++ "\n") :: fresh⟩

def hasOutput (t : Transcript) : Bool :=
  t.newestFirst.any Entry.isOutput

def joinTexts (entries : List Entry) : String :=
  entries.foldl (fun out entry => out ++ entry.text) ""

def text (t : Transcript) : String :=
  joinTexts t.entries

def programText (t : Transcript) : String :=
  joinTexts (t.entries.filter fun entry => entry.stream ≠ .system)

/-! ## Display lines -/

def spanOf (stream : Stream) (piece : List Char) : List (Stream × String) :=
  if piece.isEmpty then [] else [(stream, String.ofList piece)]

/-- Puts an entry before `later`, the lines made of the entries after it: the last piece of
    the entry starts the first of these lines. -/
def prepend (entry : Entry) (later : List DisplayLine) : List DisplayLine :=
  match (entry.text.toList.splitOn '\n').reverse, later with
  | last :: before, line :: later =>
    (before.map fun piece => ⟨spanOf entry.stream piece⟩).reverse ++
      ⟨spanOf entry.stream last ++ line.spans⟩ :: later
  | _, later => later

/-- The lines of some entries with the last line still open, perhaps empty. -/
def openLines (entries : List Entry) : List DisplayLine :=
  entries.foldr prepend [⟨[]⟩]

/-- The lines of a transcript; an empty last line is not shown. -/
def lines (t : Transcript) : List DisplayLine :=
  let all := openLines t.entries
  if (all.getLast?.map DisplayLine.spans) = some [] then all.dropLast else all

end Transcript

end ConsoleLab
