/-
  ConsoleLab.Program.Chunk — the source cut into statements and block headers.

  A chunk is what stands between two cuts. Every brace cuts, and so does a semicolon
  outside parentheses. A brace also ends all open parentheses, and a closing
  parenthesis without an opening one counts for nothing.
-/

import ConsoleLab.Lexeme.Basic

namespace ConsoleLab

open Source (Location)

inductive Cut
  | openBrace (place : Location)
  | closeBrace (place : Location)
  | semicolon
  | textEnd
  deriving DecidableEq

structure Chunk where
  lexemes : List Lexeme
  cut : Cut
  deriving DecidableEq

namespace Chunk

def kinds (c : Chunk) : List LexemeKind :=
  c.lexemes.map Lexeme.kind

def isEntryHead (kinds : List LexemeKind) : Bool :=
  kinds == [.ident "int", .ident "main", .symbol .openParen, .symbol .closeParen] ||
    kinds == [.ident "int", .ident "main", .symbol .openParen, .ident "void",
      .symbol .closeParen]

def startsLoop (kinds : List LexemeKind) : Bool :=
  kinds.head? == some (.ident "for")

end Chunk

/-- The chunks of `lexemes`, where `held` are the lexemes since the last cut, the newest
    first, and `depth` counts the parentheses that are open. -/
def chunksFrom (depth : Nat) (held : List Lexeme) : List Lexeme → List Chunk
  | [] => [⟨held.reverse, .textEnd⟩]
  | lexeme :: rest =>
    match lexeme.kind with
    | .symbol .openParen => chunksFrom (depth + 1) (lexeme :: held) rest
    | .symbol .closeParen => chunksFrom (depth - 1) (lexeme :: held) rest
    | .symbol .openBrace => ⟨held.reverse, .openBrace lexeme.place⟩ :: chunksFrom 0 [] rest
    | .symbol .closeBrace => ⟨held.reverse, .closeBrace lexeme.place⟩ :: chunksFrom 0 [] rest
    | .symbol .semicolon =>
      if depth = 0 then ⟨held.reverse, .semicolon⟩ :: chunksFrom 0 [] rest
      else chunksFrom depth (lexeme :: held) rest
    | _ => chunksFrom depth (lexeme :: held) rest

/-- The chunks of a whole program; the last one ends with the text. -/
def chunks (lexemes : List Lexeme) : List Chunk :=
  chunksFrom 0 [] lexemes

end ConsoleLab
