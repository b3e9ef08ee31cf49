/-
  ConsoleLab.Lexeme.Basic — the words of a source text.

  A lexeme is a literal, an identifier, a symbol with a meaning of its own, or a piece
  of text that the simulator has no use for. Keywords are identifiers. `display` is
  the written form of a lexeme; quoted literals are shown with their escapes.
-/

import ConsoleLab.Source.Location
import ConsoleLab.Text.Decimal
import ConsoleLab.Text.Escaped

namespace ConsoleLab

inductive Symbol
  | insert
  | extract
  | less
  | lessEq
  | greater
  | greaterEq
  | equal
  | notEqual
  | assign
  | increment
  | decrement
  | plus
  | minus
  | ampersand
  | scope
  | openParen
  | closeParen
  | openBrace
  | closeBrace
  | semicolon
  | comma
  deriving DecidableEq

namespace Symbol

def spelling : Symbol → List Char
  | insert => ['<', '<']
  | extract => ['>', '>']
  | less => ['<']
  | lessEq => ['<', '=']
  | greater => ['>']
  | greaterEq => ['>', '=']
  | equal => ['=', '=']
  | notEqual => ['!', '=']
  | assign => ['=']
  | increment => ['+', '+']
  | decrement => ['-', '-']
  | plus => ['+']
  | minus => ['-']
  | ampersand => ['&']
  | scope => [':', ':']
  | openParen => ['(']
  | closeParen => [')']
  | openBrace => ['\x7b']
  | closeBrace => ['\x7d']
  | semicolon => [';']
  | comma => [',']

/-- Every symbol, those of two characters first. -/
def all : List Symbol :=
  [insert, extract, lessEq, greaterEq, equal, notEqual, increment, decrement, scope,
    less, greater, assign, plus, minus, ampersand, openParen, closeParen, openBrace, closeBrace,
    semicolon, comma]

theorem mem_all (y : Symbol) : y ∈ all := by
  cases y <;> decide

theorem spelling_ne_nil (y : Symbol) : y.spelling ≠ [] := by
  cases y <;> decide

end Symbol

inductive LexemeKind
  | int (value : Int64)
  | float (text : String)
  /-- A text between double quotes, escapes resolved. -/
  | string (text : String)
  | char (text : String)
  | ident (name : String)
  | symbol (mark : Symbol)
  /-- A character without a meaning here, or a row of digits that is no 64-bit number. -/
  | unknown (text : String)
  deriving DecidableEq

namespace LexemeKind

def display : LexemeKind → String
  | int value => Text.int64Text value
  | float text => text
  | string text => "\"" ++ Text.escape text ++ "\""
  | char text => "'" ++ Text.escape text ++ "'"
  | ident name => name
  | symbol mark => String.ofList mark.spelling
  | unknown text => text

def name? : LexemeKind → Option String
  | ident name => some name
  | _ => none

end LexemeKind

structure Lexeme where
  kind : LexemeKind
  place : Source.Location
  deriving DecidableEq

end ConsoleLab
