/-
  ConsoleLab.Lexeme.Lexer — from source text to lexemes.

  Every text can be read. It falls into segments, each of them blank, a comment, a
  directive or one lexeme (`segments`); the segments written one after the other are
  the text (`flatMap_text_segments`). What has no meaning becomes a lexeme of kind
  `unknown`, and a quoted literal that is never closed ends with its line.
-/

import ConsoleLab.Lexeme.Basic
import ConsoleLab.Text.Blank

namespace ConsoleLab

open Source (Location)
open Text (isBlank isDigit)

inductive SegmentKind
  | blank
  /-- From two slashes to the end of the line. -/
  | lineComment
  | blockComment
  /-- From a number sign to the end of the line. -/
  | directive
  | lexeme (kind : LexemeKind)
  deriving DecidableEq

structure Segment where
  kind : SegmentKind
  text : List Char

namespace Lexer

/-! ## One segment

  Each reader is given what follows the first characters of a segment, and answers
  how many of the following characters belong to the segment. -/

def restOfLine (cs : List Char) : Nat :=
  (cs.takeWhile (· ≠ '\n')).length

/-- How many characters a block comment has after its opening: up to and with the first
    closing mark, or all of them. -/
def commentBody : List Char → Nat
  | [] => 0
  | c :: rest => if c = '*' ∧ rest.head? = some '/' then 2 else commentBody rest + 1

def unescape : Char → Char
  | 'n' => '\n'
  | 't' => '\t'
  | 'r' => '\r'
  | '0' => '\x00'
  | c => c

/-- The text of a literal after its opening `quote`, and how many characters it takes. The
    literal ends after the first `quote` that no backslash protects, else before the
    end of the line; a backslash that ends the line stands for nothing. -/
def quotedBody (quote : Char) : List Char → List Char × Nat
  | [] => ([], 0)
  | c :: rest =>
    if c = quote then ([], 1)
    else if c = '\n' then ([], 0)
    else if c = '\\' then
      match rest with
      | [] => ([], 1)
      | escaped :: rest =>
        if escaped = '\n' then ([], 1)
        else
          let (text, length) := quotedBody quote rest
          (unescape escaped :: text, length + 2)
    else
      let (text, length) := quotedBody quote rest
      (c :: text, length + 1)

def wholeNumber (digits : List Char) : LexemeKind :=
  match Text.int64OfInt? (Text.digitsValue digits) with
  | some value => .int value
  | none => .unknown (String.ofList digits)

def fraction (cs : List Char) : List Char :=
  match cs with
  | '.' :: digits =>
    let digits := digits.takeWhile isDigit
    if digits.isEmpty then [] else '.' :: digits
  | _ => []

def number (c : Char) (rest : List Char) : LexemeKind × Nat :=
  let digits := rest.takeWhile isDigit
  let part := fraction (rest.drop digits.length)
  if part.isEmpty then (wholeNumber (c :: digits), digits.length)
  else (.float (String.ofList (c :: digits ++ part)), digits.length + part.length)

def startsName (c : Char) : Bool :=
  ('a' ≤ c && c ≤ 'z') || ('A' ≤ c && c ≤ 'Z') || c == '_'

def continuesName (c : Char) : Bool :=
  startsName c || isDigit c

/-- The longest symbol at the start of `cs`. -/
def symbolAt (cs : List Char) : Option Symbol :=
  Symbol.all.find? fun mark => mark.spelling.isPrefixOf cs

def lexemeAt (c : Char) (rest : List Char) : LexemeKind × Nat :=
  if c = '"' then
    let (text, length) := quotedBody '"' rest
    (.string (String.ofList text), length)
  else if c = '\'' then
    let (text, length) := quotedBody '\'' rest
    (.char (String.ofList text), length)
  else if isDigit c then number c rest
  else if startsName c then
    let word := rest.takeWhile continuesName
    (.ident (String.ofList (c :: word)), word.length)
  else
    match symbolAt (c :: rest) with
    | some mark => (.symbol mark, mark.spelling.length - 1)
    | none => (.unknown (String.ofList [c]), 0)

/-- The segment that starts with `c`, and how many characters of `rest` belong to it. -/
def segmentAt (c : Char) (rest : List Char) : SegmentKind × Nat :=
  if isBlank c then (.blank, 0)
  else if c = '/' ∧ rest.head? = some '/' then (.lineComment, restOfLine rest)
  else if c = '/' ∧ rest.head? = some '*' then (.blockComment, commentBody rest.tail + 1)
  else if c = '#' then (.directive, restOfLine rest)
  else
    let (kind, length) := lexemeAt c rest
    (.lexeme kind, length)

end Lexer

/-! ## All segments -/

def segments : List Char → List Segment
  | [] => []
  | c :: rest =>
    let (kind, length) := Lexer.segmentAt c rest
    ⟨kind, c :: rest.take length⟩ :: segments (rest.drop length)
termination_by cs => cs.length
decreasing_by simp only [List.length_drop, List.length_cons]; omega

/-- The segments of a text, written one after the other, are the text. -/
theorem flatMap_text_segments (cs : List Char) : (segments cs).flatMap Segment.text = cs := by
  fun_induction segments cs with
  | case1 => rfl
  | case2 c rest kind length _ ih =>
    simp only [List.flatMap_cons, ih, List.cons_append, List.take_append_drop]

theorem text_ne_nil_of_mem_segments {cs : List Char} {s : Segment} (h : s ∈ segments cs) :
    s.text ≠ [] := by
  fun_induction segments cs with
  | case1 => cases h
  | case2 c rest kind length _ ih =>
    rcases List.mem_cons.mp h with rfl | h
    · exact List.cons_ne_nil _ _
    · exact ih h

def lexemesFrom (p : Location) : List Segment → List Lexeme
  | [] => []
  | ⟨.lexeme kind, text⟩ :: rest => ⟨kind, p⟩ :: lexemesFrom (p.after text) rest
  | ⟨_, text⟩ :: rest => lexemesFrom (p.after text) rest

def lex (source : String) : List Lexeme :=
  lexemesFrom Location.start (segments source.toList)

end ConsoleLab
