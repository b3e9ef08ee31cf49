/-
  ConsoleLab.Pane.Highlight — colouring a line of source text.

  A line falls into words, literals, single marks and a comment that runs to its end; a
  literal is one span. The spans make up the line, whatever it holds.
-/

import ConsoleLab.Pane.Theme
import ConsoleLab.Text.Alphanumeric
import ConsoleLab.Text.Blank

namespace ConsoleLab.Pane.Highlight

open Screen (Span SpanLine Style)

def typeWords : List String :=
  ["int", "char", "void", "bool", "float", "double", "long", "short", "unsigned", "signed",
    "string", "auto", "const"]

def keywords : List String :=
  ["return", "if", "else", "while", "for", "do", "switch", "case", "break", "continue", "using",
    "namespace"]

def libraryWords : List String :=
  ["cout", "cin", "endl", "std"]

/-- The style of a word; `called` says that an opening parenthesis follows. -/
def wordStyle (word : List Char) (called : Bool) : Style :=
  let text := String.ofList word
  if text ∈ typeWords then .inked Theme.typeName
  else if text ∈ keywords then (Style.inked Theme.keyword).bolded
  else if text ∈ libraryWords then .inked Theme.function
  else if word.all Char.isDigit then .inked Theme.number
  else if called then .inked Theme.function
  else .inked Theme.ink

def markStyle (c : Char) : Style :=
  if c ∈ ['\x7b', '\x7d', '(', ')', '[', ']'] then .inked Theme.primary
  else if c ∈ ['<', '>', '=', '+', '-', '*', '/', '&', '!', ';', ',', ':'] then .inked Theme.ink
  else .plain

def wordSpan (held : List Char) (called : Bool) : SpanLine :=
  if held.isEmpty then []
  else [⟨String.ofList held.reverse, wordStyle held.reverse called⟩]

def inWord (c : Char) : Bool :=
  Text.isAlphanumeric c || c == '_'

/-- How many characters of a literal follow its opening `quote`: up to and with the first
    `quote` that no backslash protects, or all of them. -/
def literalLength (quote : Char) : List Char → Nat
  | [] => 0
  | c :: rest =>
    if c = quote then 1
    else if c = '\\' then
      match rest with
      | [] => 1
      | _ :: rest => literalLength quote rest + 2
    else literalLength quote rest + 1

/-- Whether the rest of the line from `c` on is a comment or a directive; `blankBefore` says
    that nothing but white space stands before. -/
def startsComment (blankBefore : Bool) (c : Char) (rest : List Char) : Bool :=
  (c == '/' && rest.head? == some '/') || (c == '#' && blankBefore)

/-- The spans of the rest of a line, where `held` is the word being read, backwards. -/
def spansFrom (blankBefore : Bool) (held : List Char) : List Char → SpanLine
  | [] => wordSpan held false
  | c :: rest =>
    if startsComment blankBefore c rest then
      wordSpan held false ++ [⟨String.ofList (c :: rest), .inked Theme.comment⟩]
    else if c = '"' ∨ c = '\'' then
      let length := literalLength c rest
      wordSpan held false ++
        ⟨String.ofList (c :: rest.take length), .inked Theme.string⟩ ::
          spansFrom false [] (rest.drop length)
    else
      let blank := blankBefore && Text.isBlank c
      if inWord c then spansFrom blank (c :: held) rest
      else
        wordSpan held (c == '(') ++
          ⟨String.ofList [c], markStyle c⟩ :: spansFrom blank [] rest
termination_by cs => cs.length
decreasing_by all_goals simp only [List.length_drop, List.length_cons]; omega

def line (text : String) : SpanLine :=
  spansFrom true [] text.toList

end ConsoleLab.Pane.Highlight
