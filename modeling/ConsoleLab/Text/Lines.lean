/-
  ConsoleLab.Text.Lines — the lines of a text.

  A line ends at a newline or at the end of the text; a carriage return right
  before the newline belongs to the line end. A text that ends in a newline has no
  empty last line.

  The lines of a byte stream (`linesOfBytes`) end before the first one that is no
  UTF-8.
-/

namespace ConsoleLab.Text

def dropReturn (line : List Char) : List Char :=
  if line.getLast? = some '\r' then line.dropLast else line

/-- The lines made of the pieces between newlines: every piece but the last was
    closed by a newline, and the last is a line only if it holds something. -/
def linesOfPieces : List (List Char) → List (List Char)
  | [] => []
  | [last] => if last.isEmpty then [] else [last]
  | piece :: next :: rest => dropReturn piece :: linesOfPieces (next :: rest)

def lines (s : String) : List String :=
  (linesOfPieces (s.toList.splitOn '\n')).map String.ofList

def leadingSome {α : Type} : List (Option α) → List α
  | some a :: rest => a :: leadingSome rest
  | _ => []

/-- The lines of a byte stream, up to the first that is no UTF-8. -/
def linesOfBytes (bytes : ByteArray) : List String :=
  let pieces := bytes.toList.splitOn 10
  let texts := leadingSome (pieces.map fun piece => String.fromUTF8? ⟨piece.toArray⟩)
  let closed := if texts.length < pieces.length then texts ++ [""] else texts
  (linesOfPieces (closed.map String.toList)).map String.ofList

end ConsoleLab.Text
