/-
  ConsoleLab.Statement.Basic — the statements that the simulator runs.

  A statement prints, reads one variable, or reads several variables by a format.
-/

namespace ConsoleLab

inductive PrintPart
  | literal (text : String)
  | var (name : String)
  | newline
  deriving DecidableEq

inductive ReadMode
  | value
  | line
  /-- The first character of the answer. -/
  | character
  deriving DecidableEq

inductive ScanHint
  | integer
  | float
  | string
  | char
  deriving DecidableEq

def ScanHint.text : ScanHint → String
  | integer => "integer"
  | float => "float"
  | string => "string"
  | char => "char"

inductive Statement
  | print (parts : List PrintPart)
  | read (name : String) (mode : ReadMode)
  | scan (names : List String) (hints : List ScanHint)
  deriving DecidableEq

/-- The name that receives the character of a read without a variable. -/
def getcharSlot : String := "_getchar_"

inductive PrintOrder
  /-- As they are written. -/
  | source
  /-- Literals, then variables, then one newline if there is any. -/
  | literalsFirst
  deriving DecidableEq

namespace PrintPart

def isLiteral : PrintPart → Bool
  | literal _ => true
  | _ => false

def isVar : PrintPart → Bool
  | var _ => true
  | _ => false

def isNewline : PrintPart → Bool
  | newline => true
  | _ => false

end PrintPart

def PrintOrder.arrange : PrintOrder → List PrintPart → List PrintPart
  | source, parts => parts
  | literalsFirst, parts =>
    parts.filter PrintPart.isLiteral ++ parts.filter PrintPart.isVar ++
      if parts.any PrintPart.isNewline then [.newline] else []

end ConsoleLab
