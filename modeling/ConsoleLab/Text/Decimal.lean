/-
  ConsoleLab.Text.Decimal — decimal numbers in text.

  Numbers are signed 64-bit integers. A number is read from an optional sign and one
  or more ASCII digits, nothing else; a number out of range is no number. It is
  written with a minus sign where needed and without leading zeros.
-/

namespace ConsoleLab.Text

def isDigit (c : Char) : Bool :=
  '0' ≤ c && c ≤ '9'

def digitValue (c : Char) : Nat :=
  c.toNat - '0'.toNat

def digitsValue (digits : List Char) : Nat :=
  digits.foldl (fun n c => 10 * n + digitValue c) 0

def readNat? (digits : List Char) : Option Nat :=
  if !digits.isEmpty && digits.all isDigit then some (digitsValue digits) else none

def readInt? : List Char → Option Int
  | '+' :: digits => (readNat? digits).map fun n => (n : Int)
  | '-' :: digits => (readNat? digits).map fun n => -(n : Int)
  | digits => (readNat? digits).map fun n => (n : Int)

def int64OfInt? (n : Int) : Option Int64 :=
  if Int64.minValue.toInt ≤ n ∧ n ≤ Int64.maxValue.toInt then some (Int64.ofInt n) else none

def readInt64? (s : String) : Option Int64 :=
  (readInt? s.toList).bind int64OfInt?

/-- The count that `s` spells: a plus sign or none, then digits, in 64 bits. -/
def readCount? (s : String) : Option Nat :=
  let digits :=
    match s.toList with
    | '+' :: digits => digits
    | digits => digits
  (readNat? digits).filter (· < UInt64.size)

def int64Text (n : Int64) : String :=
  n.toInt.repr

end ConsoleLab.Text
