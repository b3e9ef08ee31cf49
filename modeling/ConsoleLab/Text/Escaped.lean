/-
  ConsoleLab.Text.Escaped — the escaped form of a text, for display inside quotes.

  Printable ASCII stands for itself except both quotes and the backslash; tab,
  carriage return and newline have short forms; every other character is written as
  its code point in hexadecimal.
-/

namespace ConsoleLab.Text

def escapeChar (c : Char) : List Char :=
  if c = '\t' then ['\\', 't']
  else if c = '\r' then ['\\', 'r']
  else if c = '\n' then ['\\', 'n']
  else if c = '\'' || c = '"' || c = '\\' then ['\\', c]
  else if 0x20 ≤ c.toNat && c.toNat ≤ 0x7E then [c]
  else ['\\', 'u', '\x7b'] ++ Nat.toDigits 16 c.toNat ++ ['\x7d']

def escape (s : String) : String :=
  String.ofList (s.toList.flatMap escapeChar)

end ConsoleLab.Text
