/-
  ConsoleLab.Text.Ligature — letters that merge with the one before them.

  In some scripts two letters are drawn as one shape, narrower than the two. A ligature is
  read from its end: `Ligature.ofChar?` tells what a letter may become the end of, and
  `Ligature.merge?` what the letter before it adds. Some ligatures need a joiner between
  the letters. Selectors may stand between them; in the Arabic one so may marks.
-/

import ConsoleLab.Text.CharColumns

namespace ConsoleLab.Text

/-! ## Letters -/

def alefRanges : Array (Nat × Nat) :=
  #[(0x622, 0x623), (0x625, 0x625), (0x627, 0x627), (0x671, 0x673), (0x675, 0x675), (0x773, 0x774),
   (0x870, 0x882)]

def lamRanges : Array (Nat × Nat) :=
  #[(0x644, 0x644), (0x6B5, 0x6B8), (0x76A, 0x76A), (0x8A6, 0x8A6), (0x8C7, 0x8C7)]

def subscriptRanges : Array (Nat × Nat) :=
  #[(0x1780, 0x1782), (0x1784, 0x1787), (0x1789, 0x178C), (0x178E, 0x1793), (0x1795, 0x1798),
   (0x179B, 0x179D), (0x17A0, 0x17A0), (0x17A2, 0x17A2), (0x17A7, 0x17A7), (0x17AB, 0x17AC),
   (0x17AF, 0x17AF)]

def tifinaghRanges : Array (Nat × Nat) :=
  #[(0x2D31, 0x2D65), (0x2D6F, 0x2D6F)]

def selectorRanges : Array (Nat × Nat) :=
  #[(0x34F, 0x34F), (0x17B4, 0x17B5), (0x180B, 0x180D), (0x180F, 0x180F), (0xFE00, 0xFE0F),
   (0xE0100, 0xE01EF)]

/-! ## Ligatures -/

inductive Ligature
  /-- A form of the Arabic alef, which merges with a lam. -/
  | alef
  /-- The Hebrew lamed, which merges with an alef by a joiner. -/
  | lamed
  /-- A Khmer letter, which goes below another one by a coeng. -/
  | subscript
  /-- The Buginese ya, which merges with the vowel sign i by a joiner. -/
  | ya
  /-- The Buginese vowel sign i with a ya, which merges with an a. -/
  | signYa
  /-- A Tifinagh consonant, which merges with another one by a joiner. -/
  | consonant
  /-- A Tifinagh consonant after the joiner of its script, which merges with another one. -/
  | joinedConsonant
  /-- The second half of a Lisu tone mark, which merges with the first. -/
  | toneMark
  /-- The Old Turkic orkhon i, which merges with an orkhon ec by a joiner. -/
  | orkhon
  deriving DecidableEq

namespace Ligature

def ofChar? (c : Char) : Option Ligature :=
  let n := c.toNat
  if n = 0x5DC then some .lamed
  else if inRanges alefRanges c then some .alef
  else if inRanges subscriptRanges c then some .subscript
  else if n = 0x1A10 then some .ya
  else if inRanges tifinaghRanges c then some .consonant
  else if 0xA4FC ≤ n ∧ n ≤ 0xA4FD then some .toneMark
  else if n = 0x10C03 then some .orkhon
  else none

/-- Whether the letter before still merges if `c` stands between. -/
def passes (l : Ligature) (c : Char) : Bool :=
  if l = .alef then isTransparent c else inRanges selectorRanges c

/-- The columns that `c` adds in front of a letter, if it merges with it, and what the two
    may merge with. The letter is `joined` if a joiner stands between. -/
def merge? (l : Ligature) (joined : Bool) (c : Char) : Option (Int × Option Ligature) :=
  let n := c.toNat
  match l, joined with
  | .alef, _ => if inRanges lamRanges c then some (0, none) else none
  | .lamed, true => if n = 0x5D0 then some (0, none) else none
  | .subscript, _ => if n = 0x17D2 then some (-1, none) else none
  | .ya, true => if n = 0x1A17 then some (0, some .signYa) else none
  | .signYa, _ => if n = 0x1A15 then some (0, none) else none
  | .consonant, _ =>
    if n = 0x2D7F then some (1, some .joinedConsonant)
    else if joined ∧ inRanges tifinaghRanges c then some (0, none)
    else none
  | .joinedConsonant, _ => if inRanges tifinaghRanges c then some (-1, none) else none
  | .toneMark, _ => if 0xA4F8 ≤ n ∧ n ≤ 0xA4FB then some (0, none) else none
  | .orkhon, true => if n = 0x10C32 then some (0, none) else none
  | _, _ => none

end Ligature

end ConsoleLab.Text
