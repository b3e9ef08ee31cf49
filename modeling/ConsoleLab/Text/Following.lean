/-
  ConsoleLab.Text.Following — what a character sees of the text after it.

  How many columns a character adds depends on what it merges with: the next letter of a
  ligature, the parts of an emoji, a selector. A text is read from its end, and
  `Following.before` tells what a character adds in front of what was read, and what the
  two are to the character before them.
-/

import ConsoleLab.Text.Emoji
import ConsoleLab.Text.Ligature

namespace ConsoleLab.Text

/-- What stands at the start of a text, as far as a character before it may merge. -/
inductive Tail
  /-- Nothing that merges. -/
  | plain
  | newline
  | emoji
  | skinTone
  | flagLetter
  /-- Two flag letters or more. -/
  | flagLetters
  /-- A joiner and an emoji. -/
  | joinedEmoji
  /-- A keycap before a joined emoji. -/
  | joinedKeycap
  /-- A flag letter before a joined emoji. -/
  | joinedFlagLetter
  /-- Two or more flag letters before a joined emoji, in number even or odd. -/
  | joinedFlagLetters (even : Bool)
  /-- The end of a row of tags before a joined emoji. -/
  | tagEnd
  | tagLetters (count : Nat)
  | tagDigits (count : Nat)
  /-- A letter, perhaps after a joiner. -/
  | letter (ligature : Ligature) (joined : Bool)
  deriving DecidableEq

namespace Tail

def ofChar (c : Char) : Tail :=
  match Ligature.ofChar? c with
  | some l => .letter l false
  | none =>
    if isFlagLetter c then .flagLetter
    else if isSkinTone c then .skinTone
    else if inRanges emojiRanges c then .emoji
    else .plain

def isLetter : Tail → Bool
  | .letter _ _ => true
  | _ => false

def isJoined : Tail → Bool
  | .joinedEmoji | .joinedKeycap => true
  | _ => false

def beforeLetter? (l : Ligature) (joined : Bool) (c : Char) : Option (Int × Tail) :=
  if isJoiner c ∧ l ≠ .alef then some (0, .letter l true)
  else if l.passes c then some (0, .letter l joined)
  else
    (l.merge? joined c).map fun (columns, merged) =>
      (columns, (merged.map (Tail.letter · false)).getD .plain)

def merge? (c : Char) : Tail → Option (Int × Tail)
  | .plain | .newline | .joinedKeycap => none
  | .letter l joined => beforeLetter? l joined c
  | .emoji => if isJoiner c then some (0, .joinedEmoji) else none
  | .skinTone =>
    if inRanges skinToneBaseRanges c then some (0, .emoji)
    else if isJoiner c then some (0, .joinedEmoji)
    else none
  | .flagLetter => if isFlagLetter c then some (1, .flagLetters) else none
  | .flagLetters =>
    if isFlagLetter c then some (1, .flagLetters)
    else if isJoiner c then some (0, .joinedEmoji)
    else none
  | .joinedEmoji =>
    if isKeycap c then some (0, .joinedKeycap)
    else if isFlagLetter c then some (1, .joinedFlagLetter)
    else if isSkinTone c then some (0, .skinTone)
    else if isTagEnd c then some (0, .tagEnd)
    else if inRanges emojiRanges c then some (0, .emoji)
    else none
  | .joinedFlagLetter => if isFlagLetter c then some (-1, .joinedFlagLetters true) else none
  | .joinedFlagLetters even =>
    if isFlagLetter c then some (if even then 3 else -1, .joinedFlagLetters (!even))
    else if isJoiner c then some (0, .joinedEmoji)
    else none
  | .tagEnd =>
    if isTagLetter c then some (0, .tagLetters 1)
    else if isTagDigit c then some (0, .tagDigits 1)
    else none
  | .tagLetters n =>
    if isTagLetter c ∧ n < 6 then some (0, .tagLetters (n + 1))
    else if isTagDigit c ∧ n ≤ 4 then some (0, .tagDigits 1)
    else if isTaggedFlag c ∧ 3 ≤ n then some (0, .emoji)
    else none
  | .tagDigits n =>
    if isTagDigit c ∧ n < 3 then some (0, .tagDigits (n + 1))
    else if isTaggedFlag c ∧ n = 3 then some (0, .emoji)
    else none

/-- What `c` adds in front of a tail. A carriage return before a newline adds nothing. -/
def before (c : Char) (t : Tail) : Int × Tail :=
  if c.toNat ≤ 0xA0 then
    if c = '\n' then (0, .newline)
    else if c = '\r' ∧ t = .newline then (0, .plain)
    else (1, .plain)
  else (t.merge? c).getD (charColumns c, ofChar c)

end Tail

inductive Presentation
  | text
  | emoji
  deriving DecidableEq

structure Following where
  tail : Tail
  /-- The selector between the character and the tail, if there is one. -/
  selector : Option Presentation
  deriving DecidableEq

namespace Following

def nothing : Following := ⟨.plain, none⟩

/-- What is left when a character makes nothing of the emoji selector after it. -/
def dropEmojiSelector (f : Following) : Following :=
  if f.selector = some .emoji then ⟨if f.tail.isLetter then f.tail else .plain, none⟩ else f

/-- A selector in front. It keeps letters from nothing, and the emoji selector keeps a
    joined emoji from nothing. -/
def select (p : Presentation) (f : Following) : Following :=
  let keeps := f.tail.isLetter || (p == .emoji && f.tail.isJoined)
  ⟨if keeps then f.tail else .plain, some p⟩

/-- The columns that `c` adds in front, and what the two are together. -/
def before (c : Char) (f : Following) : Int × Following :=
  if f.selector = some .emoji ∧ inRanges emojiSelectableRanges c then
    (if f.tail.isJoined then 0 else 2, ⟨.emoji, none⟩)
  else
    let f := f.dropEmojiSelector
    if c = '\ufe0f' then (0, f.select .emoji)
    else if c = '\ufe0e' then (0, f.select .text)
    else if f.selector = some .text ∧ inRanges textSelectableRanges c then (1, nothing)
    else
      let (columns, tail) := f.tail.before c
      (columns, ⟨tail, none⟩)

end Following

end ConsoleLab.Text
