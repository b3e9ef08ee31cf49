/-
  ConsoleLab.Proofs.Lexeme.Spelling — how the segments of a text are spelled.

  What each kind of segment looks like is said by rules that know the characters of the segment
  and what follows them (`SegmentKind.Spells`): a name goes on as far as it can, a symbol is the
  longest one that stands there, a quoted text ends with the first quote that is not escaped or
  with its line. From the rules alone it follows which lexemes are shown as they are written
  (`LexemeKind.Spells.toList_display`), that no row of digits is cut
  (`SegmentKind.Spells.digits_apart`), and that white space behind a segment changes nothing
  about it (`SegmentKind.Spells.congr`).
-/

import ConsoleLab.Proofs.Lexeme.Words

namespace ConsoleLab

open Text (isBlank isDigit)
open Lexer

/-! ## The rules

  `after` is what follows a segment in the text. -/

def EndsLine (after : List Char) : Prop :=
  ∀ c ∈ after.head?, c = '\n'

/-- The character behind `front` is escaped: the number of backslashes in front of it is odd. -/
def Escapes (front : List Char) : Prop :=
  (front.reverse.takeWhile (· = '\\')).length % 2 = 1

def AllEscaped (quote : Char) (inner : List Char) : Prop :=
  ∀ front back, inner = front ++ quote :: back → Escapes front

structure QuotedLine (quote : Char) (inner : List Char) : Prop where
  one_line : '\n' ∉ inner
  escaped : ∀ front back, inner = front ++ quote :: back → Escapes front

/-- What a quoted text has behind its opening quote: it ends with the first quote that is not
    escaped, or with its line if there is none. -/
inductive QuotedTail (quote : Char) (inner : List Char) : List Char → List Char → Prop
  | closed {after : List Char} : QuotedLine quote inner → ¬ Escapes inner →
      QuotedTail quote inner (inner ++ [quote]) after
  | cutOff {after : List Char} : QuotedLine quote inner → EndsLine after →
      QuotedTail quote inner inner after

/-- What the characters of a quoted text stand for; a lone backslash stands for nothing. -/
def unescapeAll : List Char → List Char
  | [] => []
  | ['\\'] => []
  | '\\' :: c :: cs => unescape c :: unescapeAll cs
  | c :: cs => c :: unescapeAll cs

/-- A row of digits that goes on as far as it can. -/
structure DigitRow (digits after : List Char) : Prop where
  ne_nil : digits ≠ []
  digits : ∀ c ∈ digits, isDigit c = true
  stops : ∀ c ∈ after.head?, isDigit c = false

def FractionFollows (after : List Char) : Prop :=
  ∃ d rest, after = '.' :: d :: rest ∧ isDigit d = true

inductive LexemeKind.Spells : LexemeKind → List Char → List Char → Prop
  | string {inner tail after : List Char} : QuotedTail '"' inner tail after →
      Spells (.string (String.ofList (unescapeAll inner))) ('"' :: tail) after
  | char {inner tail after : List Char} : QuotedTail '\'' inner tail after →
      Spells (.char (String.ofList (unescapeAll inner))) ('\'' :: tail) after
  | int {value : Int64} {digits after : List Char} : DigitRow digits after →
      ¬ FractionFollows after → value.toInt = Text.digitsValue digits →
      Spells (.int value) digits after
  | tooLarge {digits after : List Char} : DigitRow digits after → ¬ FractionFollows after →
      Int64.maxValue.toInt < Text.digitsValue digits →
      Spells (.unknown (String.ofList digits)) digits after
  | float {digits part after : List Char} : DigitRow digits ('.' :: part) → DigitRow part after →
      Spells (.float (String.ofList (digits ++ '.' :: part))) (digits ++ '.' :: part) after
  | ident {c : Char} {word after : List Char} : startsName c = true →
      (∀ d ∈ word, continuesName d = true) → (∀ d ∈ after.head?, continuesName d = false) →
      Spells (.ident (String.ofList (c :: word))) (c :: word) after
  /-- No longer symbol stands there. -/
  | symbol {mark : Symbol} {after : List Char} :
      (∀ other : Symbol, other.spelling <+: mark.spelling ++ after →
        other.spelling.length ≤ mark.spelling.length) → Spells (.symbol mark) mark.spelling after
  /-- A character that starts nothing else. -/
  | stray {c : Char} {after : List Char} : isBlank c = false → c ≠ '"' → c ≠ '\'' → c ≠ '#' →
      isDigit c = false → startsName c = false →
      (c = '/' → after.head? ≠ some '/' ∧ after.head? ≠ some '*') →
      (∀ mark : Symbol, ¬ mark.spelling <+: c :: after) →
      Spells (.unknown (String.ofList [c])) [c] after

inductive SegmentKind.Spells : SegmentKind → List Char → List Char → Prop
  | blank {c : Char} {after : List Char} : isBlank c = true → Spells .blank [c] after
  | lineComment {body after : List Char} : '\n' ∉ body → EndsLine after →
      Spells .lineComment ('/' :: '/' :: body) after
  /-- The comment ends with the first closing mark. -/
  | closedComment {body after : List Char} : ¬ ['*', '/'] <:+: body ++ ['*'] →
      Spells .blockComment ('/' :: '*' :: (body ++ ['*', '/'])) after
  /-- There is no closing mark, and the comment ends with the text. -/
  | openComment {body : List Char} : ¬ ['*', '/'] <:+: body →
      Spells .blockComment ('/' :: '*' :: body) []
  | directive {body after : List Char} : '\n' ∉ body → EndsLine after →
      Spells .directive ('#' :: body) after
  | lexeme {kind : LexemeKind} {text after : List Char} : kind.Spells text after →
      Spells (.lexeme kind) text after

/-! ## What follows from the rules -/

def LexemeKind.isVerbatim : LexemeKind → Bool
  | .float _ | .ident _ | .symbol _ | .unknown _ => true
  | .int _ | .string _ | .char _ => false

def LexemeKind.isQuoted : LexemeKind → Bool
  | .string _ | .char _ => true
  | .int _ | .float _ | .ident _ | .symbol _ | .unknown _ => false

theorem LexemeKind.Spells.toList_display {kind : LexemeKind} {text after : List Char}
    (h : kind.Spells text after) (hkind : kind.isVerbatim = true) : kind.display.toList = text := by
  cases h with
  | string | char | int => cases hkind
  | tooLarge | float | ident | symbol | stray => exact String.toList_ofList

theorem not_isDigit_newline {after : List Char} (h : EndsLine after) :
    ∀ d ∈ after.head?, isDigit d = false := by
  intro d hd
  rw [h d hd]
  rfl

theorem QuotedTail.digits_apart {quote : Char} {inner tail after : List Char}
    (h : QuotedTail quote inner tail after) (hquote : isDigit quote = false) {c : Char}
    (hc : (quote :: tail).getLast? = some c) (hdigit : isDigit c = true) :
    ∀ d ∈ after.head?, isDigit d = false := by
  cases h with
  | closed =>
    rw [← List.cons_append, List.getLast?_concat] at hc
    obtain rfl := Option.some.inj hc
    exact absurd hdigit (by simp [hquote])
  | cutOff _ hends => exact not_isDigit_newline hends

theorem LexemeKind.Spells.digits_apart {kind : LexemeKind} {text after : List Char}
    (h : kind.Spells text after) {c : Char} (hc : text.getLast? = some c)
    (hdigit : isDigit c = true) : ∀ d ∈ after.head?, isDigit d = false := by
  cases h with
  | string htail => exact htail.digits_apart rfl hc hdigit
  | char htail => exact htail.digits_apart rfl hc hdigit
  | int hrow => exact hrow.stops
  | tooLarge hrow => exact hrow.stops
  | float _ hpart => exact hpart.stops
  | ident _ _ hstops => exact fun d hd => (Bool.or_eq_false_iff.mp (hstops d hd)).2
  | @symbol mark =>
    have hnone : (mark.spelling.all fun d => !isDigit d) = true := by
      cases mark <;> rfl
    have hlast := List.all_eq_true.mp hnone c (List.mem_of_getLast? hc)
    exact absurd hdigit (by simpa using hlast)
  | stray _ _ _ _ hnone =>
    obtain rfl := Option.some.inj hc
    exact absurd hdigit (by simp [hnone])

/-- A row of digits lies in one segment. -/
theorem SegmentKind.Spells.digits_apart {kind : SegmentKind} {text after : List Char}
    (h : kind.Spells text after) {c : Char} (hc : text.getLast? = some c)
    (hdigit : isDigit c = true) : ∀ d ∈ after.head?, isDigit d = false := by
  cases h with
  | blank hblank =>
    obtain rfl := Option.some.inj hc
    exact absurd hdigit (by simp [isDigit_of_isBlank hblank])
  | lineComment _ hends => exact not_isDigit_newline hends
  | @closedComment body =>
    rw [show '/' :: '*' :: (body ++ ['*', '/']) = ('/' :: '*' :: (body ++ ['*'])) ++ ['/'] by simp,
      List.getLast?_concat] at hc
    obtain rfl := Option.some.inj hc
    cases hdigit
  | openComment => nofun
  | directive _ hends => exact not_isDigit_newline hends
  | lexeme hlexeme => exact hlexeme.digits_apart hc hdigit

/-! ## What follows a segment -/

def NothingNew (after after' : List Char) : Prop :=
  ∀ word, (∀ c ∈ word, isBlank c = false) → word <+: after' → word <+: after

/-- What ends in front of `after` ends in front of `after'` as well: whatever can be seen at the
    start of `after'` starts `after`, and a line that ends stays ended. -/
structure EndsAsWell (after after' : List Char) : Prop where
  visible : ∀ word, (∀ c ∈ word, isBlank c = false) → word <+: after' → word <+: after
  line : EndsLine after → EndsLine after'

/-- A word lies on one side of white space. -/
theorem prefix_of_prefix_append_blank {word front tail : List Char} {b : Char}
    (hb : isBlank b = true) (hword : ∀ c ∈ word, isBlank c = false)
    (h : word <+: front ++ b :: tail) : word <+: front := by
  have hblank : front ++ [b] <+: front ++ b :: tail := by simp
  rcases List.prefix_or_prefix_of_prefix h hblank with hshort | hlong
  · rcases List.prefix_concat_iff.mp hshort with rfl | hshort
    · exact absurd hb (by simp [hword b (by simp)])
    · exact hshort
  · exact absurd hb (by simp [hword b (hlong.mem (by simp))])

namespace NothingNew

variable {after after' : List Char}

theorem head?_eq (h : NothingNew after after') {c : Char} (hc : isBlank c = false)
    (hhead : after'.head? = some c) : after.head? = some c := by
  obtain ⟨rest, rfl⟩ := List.head?_eq_some_iff.mp hhead
  obtain ⟨rest', rfl⟩ := h [c] (by simpa using hc) ⟨rest, rfl⟩
  rfl

/-- What does not go on with `after` does not go on with `after'`. -/
theorem stops (h : NothingNew after after') {p : Char → Bool}
    (hp : ∀ c, isBlank c = true → p c = false) (hstops : ∀ c ∈ after.head?, p c = false) :
    ∀ c ∈ after'.head?, p c = false := by
  intro c hc
  cases hblank : isBlank c with
  | true => exact hp c hblank
  | false => exact hstops c (h.head?_eq hblank hc)

theorem not_fractionFollows (h : NothingNew after after') (hend : ¬ FractionFollows after) :
    ¬ FractionFollows after' := by
  rintro ⟨d, rest, rfl, hd⟩
  have hblank : isBlank d = false := by
    rw [Bool.eq_false_iff]
    intro hb
    rw [isDigit_of_isBlank hb] at hd
    cases hd
  have hword : ∀ c ∈ ['.', d], isBlank c = false := by
    simp [hblank, show isBlank '.' = false from rfl]
  obtain ⟨rest', rfl⟩ := h ['.', d] hword ⟨rest, rfl⟩
  exact hend ⟨d, rest', rfl, hd⟩

/-- A word may start in front of what follows. -/
theorem prefix_append (h : NothingNew after after') {word front : List Char}
    (hword : ∀ c ∈ word, isBlank c = false) (hstart : word <+: front ++ after') :
    word <+: front ++ after := by
  rcases List.prefix_or_prefix_of_prefix hstart (List.prefix_append front after') with
    hfront | ⟨rest, rfl⟩
  · exact hfront.trans (List.prefix_append front after)
  · rw [List.prefix_append_right_inj] at hstart ⊢
    exact h rest (fun c hc => hword c (List.mem_append_right front hc)) hstart

theorem digitRow (h : NothingNew after after') {digits : List Char} (hrow : DigitRow digits after) :
    DigitRow digits after' :=
  ⟨hrow.ne_nil, hrow.digits, h.stops (fun _ => isDigit_of_isBlank) hrow.stops⟩

end NothingNew

theorem nothingNew_blank (after : List Char) {after' : List Char}
    (h : ∀ c ∈ after'.head?, isBlank c = true) : NothingNew after after' := by
  intro word hword hstart
  cases word with
  | nil => exact List.nil_prefix
  | cons c word =>
    obtain ⟨rest, rfl⟩ := hstart
    have hblank := h c rfl
    rw [hword c List.mem_cons_self] at hblank
    cases hblank

namespace EndsAsWell

variable {after after' : List Char}

theorem nothingNew (h : EndsAsWell after after') : NothingNew after after' :=
  h.visible

theorem quotedTail (h : EndsAsWell after after') {quote : Char} {inner tail : List Char}
    (htail : QuotedTail quote inner tail after) : QuotedTail quote inner tail after' := by
  cases htail with
  | closed hinner hends => exact .closed hinner hends
  | cutOff hinner hends => exact .cutOff hinner (h.line hends)

end EndsAsWell

theorem visible_spelling (mark : Symbol) : ∀ c ∈ mark.spelling, isBlank c = false := by
  have hall : (mark.spelling.all fun c => !isBlank c) = true := by
    cases mark <;> rfl
  intro c hc
  simpa using List.all_eq_true.mp hall c hc

section

variable {text after after' : List Char}

/-- Where no quote is open, only what can be seen goes on with a lexeme. -/
theorem LexemeKind.Spells.congr_unquoted {kind : LexemeKind} (h : kind.Spells text after)
    (hkind : kind.isQuoted = false) (hafter : NothingNew after after') :
    kind.Spells text after' := by
  cases h with
  | string | char => cases hkind
  | int hrow hend hvalue =>
    exact .int (hafter.digitRow hrow) (hafter.not_fractionFollows hend) hvalue
  | tooLarge hrow hend hlarge =>
    exact .tooLarge (hafter.digitRow hrow) (hafter.not_fractionFollows hend) hlarge
  | float hrow hpart => exact .float hrow (hafter.digitRow hpart)
  | ident hc hword hstops =>
    exact .ident hc hword (hafter.stops (fun _ => continuesName_of_isBlank) hstops)
  | symbol hlongest =>
    exact .symbol fun other hother =>
      hlongest other (hafter.prefix_append (visible_spelling other) hother)
  | @stray c _ hblank hstring hchar hsign hdigit hname hcomment hnone =>
    refine .stray hblank hstring hchar hsign hdigit hname (fun hc => ?_) fun mark hmark => ?_
    · obtain ⟨hline, hblock⟩ := hcomment hc
      exact ⟨mt (hafter.head?_eq rfl) hline, mt (hafter.head?_eq rfl) hblock⟩
    · have hfront : mark.spelling <+: [c] ++ after' := hmark
      exact hnone mark (hafter.prefix_append (visible_spelling mark) hfront)

theorem LexemeKind.Spells.congr {kind : LexemeKind} (h : kind.Spells text after)
    (hends : EndsAsWell after after') : kind.Spells text after' := by
  cases hkind : kind.isQuoted with
  | false => exact h.congr_unquoted hkind hends.nothingNew
  | true =>
    cases h with
    | string htail => exact .string (hends.quotedTail htail)
    | char htail => exact .char (hends.quotedTail htail)
    | int | tooLarge | float | ident | symbol | stray => cases hkind

/-- Only a comment that is open at the end of the text goes on with what comes there. -/
theorem SegmentKind.Spells.congr {kind : SegmentKind} (h : kind.Spells text after)
    (hends : EndsAsWell after after')
    (hclosed : kind = .blockComment → after = [] → ['*', '/'] <:+: text.drop 2) :
    kind.Spells text after' := by
  cases h with
  | blank hblank => exact .blank hblank
  | lineComment hbody hend => exact .lineComment hbody (hends.line hend)
  | closedComment hfirst => exact .closedComment hfirst
  | openComment hopen => exact absurd (hclosed rfl rfl) hopen
  | directive hbody hend => exact .directive hbody (hends.line hend)
  | lexeme hlexeme => exact .lexeme (hlexeme.congr hends)

end

end ConsoleLab
