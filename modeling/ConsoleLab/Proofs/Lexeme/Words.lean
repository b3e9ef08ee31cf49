/-
  ConsoleLab.Proofs.Lexeme.Words — texts that are read the same wherever they stand.

  A text is `Closed` if it is read as the same lexemes whatever follows it, and a `Word`
  if that is so where the next character ends a name or a number. Closed texts and words
  are put together to longer ones (`Closed.append`, `Word.append`, `Word.close`). A name
  is a word (`word_name`), and so is the decimal form of a number (`word_int64Text`); a
  quoted text, whatever its characters, is closed and is read back as it was
  (`closed_quote`).
-/

import ConsoleLab.Lexeme.Lexer

namespace ConsoleLab

open Source (Location)
open Text (isBlank isDigit)
open Lexer

def SegmentKind.lexeme? : SegmentKind → Option LexemeKind
  | .lexeme kind => some kind
  | _ => none

def kindsOf (cs : List Char) : List LexemeKind :=
  (segments cs).filterMap fun s => s.kind.lexeme?

theorem map_kind_lexemesFrom (p : Location) (ss : List Segment) :
    (lexemesFrom p ss).map Lexeme.kind = ss.filterMap fun s => s.kind.lexeme? := by
  induction ss generalizing p with
  | nil => rfl
  | cons s rest ih =>
    obtain ⟨kind, text⟩ := s
    cases kind <;> simp [lexemesFrom, SegmentKind.lexeme?, ih]

theorem map_kind_lex (source : String) : (lex source).map Lexeme.kind = kindsOf source.toList :=
  map_kind_lexemesFrom _ _

theorem kindsOf_nil : kindsOf [] = [] := by
  rw [kindsOf, segments]
  rfl

theorem kindsOf_cons (c : Char) (rest : List Char) :
    kindsOf (c :: rest) =
      (segmentAt c rest).1.lexeme?.toList ++ kindsOf (rest.drop (segmentAt c rest).2) := by
  rw [kindsOf, segments]
  cases h : (segmentAt c rest).1.lexeme? <;> simp [h, kindsOf]

/-- Reads `n` segments one by one and then the rest. -/
def kindsBy : Nat → List Char → List LexemeKind
  | 0, cs => kindsOf cs
  | _ + 1, [] => []
  | n + 1, c :: rest =>
    (segmentAt c rest).1.lexeme?.toList ++ kindsBy n (rest.drop (segmentAt c rest).2)

theorem kindsBy_eq (n : Nat) (cs : List Char) : kindsBy n cs = kindsOf cs := by
  induction n generalizing cs with
  | zero => rfl
  | succ n ih =>
    cases cs with
    | nil => rw [kindsBy, kindsOf_nil]
    | cons c rest => rw [kindsBy, kindsOf_cons, ih]

/-! ## Closed texts and words -/

def endsWord (c : Char) : Bool :=
  !continuesName c && c != '.'

/-- No name and no number goes on in `cs`. -/
def Apart (cs : List Char) : Prop :=
  ∀ c ∈ cs.head?, endsWord c = true

/-- Whatever follows, `text` is read as `kinds`. -/
def Closed (text : String) (kinds : List LexemeKind) : Prop :=
  ∀ rest, kindsOf (text.toList ++ rest) = kinds ++ kindsOf rest

/-- Where it ends in front of what follows, `text` is read as `kinds`. -/
def Word (text : String) (kinds : List LexemeKind) : Prop :=
  ∀ rest, Apart rest → kindsOf (text.toList ++ rest) = kinds ++ kindsOf rest

theorem apart_nil : Apart [] := nofun

theorem apart_cons {c : Char} {cs : List Char} (h : endsWord c = true) : Apart (c :: cs) := by
  rintro _ ⟨⟩
  exact h

theorem Apart.continuesName_eq_false {cs : List Char} (h : Apart cs) :
    ∀ c ∈ cs.head?, continuesName c = false := by
  intro c hc
  have hends := h c hc
  simp only [endsWord, Bool.and_eq_true, Bool.not_eq_true'] at hends
  exact hends.1

theorem Apart.append {cs rest : List Char} (h : Apart cs) (hr : Apart rest) :
    Apart (cs ++ rest) := by
  cases cs with
  | nil => exact hr
  | cons c cs => exact apart_cons (h c rfl)

section

variable {t t' : String} {ks ks' : List LexemeKind}

theorem Closed.word (h : Closed t ks) : Word t ks :=
  fun rest _ => h rest

theorem Closed.append (h : Closed t ks) (h' : Closed t' ks') : Closed (t ++ t') (ks ++ ks') := by
  intro rest
  rw [String.toList_append, List.append_assoc, h, h', List.append_assoc]

/-- A word may follow a closed text. -/
theorem Closed.before (h : Closed t ks) (h' : Word t' ks') : Word (t ++ t') (ks ++ ks') := by
  intro rest hr
  rw [String.toList_append, List.append_assoc, h, h' rest hr, List.append_assoc]

/-- What does not go on with a word may follow one. -/
theorem Word.append (h : Word t ks) (ha : Apart t'.toList) (h' : Word t' ks') :
    Word (t ++ t') (ks ++ ks') := by
  intro rest hr
  rw [String.toList_append, List.append_assoc, h _ (ha.append hr), h' rest hr,
    List.append_assoc]

/-- A closed text that starts apart ends a word. -/
theorem Word.close (h : Word t ks) {c : Char} {cs : List Char} (ht : t'.toList = c :: cs)
    (hc : endsWord c = true) (h' : Closed t' ks') : Closed (t ++ t') (ks ++ ks') := by
  intro rest
  rw [String.toList_append, List.append_assoc, h _ (by rw [ht]; exact apart_cons hc), h',
    List.append_assoc]

theorem closed_empty : Closed "" [] := fun _ => rfl

/-- A fixed text is closed if reading it segment by segment never looks behind its end. -/
theorem closed_of_kindsBy (n : Nat)
    (h : ∀ rest, kindsBy n (t.toList ++ rest) = ks ++ kindsBy 0 rest) : Closed t ks := by
  intro rest
  rw [← kindsBy_eq n, h, kindsBy_eq]

end

theorem closed_blank {text : String} (h : ∀ c ∈ text.toList, isBlank c = true) :
    Closed text [] := by
  have hchars : ∀ cs : List Char, (∀ c ∈ cs, isBlank c = true) →
      ∀ rest, kindsOf (cs ++ rest) = kindsOf rest := by
    intro cs
    induction cs with
    | nil => exact fun _ _ => rfl
    | cons c cs ih =>
      intro hb rest
      obtain ⟨hc, hcs⟩ := List.forall_mem_cons.mp hb
      rw [List.cons_append, kindsOf_cons, segmentAt, if_pos hc]
      exact ih hcs rest
  exact hchars text.toList h

/-! ## Classes of characters -/

theorem char_le_iff (c d : Char) : c ≤ d ↔ c.toNat ≤ d.toNat := by
  rw [Char.le_def, UInt32.le_iff_toNat_le]
  rfl

theorem isDigit_iff (c : Char) : isDigit c = true ↔ 48 ≤ c.toNat ∧ c.toNat ≤ 57 := by
  simp only [isDigit, Bool.and_eq_true, decide_eq_true_eq, char_le_iff]
  rfl

theorem startsName_iff (c : Char) :
    startsName c = true ↔ (97 ≤ c.toNat ∧ c.toNat ≤ 122) ∨ (65 ≤ c.toNat ∧ c.toNat ≤ 90) ∨
      c.toNat = 95 := by
  have hunderscore : c = '_' ↔ c.toNat = 95 := Char.toNat_inj.symm
  simp only [startsName, Bool.or_eq_true, Bool.and_eq_true, decide_eq_true_eq, beq_iff_eq,
    hunderscore, char_le_iff, or_assoc]
  rfl

theorem isBlank_eq_false {c : Char} (hlow : 33 ≤ c.toNat) (hhigh : c.toNat ≤ 126) :
    isBlank c = false := by
  simp only [isBlank, Bool.or_eq_false_iff, Bool.and_eq_false_imp, decide_eq_false_iff_not,
    decide_eq_true_eq, beq_eq_false_iff_ne]
  omega

/-- Characters of which a class holds one only are different. -/
theorem ne_of_class {p : Char → Bool} {c d : Char} (hc : p c = true) (hd : p d = false) :
    c ≠ d := by
  rintro rfl
  rw [hc] at hd
  cases hd

theorem ne_of_isBlank {c b : Char} (hb : isBlank b = true) (hlow : 33 ≤ c.toNat)
    (hhigh : c.toNat ≤ 126) : b ≠ c :=
  ne_of_class hb (isBlank_eq_false hlow hhigh)

theorem isDigit_of_isBlank {b : Char} (hb : isBlank b = true) : isDigit b = false := by
  rw [Bool.eq_false_iff, ne_eq, isDigit_iff]
  intro hdigit
  exact ne_of_isBlank (c := b) hb (by omega) (by omega) rfl

theorem continuesName_of_isBlank {b : Char} (hb : isBlank b = true) :
    continuesName b = false := by
  rw [continuesName, Bool.or_eq_false_iff]
  refine ⟨?_, isDigit_of_isBlank hb⟩
  rw [Bool.eq_false_iff, ne_eq, startsName_iff]
  intro hname
  exact ne_of_isBlank (c := b) hb (by omega) (by omega) rfl

/-- What is taken from a text ends where the property fails. -/
theorem takeWhile_append_stop {p : Char → Bool} {cs rest : List Char}
    (hin : ∀ c ∈ cs, p c = true) (hstop : ∀ c ∈ rest.head?, p c = false) :
    (cs ++ rest).takeWhile p = cs := by
  rw [List.takeWhile_append_of_pos hin]
  cases rest with
  | nil => exact List.append_nil cs
  | cons c rest => rw [List.takeWhile_cons_of_neg (by simp [hstop c rfl]), List.append_nil]

/-- A segment that starts neither blank nor like a comment or a directive is a lexeme. -/
theorem segmentAt_lexeme {c : Char} (hblank : isBlank c = false) (hslash : c ≠ '/')
    (hsign : c ≠ '#') (rest : List Char) :
    segmentAt c rest = (.lexeme (lexemeAt c rest).1, (lexemeAt c rest).2) := by
  simp [segmentAt, hblank, hslash, hsign]

/-! ## Names -/

def isName (name : String) : Bool :=
  match name.toList with
  | [] => false
  | c :: word => startsName c && word.all continuesName

/-- A character that starts a name starts nothing else. -/
theorem segmentAt_name {c : Char} (hc : startsName c = true) (rest : List Char) :
    segmentAt c rest =
      (.lexeme (.ident (String.ofList (c :: rest.takeWhile continuesName))),
        (rest.takeWhile continuesName).length) := by
  have hrange := (startsName_iff c).mp hc
  have hblank : isBlank c = false := isBlank_eq_false (by omega) (by omega)
  have hdigit : isDigit c = false := by
    rw [Bool.eq_false_iff, ne_eq, isDigit_iff]
    omega
  rw [segmentAt_lexeme hblank (ne_of_class hc rfl) (ne_of_class hc rfl), lexemeAt,
    if_neg (ne_of_class hc rfl), if_neg (ne_of_class hc rfl), if_neg (by simp [hdigit]), if_pos hc]

theorem word_name {name : String} (h : isName name = true) : Word name [.ident name] := by
  unfold isName at h
  split at h
  · cases h
  rename_i c word hname
  obtain ⟨hc, hword⟩ := (Bool.and_eq_true _ _).mp h
  rw [List.all_eq_true] at hword
  intro rest hr
  have htake : (word ++ rest).takeWhile continuesName = word :=
    takeWhile_append_stop hword hr.continuesName_eq_false
  rw [hname, List.cons_append, kindsOf_cons, segmentAt_name hc, htake, List.drop_left, ← hname,
    String.ofList_toList]
  rfl

/-! ## Numbers -/

/-- The lexemes of a number; a minus sign is a lexeme of its own. -/
def intKinds (n : Int64) : List LexemeKind :=
  if n < 0 then [.symbol .minus, .int (-n)] else [.int n]

theorem segmentAt_digit {c : Char} (hc : isDigit c = true) (rest : List Char) :
    segmentAt c rest = (.lexeme (number c rest).1, (number c rest).2) := by
  have hrange := (isDigit_iff c).mp hc
  have hblank : isBlank c = false := isBlank_eq_false (by omega) (by omega)
  rw [segmentAt_lexeme hblank (ne_of_class hc rfl) (ne_of_class hc rfl), lexemeAt,
    if_neg (ne_of_class hc rfl), if_neg (ne_of_class hc rfl), if_pos hc]

theorem kindsOf_digits {c : Char} {digits rest : List Char}
    (hdigits : ∀ d ∈ c :: digits, isDigit d = true) (hr : Apart rest) :
    kindsOf (c :: digits ++ rest) = wholeNumber (c :: digits) :: kindsOf rest := by
  obtain ⟨hc, hdigits⟩ := List.forall_mem_cons.mp hdigits
  have htake : (digits ++ rest).takeWhile isDigit = digits := by
    refine takeWhile_append_stop hdigits fun d hd => ?_
    exact (Bool.or_eq_false_iff.mp (hr.continuesName_eq_false d hd)).2
  have hfraction : fraction rest = [] := by
    cases rest with
    | nil => rfl
    | cons d rest =>
      have hpoint : d ≠ '.' := by
        rintro rfl
        exact absurd (hr '.' rfl) (by decide)
      unfold fraction
      split
      · rename_i heq
        cases heq
        exact absurd rfl hpoint
      · rfl
  have hnumber : number c (digits ++ rest) = (wholeNumber (c :: digits), digits.length) := by
    simp [number, htake, hfraction]
  rw [List.cons_append, kindsOf_cons, segmentAt_digit hc, hnumber, List.drop_left]
  rfl

/-- The decimal form of a natural number is a row of digits that stands for it. -/
theorem repr_digits (n : Nat) : ∃ c digits, n.repr.toList = c :: digits ∧
    (∀ d ∈ c :: digits, isDigit d = true) ∧ Text.digitsValue (c :: digits) = n := by
  obtain ⟨c, digits, heq⟩ := List.exists_cons_of_ne_nil (Nat.toDigits_ne_nil (n := n) (b := 10))
  refine ⟨c, digits, by rw [Nat.toList_repr, heq], ?_, ?_⟩
  · intro d hd
    rw [← heq] at hd
    exact Nat.isDigit_of_mem_toDigits (by decide) (by decide) hd
  · rw [← heq]
    exact Nat.ofDigitChars_toDigits (by decide) (by decide)

theorem kindsOf_repr {n : Nat} {rest : List Char} (h : (n : Int) ≤ Int64.maxValue.toInt)
    (hr : Apart rest) :
    kindsOf (n.repr.toList ++ rest) = .int (Int64.ofInt n) :: kindsOf rest := by
  obtain ⟨c, digits, heq, hdigits, hvalue⟩ := repr_digits n
  have hrange : Int64.minValue.toInt ≤ n ∧ n ≤ Int64.maxValue.toInt :=
    ⟨Int.le_trans (by decide) (Int.natCast_nonneg n), h⟩
  rw [heq, kindsOf_digits hdigits hr, wholeNumber, hvalue, Text.int64OfInt?, if_pos hrange]

/-- In front of a digit a minus sign stands alone. -/
theorem kindsOf_minus {c : Char} (hc : isDigit c = true) (rest : List Char) :
    kindsOf ('-' :: c :: rest) = .symbol .minus :: kindsOf (c :: rest) := by
  have hminus : '-' ≠ c := (ne_of_class hc rfl).symm
  have hsymbol : symbolAt ('-' :: c :: rest) = some .minus := by
    simp [symbolAt, Symbol.all, Symbol.spelling, hminus]
  have hsegment : segmentAt '-' (c :: rest) = (.lexeme (.symbol .minus), 0) := by
    rw [segmentAt_lexeme rfl (by decide) (by decide)]
    simp [lexemeAt, hsymbol, show isDigit '-' = false from rfl,
      show startsName '-' = false from rfl, Symbol.spelling]
  rw [kindsOf_cons, hsegment]
  rfl

/-- The decimal form of a number is read as that number. -/
theorem word_int64Text {n : Int64} (h : Int64.minValue < n) :
    Word (Text.int64Text n) (intKinds n) := by
  intro rest hr
  -- The digits are read without the sign, so the number behind it must be in range by itself.
  have hlow := Int64.lt_iff_toInt_lt.mp h
  have hback := Int64.ofInt_toInt n
  rw [Text.int64Text]
  cases hn : n.toInt with
  | ofNat m =>
    have hhigh := n.toInt_le
    have hsign : ¬ n < 0 := by
      rw [Int64.lt_iff_toInt_lt, hn]
      simp
    rw [hn] at hhigh hback
    rw [intKinds, if_neg hsign, Int.repr, kindsOf_repr hhigh hr, ← hback]
    rfl
  | negSucc m =>
    have hsign : n < 0 := by
      rw [Int64.lt_iff_toInt_lt, hn]
      exact Int.negSucc_lt_zero m
    have hhigh : ((m + 1 : Nat) : Int) ≤ Int64.maxValue.toInt := by
      rw [hn] at hlow
      have hsum : Int64.minValue.toInt + Int64.maxValue.toInt = -1 := by decide
      omega
    have hvalue : Int64.ofInt ((m + 1 : Nat) : Int) = -n := by
      rw [← hback, hn, ← Int64.ofInt_neg]
      rfl
    have htext : (Int.negSucc m).repr.toList = '-' :: (m + 1).repr.toList := by
      simp [Int.repr]
    obtain ⟨c, digits, heq, hdigits, -⟩ := repr_digits (m + 1)
    have hrest := kindsOf_repr hhigh hr
    rw [heq, hvalue] at hrest
    rw [intKinds, if_pos hsign, htext, heq, List.cons_append, List.cons_append,
      kindsOf_minus (hdigits c List.mem_cons_self), ← List.cons_append, hrest]
    rfl

/-! ## Quoted texts -/

def quotedChar (c : Char) : List Char :=
  if c = '\\' then ['\\', '\\']
  else if c = '"' then ['\\', '"']
  else if c = '\n' then ['\\', 'n']
  else [c]

def quote (text : String) : String :=
  "\"" ++ String.ofList (text.toList.flatMap quotedChar) ++ "\""

/-- However a character is written, it is read back. -/
theorem quotedBody_quotedChar (c : Char) (rest : List Char) :
    quotedBody '"' (quotedChar c ++ rest) =
      (c :: (quotedBody '"' rest).1, (quotedBody '"' rest).2 + (quotedChar c).length) := by
  unfold quotedChar
  split
  case isTrue h => subst h; simp [quotedBody, unescape]
  case isFalse hslash =>
    split
    case isTrue h => subst h; simp [quotedBody, unescape]
    case isFalse hquote =>
      split
      case isTrue h => subst h; simp [quotedBody, unescape]
      case isFalse hline =>
        rw [List.singleton_append, quotedBody.eq_def]
        simp [hslash, hquote, hline]

/-- A quoted text ends with its closing quote. -/
theorem quotedBody_flatMap (cs rest : List Char) :
    quotedBody '"' (cs.flatMap quotedChar ++ '"' :: rest) =
      (cs, (cs.flatMap quotedChar).length + 1) := by
  induction cs with
  | nil =>
    rw [List.flatMap_nil, List.nil_append, quotedBody.eq_def]
    simp
  | cons c cs ih =>
    rw [List.flatMap_cons, List.append_assoc, quotedBody_quotedChar, ih, List.length_append]
    congr 1
    omega

theorem closed_quote (text : String) : Closed (quote text) [.string text] := by
  intro rest
  let inner := text.toList.flatMap quotedChar
  have htext : (quote text).toList ++ rest = '"' :: (inner ++ '"' :: rest) := by
    simp [quote, inner]
  have hsegment : segmentAt '"' (inner ++ '"' :: rest) =
      (.lexeme (.string text), inner.length + 1) := by
    rw [segmentAt_lexeme rfl (by decide) (by decide)]
    simp [lexemeAt, inner, quotedBody_flatMap]
  rw [htext, kindsOf_cons, hsegment]
  simp [SegmentKind.lexeme?]

end ConsoleLab
