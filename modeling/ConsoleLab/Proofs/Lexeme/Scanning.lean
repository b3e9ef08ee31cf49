/-
  ConsoleLab.Proofs.Lexeme.Scanning — a segment is read where it is spelled.

  For each kind of segment: what its reader takes is spelled by the rules, and what is spelled
  by the rules is what its reader takes, whatever follows. Main facts: `segmentAt_eq_iff` for
  one segment, `segments_eq_iff` for a whole text.
-/

import ConsoleLab.Proofs.Lexeme.Places
import ConsoleLab.Proofs.Lexeme.Spelling
import ConsoleLab.Proofs.Text.Decimal

namespace ConsoleLab

open Text (isBlank isDigit)
open Lexer

/-! ## Rows of characters -/

theorem take_row (p : Char → Bool) (cs : List Char) :
    cs.take (cs.takeWhile p).length = cs.takeWhile p :=
  List.prefix_iff_eq_take.mp (List.takeWhile_prefix p) |>.symm

theorem drop_row (p : Char → Bool) (cs : List Char) :
    cs.drop (cs.takeWhile p).length = cs.dropWhile p := by
  rw [← List.append_right_inj (cs.takeWhile p), List.takeWhile_append_dropWhile]
  nth_rewrite 1 [← take_row p cs]
  exact List.take_append_drop _ _

theorem row_all (p : Char → Bool) (cs : List Char) : ∀ c ∈ cs.takeWhile p, p c = true :=
  List.all_eq_true.mp List.all_takeWhile

theorem row_stops (p : Char → Bool) (cs : List Char) : ∀ c ∈ (cs.dropWhile p).head?, p c = false := by
  intro c hc
  have hstop := List.head?_dropWhile_not p cs
  rw [hc] at hstop
  exact hstop

theorem restOfLine_row (cs : List Char) :
    '\n' ∉ cs.take (restOfLine cs) ∧ EndsLine (cs.drop (restOfLine cs)) := by
  rw [restOfLine, take_row, drop_row]
  refine ⟨fun h => ?_, fun c hc => ?_⟩
  · simpa using row_all _ _ _ h
  · simpa using row_stops _ _ _ hc

theorem restOfLine_append {body after : List Char} (hbody : '\n' ∉ body) (hend : EndsLine after) :
    restOfLine (body ++ after) = body.length := by
  rw [restOfLine, takeWhile_append_stop]
  · intro c hc
    simpa using ne_of_mem_of_not_mem hc hbody
  · intro c hc
    simp [hend c hc]

/-! ## Comments -/

theorem infix_cons_iff_close {c : Char} {cs : List Char} :
    ['*', '/'] <:+: c :: cs ↔ (c = '*' ∧ cs.head? = some '/') ∨ ['*', '/'] <:+: cs := by
  rw [List.infix_cons_iff, List.cons_prefix_cons]
  cases cs with
  | nil => simp
  | cons d cs => simp [eq_comm]

/-- A comment goes up to its first closing mark, or to the end of the text. -/
theorem commentBody_cases (cs : List Char) :
    (∃ body, cs.take (commentBody cs) = body ++ ['*', '/'] ∧ ¬ ['*', '/'] <:+: body ++ ['*']) ∨
      (commentBody cs = cs.length ∧ ¬ ['*', '/'] <:+: cs) := by
  induction cs with
  | nil => exact Or.inr ⟨rfl, by simp⟩
  | cons c cs ih =>
    rw [commentBody]
    by_cases hclose : c = '*' ∧ cs.head? = some '/'
    · rw [if_pos hclose]
      obtain ⟨rfl, hhead⟩ := hclose
      obtain ⟨rest, rfl⟩ := List.head?_eq_some_iff.mp hhead
      exact Or.inl ⟨[], rfl, by decide⟩
    · rw [if_neg hclose]
      rcases ih with ⟨body, htake, hfirst⟩ | ⟨hlength, hnone⟩
      · refine Or.inl ⟨c :: body, by rw [List.take_succ_cons, htake, List.cons_append], ?_⟩
        rw [List.cons_append, infix_cons_iff_close]
        rintro (⟨hc, hhead⟩ | hin)
        · -- the text goes on like the comment
          refine hclose ⟨hc, ?_⟩
          rw [← List.take_append_drop (commentBody cs) cs, htake]
          cases body with
          | nil => cases hhead
          | cons d body => exact hhead
        · exact hfirst hin
      · refine Or.inr ⟨by rw [hlength, List.length_cons], ?_⟩
        rw [infix_cons_iff_close]
        exact not_or.mpr ⟨hclose, hnone⟩

theorem commentBody_closed {body : List Char} (h : ¬ ['*', '/'] <:+: body ++ ['*'])
    (after : List Char) : commentBody (body ++ '*' :: '/' :: after) = body.length + 2 := by
  induction body with
  | nil => rfl
  | cons c body ih =>
    rw [List.cons_append, infix_cons_iff_close] at h
    obtain ⟨hclose, hrest⟩ := not_or.mp h
    have hhead : (body ++ '*' :: '/' :: after).head? = (body ++ ['*']).head? := by
      cases body <;> rfl
    rw [List.cons_append, commentBody, hhead, if_neg hclose, ih hrest, List.length_cons]

theorem commentBody_open {body : List Char} (h : ¬ ['*', '/'] <:+: body) :
    commentBody body = body.length := by
  rcases commentBody_cases body with ⟨front, htake, -⟩ | ⟨hlength, -⟩
  · refine absurd ?_ h
    rw [← List.take_append_drop (commentBody body) body, htake]
    exact List.infix_append front _ _
  · exact hlength

/-! ## Quoted texts -/

theorem escapes_cons {c : Char} (hc : c ≠ '\\') (front : List Char) :
    Escapes (c :: front) ↔ Escapes front := by
  unfold Escapes
  rw [List.reverse_cons, List.takeWhile_append]
  split
  · rename_i hfull
    simp [hc, hfull]
  · rfl

/-- An escape sequence escapes nothing behind it. -/
theorem escapes_escape (c : Char) (front : List Char) :
    Escapes ('\\' :: c :: front) ↔ Escapes front := by
  unfold Escapes
  rw [List.reverse_cons, List.reverse_cons, List.append_assoc, List.takeWhile_append]
  split
  · rename_i hfull
    by_cases hc : c = '\\'
    · simp [hc, hfull]
    · simp [hc, hfull]
  · rfl

theorem not_escapes_nil : ¬ Escapes [] := nofun

theorem endsLine_nil : EndsLine [] := nofun

theorem endsLine_newline (rest : List Char) : EndsLine ('\n' :: rest) := by
  rintro c ⟨⟩
  rfl

section

variable {quote : Char} {inner tail after : List Char}

theorem allEscaped_nil (quote : Char) : AllEscaped quote [] := by
  intro front back h
  simp at h

theorem allEscaped_backslash (hquote : quote ≠ '\\') : AllEscaped quote ['\\'] := by
  intro front back heq
  cases front with
  | nil => exact absurd (List.cons.inj heq).1.symm hquote
  | cons d front => simp at heq

theorem allEscaped_cons_iff {c : Char} (hslash : c ≠ '\\') :
    AllEscaped quote (c :: inner) ↔ c ≠ quote ∧ AllEscaped quote inner := by
  constructor
  · intro h
    refine ⟨?_, fun front back heq => ?_⟩
    · rintro rfl
      exact not_escapes_nil (h [] inner rfl)
    · exact (escapes_cons hslash front).mp (h (c :: front) back (congrArg (c :: ·) heq))
  · rintro ⟨hquote, h⟩ front back heq
    cases front with
    | nil => exact absurd (List.cons.inj heq).1 hquote
    | cons d front =>
      obtain ⟨rfl, hrest⟩ := List.cons.inj heq
      exact (escapes_cons hslash front).mpr (h front back hrest)

theorem allEscaped_escape_iff {c : Char} (hquote : quote ≠ '\\') :
    AllEscaped quote ('\\' :: c :: inner) ↔ AllEscaped quote inner := by
  constructor
  · intro h front back heq
    have hescaped := h ('\\' :: c :: front) back (by rw [heq]; rfl)
    exact (escapes_escape c front).mp hescaped
  · intro h front back heq
    match front with
    | [] => exact absurd (List.cons.inj heq).1.symm hquote
    | [d] =>
      obtain rfl : '\\' = d := (List.cons.inj heq).1
      rfl
    | d :: e :: front =>
      simp only [List.cons_append, List.cons.injEq] at heq
      obtain ⟨rfl, rfl, hrest⟩ := heq
      exact (escapes_escape c front).mpr (h front back hrest)

theorem quotedLine_iff : QuotedLine quote inner ↔ '\n' ∉ inner ∧ AllEscaped quote inner :=
  ⟨fun h => ⟨h.one_line, h.escaped⟩, fun h => ⟨h.1, h.2⟩⟩

theorem quotedLine_nil (quote : Char) : QuotedLine quote [] :=
  ⟨by simp, allEscaped_nil quote⟩

theorem quotedLine_backslash (hquote : quote ≠ '\\') : QuotedLine quote ['\\'] :=
  ⟨by decide, allEscaped_backslash hquote⟩

theorem quotedLine_cons_iff {c : Char} (hslash : c ≠ '\\') :
    QuotedLine quote (c :: inner) ↔ c ≠ quote ∧ c ≠ '\n' ∧ QuotedLine quote inner := by
  rw [quotedLine_iff, quotedLine_iff, allEscaped_cons_iff hslash, List.mem_cons, not_or,
    ne_comm (a := c)]
  tauto

theorem quotedLine_escape_iff {c : Char} (hquote : quote ≠ '\\') :
    QuotedLine quote ('\\' :: c :: inner) ↔ c ≠ '\n' ∧ QuotedLine quote inner := by
  rw [quotedLine_iff, quotedLine_iff, allEscaped_escape_iff hquote, List.mem_cons, List.mem_cons]
  have hslash : '\n' ≠ '\\' := by decide
  grind

theorem unescapeAll_cons {c : Char} (hslash : c ≠ '\\') (cs : List Char) :
    unescapeAll (c :: cs) = c :: unescapeAll cs := by
  rw [unescapeAll]
  · simp [hslash]
  · simp [hslash]

theorem QuotedTail.cons {c : Char} (h : QuotedTail quote inner tail after)
    (hquote : c ≠ quote) (hline : c ≠ '\n') (hslash : c ≠ '\\') :
    QuotedTail quote (c :: inner) (c :: tail) after := by
  cases h with
  | closed hinner hends =>
    exact .closed ((quotedLine_cons_iff hslash).mpr ⟨hquote, hline, hinner⟩)
      (mt (escapes_cons hslash _).mp hends)
  | cutOff hinner hends =>
    exact .cutOff ((quotedLine_cons_iff hslash).mpr ⟨hquote, hline, hinner⟩) hends

theorem QuotedTail.escape {c : Char} (h : QuotedTail quote inner tail after)
    (hquote : quote ≠ '\\') (hline : c ≠ '\n') :
    QuotedTail quote ('\\' :: c :: inner) ('\\' :: c :: tail) after := by
  cases h with
  | closed hinner hends =>
    exact .closed ((quotedLine_escape_iff hquote).mpr ⟨hline, hinner⟩)
      (mt (escapes_escape c _).mp hends)
  | cutOff hinner hends => exact .cutOff ((quotedLine_escape_iff hquote).mpr ⟨hline, hinner⟩) hends

theorem exists_quotedTail (hquote : quote ≠ '\\') (cs : List Char) :
    ∃ inner, QuotedTail quote inner (cs.take (quotedBody quote cs).2)
        (cs.drop (quotedBody quote cs).2) ∧ (quotedBody quote cs).1 = unescapeAll inner := by
  fun_induction quotedBody quote cs with
  | case1 => exact ⟨[], .cutOff (quotedLine_nil _) endsLine_nil, rfl⟩
  | case2 rest => exact ⟨[], .closed (quotedLine_nil _) not_escapes_nil, rfl⟩
  | case3 rest => exact ⟨[], .cutOff (quotedLine_nil _) (endsLine_newline rest), rfl⟩
  | case4 => exact ⟨['\\'], .cutOff (quotedLine_backslash hquote) endsLine_nil, rfl⟩
  | case5 rest => exact ⟨['\\'], .cutOff (quotedLine_backslash hquote) (endsLine_newline rest), rfl⟩
  | case6 c rest hline text length heq _ _ ih =>
    rw [heq] at ih
    obtain ⟨inner, htail, htext⟩ := ih
    exact ⟨'\\' :: c :: inner, htail.escape hquote hline, congrArg (unescape c :: ·) htext⟩
  | case7 c rest hquoted hline hslash text length heq ih =>
    rw [heq] at ih
    obtain ⟨inner, htail, htext⟩ := ih
    refine ⟨c :: inner, htail.cons hquoted hline hslash, ?_⟩
    rw [unescapeAll_cons hslash]
    exact congrArg (c :: ·) htext

theorem quotedBody_of_endsLine (quote : Char) (h : EndsLine after) (hquote : quote ≠ '\n') :
    quotedBody quote after = ([], 0) := by
  cases after with
  | nil => rfl
  | cons c after =>
    obtain rfl := h c rfl
    rw [quotedBody.eq_def]
    simp [hquote.symm]

theorem quotedBody_escape (hquote : quote ≠ '\\') {c : Char} (hline : c ≠ '\n')
    (rest : List Char) :
    quotedBody quote ('\\' :: c :: rest) =
      (unescape c :: (quotedBody quote rest).1, (quotedBody quote rest).2 + 2) := by
  rw [quotedBody.eq_def]
  simp [hquote.symm, hline]

theorem quotedBody_cons {c : Char} (hquoted : c ≠ quote) (hline : c ≠ '\n') (hslash : c ≠ '\\')
    (rest : List Char) :
    quotedBody quote (c :: rest) =
      (c :: (quotedBody quote rest).1, (quotedBody quote rest).2 + 1) := by
  rw [quotedBody.eq_def]
  simp [hquoted, hline, hslash]

theorem ne_backslash_of_plain {c : Char} {cs : List Char} (hlone : c = '\\' → cs = [] → False)
    (hescape : ∀ d rest, c = '\\' → cs = d :: rest → False) : c ≠ '\\' := by
  intro hc
  cases cs with
  | nil => exact hlone hc rfl
  | cons d rest => exact hescape d rest hc rfl

/-- What lies between the quotes is read character by character. -/
theorem quotedBody_append (hquote : quote ≠ '\\') (hnewline : quote ≠ '\n')
    (h : QuotedLine quote inner) (hends : Escapes inner → EndsLine after) :
    quotedBody quote (inner ++ after) =
      (unescapeAll inner ++ (quotedBody quote after).1,
        inner.length + (quotedBody quote after).2) := by
  fun_induction unescapeAll inner with
  | case1 => simp
  | case2 =>
    -- the backslash is the last character of its line
    have hend := hends rfl
    rw [quotedBody_of_endsLine quote hend hnewline]
    cases after with
    | nil => simp [quotedBody.eq_def, hquote.symm]
    | cons c after =>
      obtain rfl := hend c rfl
      simp [quotedBody.eq_def quote ('\\' :: _), hquote.symm]
  | case3 c cs ih =>
    obtain ⟨hline, hinner⟩ := (quotedLine_escape_iff hquote).mp h
    have hrest := ih hinner fun hescapes => hends ((escapes_escape c cs).mpr hescapes)
    rw [List.cons_append, List.cons_append, quotedBody_escape hquote hline, hrest,
      Nat.add_right_comm]
    rfl
  | case4 c cs hlone hescape ih =>
    have hslash := ne_backslash_of_plain hlone hescape
    obtain ⟨hquoted, hline, hinner⟩ := (quotedLine_cons_iff hslash).mp h
    have hrest := ih hinner fun hescapes => hends ((escapes_cons hslash cs).mpr hescapes)
    rw [List.cons_append, quotedBody_cons hquoted hline hslash, hrest, Nat.add_right_comm]
    rfl

theorem QuotedTail.quotedBody_eq (h : QuotedTail quote inner tail after) (hquote : quote ≠ '\\')
    (hnewline : quote ≠ '\n') :
    quotedBody quote (tail ++ after) = (unescapeAll inner, tail.length) := by
  cases h with
  | closed hinner hends =>
    have hquoted : quotedBody quote (quote :: after) = ([], 1) := by
      rw [quotedBody.eq_def]
      simp
    rw [List.append_assoc, List.singleton_append,
      quotedBody_append hquote hnewline hinner fun hescapes => absurd hescapes hends, hquoted,
      List.append_nil, List.length_append]
    rfl
  | cutOff hinner hends =>
    rw [quotedBody_append hquote hnewline hinner fun _ => hends,
      quotedBody_of_endsLine quote hends hnewline, List.append_nil]
    rfl

end

/-! ## Numbers -/

theorem fraction_cases (cs : List Char) :
    (fraction cs = [] ∧ ¬ FractionFollows cs) ∨
      ∃ part after, cs = '.' :: (part ++ after) ∧ fraction cs = '.' :: part ∧
        DigitRow part after := by
  unfold fraction
  split
  case h_2 hpoint =>
    refine Or.inl ⟨rfl, ?_⟩
    rintro ⟨d, rest, rfl, -⟩
    exact hpoint _ rfl
  case h_1 tail =>
    dsimp only
    split
    case isTrue hempty =>
      refine Or.inl ⟨rfl, ?_⟩
      rintro ⟨d, rest, heq, hd⟩
      obtain rfl := (List.cons.inj heq).2
      rw [List.takeWhile_cons_of_pos hd] at hempty
      cases hempty
    case isFalse hsome =>
      refine Or.inr ⟨tail.takeWhile isDigit, tail.dropWhile isDigit, ?_, rfl, ?_⟩
      · rw [List.takeWhile_append_dropWhile]
      · exact ⟨mt List.isEmpty_iff.mpr hsome, row_all isDigit tail, row_stops isDigit tail⟩

/-- A row of digits is the number for which it stands, if there is such a number. -/
theorem wholeNumber_spells {digits after : List Char} (hrow : DigitRow digits after)
    (hend : ¬ FractionFollows after) : (wholeNumber digits).Spells digits after := by
  unfold wholeNumber
  cases hvalue : Text.int64OfInt? (Text.digitsValue digits) with
  | some value => exact .int hrow hend (Text.int64OfInt?_eq_some_iff.mp hvalue)
  | none => exact .tooLarge hrow hend (Text.int64OfInt?_natCast_eq_none_iff.mp hvalue)

theorem number_spells {c : Char} (hc : isDigit c = true) (rest : List Char) :
    (number c rest).1.Spells (c :: rest.take (number c rest).2) (rest.drop (number c rest).2) := by
  have hdigits : ∀ d ∈ c :: rest.takeWhile isDigit, isDigit d = true :=
    List.forall_mem_cons.mpr ⟨hc, row_all isDigit rest⟩
  have hrow : DigitRow (c :: rest.takeWhile isDigit) (rest.dropWhile isDigit) :=
    ⟨List.cons_ne_nil _ _, hdigits, row_stops isDigit rest⟩
  unfold number
  dsimp only
  rw [drop_row]
  rcases fraction_cases (rest.dropWhile isDigit) with
    ⟨hnone, hend⟩ | ⟨part, after, heq, hsome, hpart⟩
  · rw [hnone, if_pos List.isEmpty_nil, take_row, drop_row]
    exact wholeNumber_spells hrow hend
  · have htext : rest = rest.takeWhile isDigit ++ '.' :: part ++ after := by
      rw [List.append_assoc, List.cons_append, ← heq, List.takeWhile_append_dropWhile]
    have hpoint : DigitRow (c :: rest.takeWhile isDigit) ('.' :: part) :=
      ⟨hrow.ne_nil, hrow.digits, by rintro d ⟨⟩; rfl⟩
    rw [hsome, if_neg (by simp)]
    generalize rest.takeWhile isDigit = digits at htext hpoint
    rw [htext, ← List.length_append, List.take_left, List.drop_left]
    exact .float hpoint hpart

theorem fraction_eq_nil {after : List Char} (h : ¬ FractionFollows after) : fraction after = [] := by
  rcases fraction_cases after with ⟨hnone, -⟩ | ⟨part, back, rfl, -, hpart⟩
  · exact hnone
  · obtain ⟨d, more, rfl⟩ := List.exists_cons_of_ne_nil hpart.ne_nil
    exact absurd ⟨d, more ++ back, rfl, hpart.digits d List.mem_cons_self⟩ h

theorem fraction_part {part after : List Char} (h : DigitRow part after) :
    fraction ('.' :: (part ++ after)) = '.' :: part := by
  have hpart : (part ++ after).takeWhile isDigit = part := takeWhile_append_stop h.digits h.stops
  have hsome : ¬ part.isEmpty = true := mt List.isEmpty_iff.mp h.ne_nil
  rw [fraction, hpart]
  exact if_neg hsome

section

variable {c : Char} {digits part after : List Char}

theorem number_whole (hrow : DigitRow (c :: digits) after) (hend : ¬ FractionFollows after) :
    number c (digits ++ after) = (wholeNumber (c :: digits), digits.length) := by
  have hdigits : (digits ++ after).takeWhile isDigit = digits :=
    takeWhile_append_stop (List.forall_mem_cons.mp hrow.digits).2 hrow.stops
  rw [number, hdigits, List.drop_left, fraction_eq_nil hend]
  exact if_pos List.isEmpty_nil

theorem number_float (hrow : DigitRow (c :: digits) ('.' :: part)) (hpart : DigitRow part after) :
    number c (digits ++ '.' :: part ++ after) =
      (.float (String.ofList (c :: digits ++ '.' :: part)), (digits ++ '.' :: part).length) := by
  have hstops : ∀ d ∈ ('.' :: (part ++ after)).head?, isDigit d = false := by
    rintro d ⟨⟩
    rfl
  have hdigits : (digits ++ '.' :: (part ++ after)).takeWhile isDigit = digits :=
    takeWhile_append_stop (List.forall_mem_cons.mp hrow.digits).2 hstops
  rw [List.append_assoc, List.cons_append, number, hdigits, List.drop_left, fraction_part hpart,
    List.length_append]
  exact if_neg (by simp)

theorem wholeNumber_of_toInt_eq {value : Int64} (h : value.toInt = Text.digitsValue digits) :
    wholeNumber digits = .int value := by
  rw [wholeNumber, Text.int64OfInt?_eq_some_iff.mpr h]

theorem wholeNumber_of_maxValue_lt (h : Int64.maxValue.toInt < Text.digitsValue digits) :
    wholeNumber digits = .unknown (String.ofList digits) := by
  rw [wholeNumber, Text.int64OfInt?_natCast_eq_none_iff.mpr h]

end

/-! ## Symbols -/

def Symbol.isPair (mark : Symbol) : Bool :=
  mark.spelling.length == 2

/-- Where some pair stands, a pair is read. -/
theorem exists_pair_symbolAt {mark : Symbol} {cs : List Char} (h : mark.isPair = true)
    (hcs : mark.spelling.isPrefixOf cs = true) :
    ∃ pair : Symbol, pair.isPair = true ∧ symbolAt cs = some pair := by
  have hall : Symbol.all = Symbol.all.filter Symbol.isPair ++
      Symbol.all.filter fun mark => !mark.isPair := by decide
  have hfound : ((Symbol.all.filter Symbol.isPair).find?
      fun mark => mark.spelling.isPrefixOf cs).isSome = true :=
    List.find?_isSome.mpr ⟨mark, List.mem_filter.mpr ⟨mark.mem_all, h⟩, hcs⟩
  obtain ⟨pair, hpair⟩ := Option.isSome_iff_exists.mp hfound
  refine ⟨pair, (List.mem_filter.mp (List.mem_of_find?_eq_some hpair)).2, ?_⟩
  rw [symbolAt, hall, List.find?_append, hpair]
  rfl

theorem length_spelling_le (mark : Symbol) : mark.spelling.length ≤ 2 := by
  cases mark <;> decide

theorem spelling_prefix_of_symbolAt {cs : List Char} {mark : Symbol}
    (h : symbolAt cs = some mark) : mark.spelling <+: cs :=
  List.isPrefixOf_iff_prefix.mp
    (List.find?_some (p := fun other : Symbol => other.spelling.isPrefixOf cs) h)

theorem length_le_symbolAt {cs : List Char} {mark : Symbol} (h : symbolAt cs = some mark)
    {other : Symbol} (ho : other.spelling <+: cs) :
    other.spelling.length ≤ mark.spelling.length := by
  have hone : 1 ≤ mark.spelling.length := List.length_pos_iff.mpr mark.spelling_ne_nil
  have htwo := length_spelling_le other
  by_cases hpair : other.isPair = true
  · obtain ⟨pair, hlength, hread⟩ :=
      exists_pair_symbolAt hpair (List.isPrefixOf_iff_prefix.mpr ho)
    obtain rfl := Option.some.inj (hread.symm.trans h)
    rw [beq_iff_eq.mp hlength]
    exact htwo
  · have hne : other.spelling.length ≠ 2 := mt beq_iff_eq.mpr hpair
    omega

theorem symbolAt_eq_none {cs : List Char} (h : symbolAt cs = none) (mark : Symbol) :
    ¬ mark.spelling <+: cs := by
  intro hstart
  exact List.find?_eq_none.mp h mark mark.mem_all (List.isPrefixOf_iff_prefix.mpr hstart)

theorem spelling_injective {mark other : Symbol} (h : mark.spelling = other.spelling) :
    mark = other := by
  have hall : ∀ mark ∈ Symbol.all, ∀ other ∈ Symbol.all,
      mark.spelling = other.spelling → mark = other := by decide
  exact hall mark mark.mem_all other other.mem_all h

/-- The longest symbol that stands somewhere is read there. -/
theorem symbolAt_spelling {mark : Symbol} {after : List Char}
    (h : ∀ other : Symbol, other.spelling <+: mark.spelling ++ after →
      other.spelling.length ≤ mark.spelling.length) :
    symbolAt (mark.spelling ++ after) = some mark := by
  have hmark : mark.spelling <+: mark.spelling ++ after := List.prefix_append _ _
  cases hread : symbolAt (mark.spelling ++ after) with
  | none => exact absurd hmark (symbolAt_eq_none hread mark)
  | some other =>
    have hother := spelling_prefix_of_symbolAt hread
    have hlength := Nat.le_antisymm (h other hother) (length_le_symbolAt hread hmark)
    have hfront := List.prefix_of_prefix_length_le hother hmark (Nat.le_of_eq hlength)
    rw [spelling_injective (hfront.eq_of_length hlength)]

/-- No symbol starts like another kind of segment. -/
theorem exists_spelling_cons (mark : Symbol) : ∃ c more, mark.spelling = c :: more ∧
    isBlank c = false ∧ c ≠ '/' ∧ c ≠ '#' ∧ c ≠ '"' ∧ c ≠ '\'' ∧ isDigit c = false ∧
    startsName c = false := by
  cases mark <;> exact ⟨_, _, rfl, by decide⟩

/-- A character that starts no literal and no name is looked up among the symbols. -/
theorem lexemeAt_symbol {c : Char} (hstring : c ≠ '"') (hchar : c ≠ '\'')
    (hdigit : isDigit c = false) (hname : startsName c = false) (rest : List Char) :
    lexemeAt c rest = (symbolAt (c :: rest)).elim (.unknown (String.ofList [c]), 0)
      fun mark => (.symbol mark, mark.spelling.length - 1) := by
  simp only [lexemeAt, if_neg hstring, if_neg hchar, hdigit, hname, Bool.false_eq_true, if_false]
  cases symbolAt (c :: rest) with
  | none => rfl
  | some mark => rfl

/-! ## Lexemes -/

theorem lexemeAt_spells {c : Char} {rest : List Char} (hblank : isBlank c = false) (hsign : c ≠ '#')
    (hcomment : c = '/' → rest.head? ≠ some '/' ∧ rest.head? ≠ some '*') :
    (lexemeAt c rest).1.Spells (c :: rest.take (lexemeAt c rest).2)
      (rest.drop (lexemeAt c rest).2) := by
  unfold lexemeAt
  by_cases hstring : c = '"'
  · subst hstring
    rw [if_pos rfl]
    obtain ⟨inner, htail, htext⟩ := exists_quotedTail (show '"' ≠ '\\' by decide) rest
    dsimp only
    rw [htext]
    exact .string htail
  rw [if_neg hstring]
  by_cases hchar : c = '\''
  · subst hchar
    rw [if_pos rfl]
    obtain ⟨inner, htail, htext⟩ := exists_quotedTail (show '\'' ≠ '\\' by decide) rest
    dsimp only
    rw [htext]
    exact .char htail
  rw [if_neg hchar]
  by_cases hdigit : isDigit c = true
  · rw [if_pos hdigit]
    exact number_spells hdigit rest
  rw [if_neg hdigit]
  by_cases hname : startsName c = true
  · rw [if_pos hname]
    dsimp only
    rw [take_row, drop_row]
    exact .ident hname (row_all _ rest) (row_stops _ rest)
  rw [if_neg hname]
  cases hsymbol : symbolAt (c :: rest) with
  | some mark =>
    obtain ⟨back, hback⟩ := spelling_prefix_of_symbolAt hsymbol
    have hlongest : ∀ other : Symbol, other.spelling <+: mark.spelling ++ back →
        other.spelling.length ≤ mark.spelling.length := by
      rw [hback]
      exact fun other => length_le_symbolAt hsymbol
    obtain ⟨d, more, hmark⟩ := List.exists_cons_of_ne_nil mark.spelling_ne_nil
    have hspells := LexemeKind.Spells.symbol hlongest
    rw [hmark, List.cons_append] at hback
    obtain ⟨rfl, rfl⟩ := List.cons.inj hback
    dsimp only
    rw [hmark] at hspells ⊢
    rw [List.length_cons, Nat.add_sub_cancel, List.take_left, List.drop_left]
    exact hspells
  | none =>
    exact .stray hblank hstring hchar hsign (Bool.eq_false_iff.mpr hdigit)
      (Bool.eq_false_iff.mpr hname) hcomment (symbolAt_eq_none hsymbol)

theorem LexemeKind.Spells.segmentAt_eq {kind : LexemeKind} {text after : List Char}
    (h : kind.Spells text after) :
    ∃ c rest, text = c :: rest ∧ segmentAt c (rest ++ after) = (.lexeme kind, rest.length) := by
  cases h with
  | @string inner tail _ htail =>
    refine ⟨'"', tail, rfl, ?_⟩
    rw [segmentAt_lexeme rfl (by decide) (by decide), lexemeAt, if_pos rfl,
      htail.quotedBody_eq (by decide) (by decide)]
  | @char inner tail _ htail =>
    refine ⟨'\'', tail, rfl, ?_⟩
    rw [segmentAt_lexeme rfl (by decide) (by decide), lexemeAt, if_neg (by decide), if_pos rfl,
      htail.quotedBody_eq (by decide) (by decide)]
  | int hrow hend hvalue =>
    obtain ⟨c, digits, rfl⟩ := List.exists_cons_of_ne_nil hrow.ne_nil
    refine ⟨c, digits, rfl, ?_⟩
    rw [segmentAt_digit (hrow.digits c List.mem_cons_self), number_whole hrow hend,
      wholeNumber_of_toInt_eq hvalue]
  | tooLarge hrow hend hlarge =>
    obtain ⟨c, digits, rfl⟩ := List.exists_cons_of_ne_nil hrow.ne_nil
    refine ⟨c, digits, rfl, ?_⟩
    rw [segmentAt_digit (hrow.digits c List.mem_cons_self), number_whole hrow hend,
      wholeNumber_of_maxValue_lt hlarge]
  | @float _ part _ hrow hpart =>
    obtain ⟨c, digits, rfl⟩ := List.exists_cons_of_ne_nil hrow.ne_nil
    refine ⟨c, digits ++ '.' :: part, rfl, ?_⟩
    rw [segmentAt_digit (hrow.digits c List.mem_cons_self), number_float hrow hpart]
  | @ident c word _ hc hword hstops =>
    refine ⟨c, word, rfl, ?_⟩
    rw [segmentAt_name hc, takeWhile_append_stop hword hstops]
  | @symbol mark _ hlongest =>
    obtain ⟨c, more, hmark, hblank, hslash, hsign, hstring, hchar, hdigit, hname⟩ :=
      exists_spelling_cons mark
    have hread := symbolAt_spelling hlongest
    rw [hmark, List.cons_append] at hread
    refine ⟨c, more, hmark, ?_⟩
    rw [segmentAt_lexeme hblank hslash hsign, lexemeAt_symbol hstring hchar hdigit hname, hread,
      Option.elim_some, hmark, List.length_cons, Nat.add_sub_cancel]
  | @stray c _ hblank hstring hchar hsign hdigit hname hcomment hnone =>
    have hread : symbolAt (c :: after) = none := by
      cases hread : symbolAt (c :: after) with
      | none => rfl
      | some mark => exact absurd (spelling_prefix_of_symbolAt hread) (hnone mark)
    refine ⟨c, [], rfl, ?_⟩
    rw [List.nil_append, segmentAt, if_neg (by simp [hblank]), if_neg fun h => (hcomment h.1).1 h.2,
      if_neg fun h => (hcomment h.1).2 h.2, if_neg hsign, lexemeAt_symbol hstring hchar hdigit hname,
      hread]
    rfl

/-! ## Segments -/

theorem segmentAt_spells (c : Char) (rest : List Char) :
    (segmentAt c rest).1.Spells (c :: rest.take (segmentAt c rest).2)
      (rest.drop (segmentAt c rest).2) := by
  unfold segmentAt
  by_cases hblank : isBlank c = true
  · rw [if_pos hblank]
    exact .blank hblank
  rw [if_neg hblank]
  by_cases hline : c = '/' ∧ rest.head? = some '/'
  · rw [if_pos hline]
    obtain ⟨rfl, hhead⟩ := hline
    obtain ⟨back, rfl⟩ := List.head?_eq_some_iff.mp hhead
    have hrow := restOfLine_row back
    have hlength : restOfLine ('/' :: back) = restOfLine back + 1 := by
      rw [restOfLine, List.takeWhile_cons_of_pos (by decide)]
      rfl
    dsimp only
    rw [hlength]
    exact .lineComment hrow.1 hrow.2
  rw [if_neg hline]
  by_cases hblock : c = '/' ∧ rest.head? = some '*'
  · rw [if_pos hblock]
    obtain ⟨rfl, hhead⟩ := hblock
    obtain ⟨back, rfl⟩ := List.head?_eq_some_iff.mp hhead
    rw [List.tail_cons]
    rcases commentBody_cases back with ⟨body, htake, hfirst⟩ | ⟨hlength, hopen⟩
    · rw [List.take_succ_cons, List.drop_succ_cons, htake]
      exact .closedComment hfirst
    · rw [List.take_succ_cons, List.drop_succ_cons, hlength, List.take_length, List.drop_length]
      exact .openComment hopen
  rw [if_neg hblock]
  by_cases hsign : c = '#'
  · subst hsign
    rw [if_pos rfl]
    exact .directive (restOfLine_row rest).1 (restOfLine_row rest).2
  rw [if_neg hsign]
  exact .lexeme (lexemeAt_spells (Bool.eq_false_iff.mpr hblank) hsign fun hc =>
    ⟨fun h => hline ⟨hc, h⟩, fun h => hblock ⟨hc, h⟩⟩)

/-- What obeys the rules is read, whatever follows. -/
theorem SegmentKind.Spells.segmentAt_eq {kind : SegmentKind} {text after : List Char}
    (h : kind.Spells text after) :
    ∃ c rest, text = c :: rest ∧ segmentAt c (rest ++ after) = (kind, rest.length) := by
  cases h with
  | @blank c _ hblank => exact ⟨c, [], rfl, if_pos hblank⟩
  | @lineComment body _ hbody hend =>
    refine ⟨'/', '/' :: body, rfl, ?_⟩
    have hslash : '\n' ∉ '/' :: body := by simp [hbody]
    rw [segmentAt, if_neg (by decide), if_pos ⟨rfl, rfl⟩, restOfLine_append hslash hend]
  | @closedComment body _ hfirst =>
    refine ⟨'/', '*' :: (body ++ ['*', '/']), rfl, ?_⟩
    have hbody := commentBody_closed hfirst after
    rw [segmentAt, if_neg (by decide), if_neg (by simp), if_pos ⟨rfl, rfl⟩, List.cons_append,
      List.tail_cons, List.append_assoc]
    simp [hbody]
  | @openComment body hopen =>
    refine ⟨'/', '*' :: body, rfl, ?_⟩
    rw [List.append_nil, segmentAt, if_neg (by decide), if_neg (by simp), if_pos ⟨rfl, rfl⟩,
      List.tail_cons, commentBody_open hopen, List.length_cons]
  | @directive body _ hbody hend =>
    refine ⟨'#', body, rfl, ?_⟩
    rw [segmentAt, if_neg (by decide), if_neg (by simp), if_neg (by simp), if_pos rfl,
      restOfLine_append hbody hend]
  | lexeme hlexeme => exact hlexeme.segmentAt_eq

/-- The segment that starts a text is the one that obeys the rules there. -/
theorem segmentAt_eq_iff {c : Char} {rest after : List Char} {kind : SegmentKind} :
    segmentAt c (rest ++ after) = (kind, rest.length) ↔ kind.Spells (c :: rest) after := by
  constructor
  · intro h
    have hspells := segmentAt_spells c (rest ++ after)
    rwa [h, List.take_left, List.drop_left] at hspells
  · intro h
    obtain ⟨_, _, heq, hread⟩ := h.segmentAt_eq
    obtain ⟨rfl, rfl⟩ := List.cons.inj heq
    exact hread

/-! ## All segments -/

/-- In the text of `ss` and then `after`, each of the segments obeys the rules. -/
def AllSpelled (ss : List Segment) (after : List Char) : Prop :=
  ∀ front s back, ss = front ++ s :: back →
    s.kind.Spells s.text (back.flatMap Segment.text ++ after)

theorem allSpelled_cons_iff {s : Segment} {ss : List Segment} {after : List Char} :
    AllSpelled (s :: ss) after ↔
      s.kind.Spells s.text (ss.flatMap Segment.text ++ after) ∧ AllSpelled ss after := by
  constructor
  · intro h
    exact ⟨h [] s ss rfl, fun front t back heq => h (s :: front) t back (congrArg (s :: ·) heq)⟩
  · rintro ⟨hs, hss⟩ front t back heq
    cases front with
    | nil =>
      obtain ⟨rfl, rfl⟩ := List.cons.inj heq
      exact hs
    | cons _ front => exact hss front t back (List.cons.inj heq).2

theorem allSpelled_segments (cs : List Char) : AllSpelled (segments cs) [] := by
  fun_induction segments cs with
  | case1 => exact fun front s back h => absurd h (by simp)
  | case2 c rest kind length heq ih =>
    refine allSpelled_cons_iff.mpr ⟨?_, ih⟩
    have hspells := segmentAt_spells c rest
    rw [heq] at hspells
    rw [flatMap_text_segments, List.append_nil]
    exact hspells

theorem AllSpelled.segments_append {ss : List Segment} {after : List Char}
    (h : AllSpelled ss after) :
    segments (ss.flatMap Segment.text ++ after) = ss ++ segments after := by
  induction ss with
  | nil => rfl
  | cons s ss ih =>
    obtain ⟨hs, hss⟩ := allSpelled_cons_iff.mp h
    obtain ⟨c, rest, htext, hread⟩ := hs.segmentAt_eq
    rw [List.flatMap_cons, htext, List.cons_append, List.cons_append, List.append_assoc,
      segments_cons, hread, List.take_left, List.drop_left, ih hss, List.cons_append, ← htext]

/-- The segments of a text are the only ones that obey the rules. -/
theorem segments_eq_iff {cs : List Char} {ss : List Segment} :
    segments cs = ss ↔ ss.flatMap Segment.text = cs ∧ AllSpelled ss [] := by
  constructor
  · rintro rfl
    exact ⟨flatMap_text_segments cs, allSpelled_segments cs⟩
  · rintro ⟨rfl, hss⟩
    have hread := hss.segments_append
    rwa [List.append_nil, segments, List.append_nil] at hread

end ConsoleLab
