/-
  ConsoleLab.Proofs.Lexeme.Display — the written forms of lexemes are read back.

  White space in front of what follows keeps it apart, so the written form of a lexeme is spelled
  by the rules of that lexeme there (`spells_display`), as long as the text between its quotes has
  only characters that stand for themselves or have a short escape. Any other character is written
  as its code point, and the lexer knows no such escape (`isPlain_of_quotedBody`). Main fact:
  lexemes that are written with blanks between them are read back exactly if their texts are
  plain (`lex_display_iff`).
-/

import ConsoleLab.Proofs.Lexeme.Scanning

namespace ConsoleLab

open Text (isBlank isDigit escapeChar)
open Lexer

def isPlain (c : Char) : Bool :=
  (0x20 ≤ c.toNat && c.toNat ≤ 0x7E) || c == '\t' || c == '\r' || c == '\n'

/-- What lies between the quotes of a lexeme has plain characters only. -/
def LexemeKind.Plain : LexemeKind → Prop
  | .string text | .char text => ∀ c ∈ text.toList, isPlain c = true
  | .int _ | .float _ | .ident _ | .symbol _ | .unknown _ => True

/-! ## Escaped texts -/

theorem escapeChar_cases {c : Char} (hc : isPlain c = true) :
    (∃ d, escapeChar c = ['\\', d] ∧ unescape d = c ∧ d ≠ '\n') ∨
      (escapeChar c = [c] ∧ c ≠ '\'' ∧ c ≠ '"' ∧ c ≠ '\\' ∧ c ≠ '\n') := by
  by_cases htab : c = '\t'
  · exact Or.inl ⟨'t', by rw [htab]; rfl, htab.symm, by decide⟩
  by_cases hreturn : c = '\r'
  · exact Or.inl ⟨'r', by rw [hreturn]; rfl, hreturn.symm, by decide⟩
  by_cases hline : c = '\n'
  · exact Or.inl ⟨'n', by rw [hline]; rfl, hline.symm, by decide⟩
  by_cases hmark : c = '\'' ∨ c = '"' ∨ c = '\\'
  · refine Or.inl ⟨c, ?_, ?_, hline⟩
    · rcases hmark with rfl | rfl | rfl <;> rfl
    · rcases hmark with rfl | rfl | rfl <;> rfl
  · obtain ⟨hchar, hstring, hslash⟩ : c ≠ '\'' ∧ c ≠ '"' ∧ c ≠ '\\' := by tauto
    have hprintable : 0x20 ≤ c.toNat ∧ c.toNat ≤ 0x7E := by
      simpa [isPlain, htab, hreturn, hline] using hc
    refine Or.inr ⟨?_, hchar, hstring, hslash, hline⟩
    simp [escapeChar, htab, hreturn, hline, hchar, hstring, hslash, hprintable]

theorem escapeChar_of_not_plain {c : Char} (hc : isPlain c = false) :
    ∃ more, escapeChar c = '\\' :: 'u' :: more := by
  have hne : ∀ d, isPlain d = true → c ≠ d := fun d hd => (ne_of_class hd hc).symm
  have hprintable : ¬ (0x20 ≤ c.toNat && c.toNat ≤ 0x7E) = true := by
    intro h
    simp [isPlain, h] at hc
  have hmark : ¬ (c = '\'' || c = '"' || c = '\\') = true := by
    simp [hne '\'' rfl, hne '"' rfl, hne '\\' rfl]
  unfold escapeChar
  rw [if_neg (hne '\t' rfl), if_neg (hne '\r' rfl), if_neg (hne '\n' rfl), if_neg hmark,
    if_neg hprintable]
  exact ⟨_, rfl⟩

section

variable {quote : Char}

/-- The escaped form of a plain text lies between quotes and stands for that text. -/
theorem quotedTail_escape (hquote : quote = '"' ∨ quote = '\'') {cs : List Char}
    (hcs : ∀ c ∈ cs, isPlain c = true) (after : List Char) :
    QuotedTail quote (cs.flatMap escapeChar) (cs.flatMap escapeChar ++ [quote]) after ∧
      unescapeAll (cs.flatMap escapeChar) = cs := by
  have hslash : quote ≠ '\\' := by rcases hquote with rfl | rfl <;> decide
  induction cs with
  | nil => exact ⟨.closed (quotedLine_nil quote) not_escapes_nil, rfl⟩
  | cons c cs ih =>
    obtain ⟨hc, hcs⟩ := List.forall_mem_cons.mp hcs
    obtain ⟨htail, htext⟩ := ih hcs
    rw [List.flatMap_cons]
    rcases escapeChar_cases hc with ⟨d, heq, hd, hline⟩ | ⟨heq, hchar, hstring, hplain, hline⟩
    · rw [heq]
      refine ⟨htail.escape hslash hline, ?_⟩
      rw [List.cons_append, List.cons_append, unescapeAll, List.nil_append, hd, htext]
    · rw [heq]
      have hquoted : c ≠ quote := by rcases hquote with rfl | rfl <;> assumption
      refine ⟨htail.cons hquoted hline hplain, ?_⟩
      rw [List.singleton_append, unescapeAll_cons hplain, htext]

/-- A text that is read back from its escaped form is plain. -/
theorem isPlain_of_quotedBody (hquote : quote = '"' ∨ quote = '\'') {cs rest : List Char}
    (h : (quotedBody quote (cs.flatMap escapeChar ++ rest)).1 = cs) :
    ∀ c ∈ cs, isPlain c = true := by
  have hslash : quote ≠ '\\' := by rcases hquote with rfl | rfl <;> decide
  induction cs with
  | nil => nofun
  | cons c cs ih =>
    rw [List.flatMap_cons, List.append_assoc] at h
    cases hc : isPlain c with
    | true =>
      rw [List.forall_mem_cons]
      refine ⟨hc, ih ?_⟩
      rcases escapeChar_cases hc with ⟨d, heq, hd, hline⟩ | ⟨heq, hchar, hstring, hplain, hline⟩
      · rw [heq, List.cons_append, List.cons_append, List.nil_append,
          quotedBody_escape hslash hline] at h
        exact (List.cons.inj h).2
      · have hquoted : c ≠ quote := by rcases hquote with rfl | rfl <;> assumption
        rw [heq, List.singleton_append, quotedBody_cons hquoted hline hplain] at h
        exact (List.cons.inj h).2
    | false =>
      obtain ⟨more, heq⟩ := escapeChar_of_not_plain hc
      rw [heq, List.cons_append, List.cons_append, quotedBody_escape hslash (by decide)] at h
      obtain rfl := (List.cons.inj h).1
      cases hc

end

/-! ## Lexemes -/

/-- The number that a row of digits stands for is written as a row of digits. -/
theorem spells_int64Text {value : Int64} {n : Nat} (hvalue : value.toInt = n)
    {after : List Char} (hafter : ∀ c ∈ after.head?, isBlank c = true) :
    LexemeKind.Spells (.int value) (Text.int64Text value).toList after := by
  obtain ⟨c, digits, heq, hdigits, hback⟩ := repr_digits n
  have htext : (Text.int64Text value).toList = c :: digits := by
    rw [Text.int64Text, hvalue, ← heq]
    rfl
  have hend : ¬ FractionFollows after := by
    rintro ⟨d, rest, rfl, -⟩
    exact absurd (hafter '.' rfl) (by decide)
  rw [htext]
  refine .int ⟨List.cons_ne_nil _ _, hdigits, ?_⟩ hend (by rw [hback, hvalue])
  exact fun d hd => isDigit_of_isBlank (hafter d hd)

theorem toList_display_string (text : String) :
    (LexemeKind.string text).display.toList =
      '"' :: (text.toList.flatMap escapeChar ++ ['"']) := by
  simp [LexemeKind.display, Text.escape]

theorem toList_display_char (text : String) :
    (LexemeKind.char text).display.toList =
      '\'' :: (text.toList.flatMap escapeChar ++ ['\'']) := by
  simp [LexemeKind.display, Text.escape]

/-- In front of white space the written form of a lexeme is spelled by its rules. -/
theorem spells_display {kind : LexemeKind} {text after after' : List Char}
    (h : kind.Spells text after) (hplain : kind.Plain)
    (hafter : ∀ c ∈ after'.head?, isBlank c = true) :
    kind.Spells kind.display.toList after' := by
  cases hverbatim : kind.isVerbatim with
  | true =>
    have hquoted : kind.isQuoted = false := by cases kind <;> first | rfl | cases hverbatim
    rw [h.toList_display hverbatim]
    exact h.congr_unquoted hquoted (nothingNew_blank after hafter)
  | false =>
    cases kind with
    | float | ident | symbol | unknown => cases hverbatim
    | int value =>
      cases h with
      | int _ _ hvalue => exact spells_int64Text hvalue hafter
    | string text =>
      obtain ⟨htail, hback⟩ := quotedTail_escape (Or.inl rfl) hplain after'
      have hspells := LexemeKind.Spells.string htail
      rwa [hback, String.ofList_toList, ← toList_display_string] at hspells
    | char text =>
      obtain ⟨htail, hback⟩ := quotedTail_escape (Or.inr rfl) hplain after'
      have hspells := LexemeKind.Spells.char htail
      rwa [hback, String.ofList_toList, ← toList_display_char] at hspells

theorem LexemeKind.Spells.kindsOf_append {kind : LexemeKind} {text after : List Char}
    (h : kind.Spells text after) : kindsOf (text ++ after) = kind :: kindsOf after := by
  obtain ⟨c, rest, rfl, hread⟩ := h.segmentAt_eq
  rw [List.cons_append, kindsOf_cons, hread, List.drop_left]
  rfl

/-- A lexeme that is read back from its written form is plain. -/
theorem plain_of_kindsOf_display {kind : LexemeKind} {after : List Char} {kinds : List LexemeKind}
    (h : kindsOf (kind.display.toList ++ after) = kind :: kinds) : kind.Plain := by
  cases kind with
  | int | float | ident | symbol | unknown => trivial
  | string text =>
    rw [toList_display_string, List.cons_append, kindsOf_cons,
      segmentAt_lexeme rfl (by decide) (by decide), lexemeAt, if_pos rfl, List.append_assoc] at h
    have htext := congrArg String.toList (LexemeKind.string.inj (List.cons.inj h).1)
    rw [String.toList_ofList] at htext
    exact isPlain_of_quotedBody (Or.inl rfl) htext
  | char text =>
    rw [toList_display_char, List.cons_append, kindsOf_cons,
      segmentAt_lexeme rfl (by decide) (by decide), lexemeAt, if_neg (by decide), if_pos rfl,
      List.append_assoc] at h
    have htext := congrArg String.toList (LexemeKind.char.inj (List.cons.inj h).1)
    rw [String.toList_ofList] at htext
    exact isPlain_of_quotedBody (Or.inr rfl) htext

/-! ## Lexemes in a row -/

theorem exists_spells_of_mem_kindsOf {cs : List Char} {kind : LexemeKind} (h : kind ∈ kindsOf cs) :
    ∃ text after, kind.Spells text after := by
  obtain ⟨s, hs, hkind⟩ := List.mem_filterMap.mp h
  obtain ⟨front, back, hss⟩ := List.append_of_mem hs
  have hspells := allSpelled_segments cs front s back hss
  obtain ⟨segment, text⟩ := s
  generalize back.flatMap Segment.text ++ [] = after at hspells
  cases hspells with
  | blank | lineComment | closedComment | openComment | directive => cases hkind
  | lexeme hspells =>
    obtain rfl := Option.some.inj hkind
    exact ⟨_, _, hspells⟩

def spaced (kinds : List LexemeKind) : String :=
  " ".intercalate (kinds.map LexemeKind.display)

theorem exists_toList_spaced_cons (kind : LexemeKind) (kinds : List LexemeKind) :
    ∃ after, (spaced (kind :: kinds)).toList = kind.display.toList ++ after ∧
      (∀ c ∈ after.head?, isBlank c = true) ∧ kindsOf after = kindsOf (spaced kinds).toList := by
  cases kinds with
  | nil => exact ⟨[], by simp [spaced], nofun, by simp [spaced]⟩
  | cons next kinds =>
    refine ⟨' ' :: (spaced (next :: kinds)).toList, by simp [spaced], ?_, ?_⟩
    · rintro c ⟨⟩
      rfl
    · have hblank : Closed " " [] := closed_blank (by simp; rfl)
      exact hblank _

/-- Lexemes in a row are read back exactly if all of them are plain. -/
theorem kindsOf_spaced_iff {kinds : List LexemeKind}
    (h : ∀ kind ∈ kinds, ∃ text after, kind.Spells text after) :
    kindsOf (spaced kinds).toList = kinds ↔ ∀ kind ∈ kinds, kind.Plain := by
  induction kinds with
  | nil => simp [spaced, kindsOf_nil]
  | cons kind kinds ih =>
    obtain ⟨⟨text, after, hspells⟩, hkinds⟩ := List.forall_mem_cons.mp h
    obtain ⟨after', htext, hblank, hrest⟩ := exists_toList_spaced_cons kind kinds
    rw [htext, List.forall_mem_cons, ← ih hkinds, ← hrest]
    constructor
    · intro hread
      have hplain := plain_of_kindsOf_display hread
      rw [(spells_display hspells hplain hblank).kindsOf_append] at hread
      exact ⟨hplain, (List.cons.inj hread).2⟩
    · rintro ⟨hplain, hread⟩
      rw [(spells_display hspells hplain hblank).kindsOf_append, hread]

/-- The lexemes of a text, written with blanks between them, are read back exactly if their
    quoted texts have plain characters only. -/
theorem lex_display_iff (source : String) :
    (lex (" ".intercalate ((lex source).map fun lexeme => lexeme.kind.display))).map Lexeme.kind =
        (lex source).map Lexeme.kind ↔
      ∀ lexeme ∈ lex source, lexeme.kind.Plain := by
  have hspaced : " ".intercalate ((lex source).map fun lexeme => lexeme.kind.display) =
      spaced ((lex source).map Lexeme.kind) := by
    rw [spaced, List.map_map]
    rfl
  have hspells : ∀ kind ∈ (lex source).map Lexeme.kind, ∃ text after, kind.Spells text after := by
    rw [map_kind_lex]
    exact fun kind => exists_spells_of_mem_kindsOf
  rw [hspaced, map_kind_lex, kindsOf_spaced_iff hspells, List.forall_mem_map]

end ConsoleLab
