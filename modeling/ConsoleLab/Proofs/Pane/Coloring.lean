/-
  ConsoleLab.Proofs.Pane.Coloring — what the spans of a line say about it.

  Where comments, directives and literals lie in a line is said without its spans: a literal goes
  from its quote to the first one that is not escaped, or to the end of the line (`Literal`), and
  a place is `Outside` if what stands in front of it falls into whole literals and characters that
  start neither a literal nor a comment. Every place of a line is outside or is covered by the
  comment or literal that it lies in (`outside_or_covered`). Main fact: cutting a line up into
  spans never fails, the spans make up the line, and every literal that starts outside is one span
  (`line_lossless`).
-/

import ConsoleLab.Proofs.Lexeme.Scanning
import ConsoleLab.Proofs.Pane.ByteCuts

namespace ConsoleLab.Pane.Highlight

open Screen (SpanLine Span)
open Text (isBlank)

/-! ## Literals, comments and what is outside of them -/

def IsQuote (c : Char) : Prop :=
  c = '"' ∨ c = '\''

/-- A literal of a line, and what follows it: it ends with the first `quote` that is not escaped,
    or with the line if there is none. -/
inductive Literal (quote : Char) : List Char → List Char → Prop
  | closed {inner after : List Char} : AllEscaped quote inner → ¬ Escapes inner →
      Literal quote (quote :: (inner ++ [quote])) after
  | cutOff {inner : List Char} : AllEscaped quote inner → Literal quote (quote :: inner) []

/-- A comment starts between `front` and `rest`, or a directive, in front of which there is
    nothing but white space. -/
def StartsComment (front rest : List Char) : Prop :=
  ['/', '/'] <+: rest ∨ (['#'] <+: rest ∧ ∀ c ∈ front, isBlank c = true)

/-- The place between `front` and `rest` lies outside of the comments, the directives and the
    literals of a line. -/
inductive Outside : List Char → List Char → Prop
  | start {rest : List Char} : Outside [] rest
  | character {front rest : List Char} {c : Char} : Outside front (c :: rest) → ¬ IsQuote c →
      ¬ StartsComment front (c :: rest) → Outside (front ++ [c]) rest
  | literal {front text rest : List Char} {quote : Char} : Outside front (text ++ rest) →
      IsQuote quote → Literal quote text rest → Outside (front ++ text) rest

/-- The place between `front` and `rest` lies within a comment, a directive or a literal that
    starts outside. -/
inductive Covered : List Char → List Char → Prop
  | comment {front part rest : List Char} : Outside front (part ++ rest) →
      StartsComment front (part ++ rest) → part ≠ [] → Covered (front ++ part) rest
  | literal {front part more rest : List Char} {quote : Char} :
      Outside front (part ++ more ++ rest) → IsQuote quote → Literal quote (part ++ more) rest →
      part ≠ [] → more ≠ [] → Covered (front ++ part) (more ++ rest)

/-! ## Where a literal ends -/

theorem IsQuote.ne_backslash {quote : Char} (h : IsQuote quote) : quote ≠ '\\' := by
  rcases h with rfl | rfl <;> decide

section

variable {quote : Char} {inner : List Char}

theorem literalLength_quote (rest : List Char) : literalLength quote (quote :: rest) = 1 := by
  rw [literalLength.eq_def]
  simp

theorem literalLength_escape (hquote : quote ≠ '\\') (c : Char) (rest : List Char) :
    literalLength quote ('\\' :: c :: rest) = literalLength quote rest + 2 := by
  rw [literalLength.eq_def]
  simp [hquote.symm]

theorem literalLength_cons {c : Char} (hquote : c ≠ quote) (hslash : c ≠ '\\')
    (rest : List Char) : literalLength quote (c :: rest) = literalLength quote rest + 1 := by
  rw [literalLength.eq_def]
  simp [hquote, hslash]

theorem literalLength_closed (hquote : quote ≠ '\\') (hinner : AllEscaped quote inner)
    (hends : ¬ Escapes inner) (after : List Char) :
    literalLength quote (inner ++ quote :: after) = inner.length + 1 := by
  fun_induction unescapeAll inner with
  | case1 => exact literalLength_quote after
  | case2 => exact absurd rfl hends
  | case3 c cs ih =>
    have hrest := ih ((allEscaped_escape_iff hquote).mp hinner) (mt (escapes_escape c cs).mpr hends)
    rw [List.cons_append, List.cons_append, literalLength_escape hquote, hrest]
    rfl
  | case4 c cs hlone hescape ih =>
    have hslash := ne_backslash_of_plain hlone hescape
    obtain ⟨hc, hcs⟩ := (allEscaped_cons_iff hslash).mp hinner
    have hrest := ih hcs (mt (escapes_cons hslash cs).mpr hends)
    rw [List.cons_append, literalLength_cons hc hslash, hrest]
    rfl

theorem literalLength_cutOff (hquote : quote ≠ '\\') (hinner : AllEscaped quote inner) :
    literalLength quote inner = inner.length := by
  fun_induction unescapeAll inner with
  | case1 => rfl
  | case2 =>
    rw [literalLength.eq_def]
    simp [hquote.symm]
  | case3 c cs ih =>
    rw [literalLength_escape hquote, ih ((allEscaped_escape_iff hquote).mp hinner)]
    rfl
  | case4 c cs hlone hescape ih =>
    have hslash := ne_backslash_of_plain hlone hescape
    obtain ⟨hc, hcs⟩ := (allEscaped_cons_iff hslash).mp hinner
    rw [literalLength_cons hc hslash, ih hcs]
    rfl

/-- A literal is as long as the reader finds it. -/
theorem Literal.literalLength_eq {text after : List Char} (h : Literal quote text after)
    (hquote : IsQuote quote) :
    ∃ tail, text = quote :: tail ∧ literalLength quote (tail ++ after) = tail.length := by
  cases h with
  | @closed inner _ hinner hends =>
    refine ⟨inner ++ [quote], rfl, ?_⟩
    rw [List.append_assoc, List.singleton_append,
      literalLength_closed hquote.ne_backslash hinner hends, List.length_append]
    rfl
  | @cutOff inner hinner =>
    refine ⟨inner, rfl, ?_⟩
    rw [List.append_nil, literalLength_cutOff hquote.ne_backslash hinner]

theorem exists_literal (hquote : IsQuote quote) (rest : List Char) :
    ∃ tail after, rest = tail ++ after ∧ Literal quote (quote :: tail) after := by
  have hslash := hquote.ne_backslash
  fun_induction literalLength quote rest with
  | case1 => exact ⟨[], [], rfl, .cutOff (allEscaped_nil quote)⟩
  | case2 rest => exact ⟨[quote], rest, rfl, .closed (allEscaped_nil quote) not_escapes_nil⟩
  | case3 => exact ⟨['\\'], [], rfl, .cutOff (allEscaped_backslash hslash)⟩
  | case4 c rest _ ih =>
    obtain ⟨tail, after, rfl, hliteral⟩ := ih
    refine ⟨'\\' :: c :: tail, after, rfl, ?_⟩
    cases hliteral with
    | closed hinner hends =>
      exact .closed ((allEscaped_escape_iff hslash).mpr hinner) (mt (escapes_escape c _).mp hends)
    | cutOff hinner => exact .cutOff ((allEscaped_escape_iff hslash).mpr hinner)
  | case5 c rest hc hplain ih =>
    obtain ⟨tail, after, rfl, hliteral⟩ := ih
    refine ⟨c :: tail, after, rfl, ?_⟩
    cases hliteral with
    | closed hinner hends =>
      exact .closed ((allEscaped_cons_iff hplain).mpr ⟨hc, hinner⟩)
        (mt (escapes_cons hplain _).mp hends)
    | cutOff hinner => exact .cutOff ((allEscaped_cons_iff hplain).mpr ⟨hc, hinner⟩)

end

/-! ## Inside and outside -/

/-- What covers a place covers the next one as well, or ends there. -/
theorem Covered.step {front rest : List Char} {c : Char} (h : Covered front (c :: rest)) :
    Outside (front ++ [c]) rest ∨ Covered (front ++ [c]) rest := by
  generalize hback : c :: rest = back at h
  cases h with
  | @comment front part _ houtside hcomment hpart =>
    subst hback
    rw [List.append_cons part c rest] at houtside hcomment
    rw [List.append_assoc]
    exact Or.inr (.comment houtside hcomment (by simp))
  | @literal front part more after quote houtside hquote hliteral hpart hmore =>
    obtain ⟨d, more, rfl⟩ := List.exists_cons_of_ne_nil hmore
    obtain ⟨rfl, rfl⟩ := List.cons.inj hback
    rw [List.append_assoc front]
    cases more with
    | nil => exact Or.inl (.literal houtside hquote hliteral)
    | cons e more =>
      rw [List.append_cons part c (e :: more)] at houtside hliteral
      exact Or.inr (.literal houtside hquote hliteral (by simp) (by simp))

/-- Every place of a line is outside of its comments and literals, or it is covered by one. -/
theorem outside_or_covered (front rest : List Char) : Outside front rest ∨ Covered front rest := by
  induction front using List.reverseRecOn generalizing rest with
  | nil => exact Or.inl .start
  | append_singleton front c ih =>
    rcases ih (c :: rest) with houtside | hcovered
    · by_cases hcomment : StartsComment front (c :: rest)
      · exact Or.inr (.comment houtside hcomment (by simp))
      · by_cases hquote : IsQuote c
        · obtain ⟨tail, after, rfl, hliteral⟩ := exists_literal hquote rest
          cases tail with
          | nil => exact Or.inl (.literal houtside hquote hliteral)
          | cons d tail =>
            have hcovered : Covered (front ++ [c]) (d :: tail ++ after) :=
              .literal houtside hquote hliteral (by simp) (by simp)
            exact Or.inr hcovered
        · exact Or.inl (.character houtside hquote hcomment)
    · exact hcovered.step

/-! ## The spans -/

def chars (spans : SpanLine) : List Char :=
  spans.flatMap fun span => span.text.toList

theorem chars_append (spans spans' : SpanLine) :
    chars (spans ++ spans') = chars spans ++ chars spans' :=
  List.flatMap_append

theorem chars_cons (cs : List Char) (style : Screen.Style) (spans : SpanLine) :
    chars (⟨String.ofList cs, style⟩ :: spans) = cs ++ chars spans := by
  rw [chars, List.flatMap_cons, String.toList_ofList]
  rfl

theorem chars_wordSpan (held : List Char) (called : Bool) :
    chars (wordSpan held called) = held.reverse := by
  unfold wordSpan
  cases held with
  | nil => rfl
  | cons c held =>
    rw [List.isEmpty_cons, if_neg Bool.false_ne_true, chars_cons]
    exact List.append_nil _

theorem join_map_text (spans : SpanLine) :
    String.join (spans.map Span.text) = String.ofList (chars spans) := by
  rw [← String.toList_inj, String.toList_join, String.toList_ofList, List.flatMap_map]
  rfl

/-- The spans of the rest of a line make up the word being read and that rest. -/
theorem chars_spansFrom (blank : Bool) (held rest : List Char) :
    chars (spansFrom blank held rest) = held.reverse ++ rest := by
  fun_induction spansFrom blank held rest with
  | case1 blank held => rw [chars_wordSpan, List.append_nil]
  | case2 blank held c rest =>
    rw [chars_append, chars_wordSpan, chars_cons]
    exact congrArg _ (List.append_nil _)
  | case3 blank held c rest _ _ length ih =>
    rw [chars_append, chars_wordSpan, chars_cons, ih]
    simp
  | case4 blank held c rest _ _ blank' _ ih =>
    rw [ih, List.reverse_cons, List.append_assoc]
    rfl
  | case5 blank held c rest _ _ blank' _ ih =>
    rw [chars_append, chars_wordSpan, chars_cons, ih]
    rfl

theorem startsComment_iff (front : List Char) (c : Char) (rest : List Char) :
    startsComment (front.all isBlank) c rest = true ↔ StartsComment front (c :: rest) := by
  have hmark : ∀ mark : Char, [mark] <+: c :: rest ↔ c = mark := by
    simp [eq_comm]
  have hslashes : ['/', '/'] <+: c :: rest ↔ c = '/' ∧ rest.head? = some '/' := by
    cases rest <;> simp [eq_comm]
  unfold startsComment StartsComment
  rw [hmark, hslashes]
  simp

theorem spansFrom_literal {quote : Char} (hquote : IsQuote quote) {text after : List Char}
    (h : Literal quote text after) (blank : Bool) (held : List Char) :
    spansFrom blank held (text ++ after) =
      wordSpan held false ++
        ⟨String.ofList text, .inked Theme.string⟩ :: spansFrom false [] after := by
  obtain ⟨tail, rfl, hlength⟩ := h.literalLength_eq hquote
  have hcomment : startsComment blank quote (tail ++ after) = false := by
    rcases hquote with rfl | rfl <;> rfl
  have hc : quote = '"' ∨ quote = '\'' := hquote
  rw [List.cons_append, spansFrom, if_neg (by simp [hcomment]), if_pos hc]
  simp only [hlength, List.take_left, List.drop_left]

/-- The spans up to a place outside are of what stands in front of it. -/
theorem exists_spansFrom {front rest : List Char} (h : Outside front rest) :
    ∃ before held, chars before ++ held.reverse = front ∧
      spansFrom true [] (front ++ rest) = before ++ spansFrom (front.all isBlank) held rest := by
  induction h with
  | start => exact ⟨[], [], rfl, rfl⟩
  | @character front rest c _ hquote hcomment ih =>
    obtain ⟨before, held, hfront, hspans⟩ := ih
    have hc : ¬ (c = '"' ∨ c = '\'') := hquote
    rw [List.append_assoc, List.singleton_append, hspans, spansFrom,
      if_neg (mt (startsComment_iff front c rest).mp hcomment), if_neg hc, List.all_append]
    by_cases hword : inWord c = true
    · refine ⟨before, c :: held, ?_, ?_⟩
      · rw [List.reverse_cons, ← List.append_assoc, hfront]
      · simp [hword]
    · refine ⟨before ++ wordSpan held (c == '(') ++ [⟨String.ofList [c], markStyle c⟩], [], ?_, ?_⟩
      · rw [chars_append, chars_append, chars_wordSpan, chars_cons, hfront]
        simp [chars]
      · simp [hword]
  | @literal front text rest quote _ hquote hliteral ih =>
    obtain ⟨before, held, hfront, hspans⟩ := ih
    refine ⟨before ++ wordSpan held false ++ [⟨String.ofList text, .inked Theme.string⟩], [],
      ?_, ?_⟩
    · rw [chars_append, chars_append, chars_wordSpan, chars_cons, hfront]
      simp [chars]
    · have hvisible : (front ++ text).all isBlank = false := by
        obtain ⟨tail, rfl, -⟩ := hliteral.literalLength_eq hquote
        have hblank : isBlank quote = false := by
          rcases hquote with rfl | rfl <;> rfl
        simp [hblank]
      rw [List.append_assoc, hspans, spansFrom_literal hquote hliteral, hvisible]
      simp

/-- Cutting a line up never fails, the spans make up the line, and every literal that starts
    outside of comments, directives and other literals is one of them. -/
theorem line_lossless (text : String) :
    cut text = some (line text) ∧ String.join ((line text).map Span.text) = text ∧
      ∀ front literal after quote, text.toList = front ++ literal ++ after →
        Outside front (literal ++ after) → IsQuote quote → Literal quote literal after →
          ∃ before later,
            line text = before ++ ⟨String.ofList literal, .inked Theme.string⟩ :: later ∧
              String.join (before.map Span.text) = String.ofList front ∧
                String.join (later.map Span.text) = String.ofList after := by
  refine ⟨cut_eq text, ?_, ?_⟩
  · rw [join_map_text, line, chars_spansFrom]
    exact String.ofList_toList
  · intro front literal after quote htext houtside hquote hliteral
    obtain ⟨before, held, hfront, hspans⟩ := exists_spansFrom houtside
    refine ⟨before ++ wordSpan held false, spansFrom false [] after, ?_, ?_, ?_⟩
    · rw [line, htext, List.append_assoc, hspans, spansFrom_literal hquote hliteral,
        List.append_assoc]
    · rw [join_map_text, chars_append, chars_wordSpan, hfront]
    · rw [join_map_text, chars_spansFrom]
      rfl

/-- A line with a quote in a literal of the other kind, an escaped backslash at the end of a
    literal, and a quote in a comment. -/
def quotesMixed : String :=
  "'\"' + \"é\\\\\" // \""

theorem line_lossless_quotesMixed :
    ∃ before later,
      line quotesMixed = before ++ ⟨"\"é\\\\\"", .inked Theme.string⟩ :: later ∧
        String.join (before.map Span.text) = "'\"' + " ∧
          String.join (later.map Span.text) = " // \"" := by
  let literal := ['"', 'é', '\\', '\\', '"']
  let after := (" // \"").toList
  have hquote : AllEscaped '\'' ['"'] :=
    (allEscaped_cons_iff (by decide)).mpr ⟨by decide, allEscaped_nil _⟩
  have hinner : AllEscaped '"' ['é', '\\', '\\'] :=
    (allEscaped_cons_iff (by decide)).mpr
      ⟨by decide, (allEscaped_escape_iff (by decide)).mpr (allEscaped_nil _)⟩
  have hfirst : Outside ['\'', '"', '\''] (' ' :: '+' :: ' ' :: (literal ++ after)) :=
    .literal .start (Or.inr rfl) (.closed hquote (by unfold Escapes; decide))
  have hblank := hfirst.character (by simp [IsQuote]) (by simp [StartsComment])
  have hplus := hblank.character (by simp [IsQuote]) (by simp [StartsComment])
  have houtside := hplus.character (by simp [IsQuote]) (by simp [StartsComment])
  exact (line_lossless quotesMixed).2.2 _ literal after '"' rfl houtside (Or.inl rfl)
    (.closed hinner (by unfold Escapes; decide))

end ConsoleLab.Pane.Highlight
