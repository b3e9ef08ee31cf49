/-
  ConsoleLab.Proofs.Program.Surroundings — code around the main function.

  Helper functions and other code around the main function have no influence on a program.
  Such code has matching braces, ends a statement and does not open the main function
  (`Outside`). Lexemes that end a statement are cut without regard to what follows them
  (`exists_chunks_append`), and outside the main function chunks open and close plain blocks only
  (`readChunks_outside`), whatever loops and statements they hold. Main facts: the main
  function between such code is read as it is read alone (`ofLexemes_between`), so that two
  surroundings of it cannot be told apart (`surroundings_ignored`).
-/

import ConsoleLab.Proofs.Program.Acceptance
import ConsoleLab.Proofs.Program.Layout
import Mathlib.Data.List.Basic

namespace ConsoleLab

open Source (Location)

/-! ## Ends of statements -/

def openParenStep (depth : Nat) (kind : LexemeKind) : Nat :=
  if kind.brace?.isSome then 0 else parenStep depth kind

def openParens (kinds : List LexemeKind) : Nat :=
  kinds.foldl openParenStep 0

/-- There are no lexemes, or the last one is a closing brace or a semicolon outside of
    parentheses. -/
def EndsStatement (kinds : List LexemeKind) : Prop :=
  kinds = [] ∨ kinds.getLast? = some (.symbol .closeBrace) ∨
    kinds.getLast? = some (.symbol .semicolon) ∧ openParens kinds.dropLast = 0

instance (kinds : List LexemeKind) : Decidable (EndsStatement kinds) :=
  inferInstanceAs (Decidable (_ ∨ _ ∨ _))

theorem openParens_append (kinds more : List LexemeKind) :
    openParens (kinds ++ more) = more.foldl openParenStep (openParens kinds) :=
  List.foldl_append

/-- Where no brace stands, the parentheses are counted as in a chunk. -/
theorem openParens_eq {held : List Lexeme} (h : ∀ lexeme ∈ held, lexeme.kind.brace? = none) :
    openParens (held.map Lexeme.kind) = parenDepth (held.map Lexeme.kind) := by
  induction held using List.reverseRecOn with
  | nil => rfl
  | append_singleton held lexeme ih =>
    have hlast : lexeme.kind.brace? = none := h lexeme (by simp)
    rw [parenDepth_concat, List.map_append, openParens_append, ih fun other ho => h other
      (List.mem_append_left _ ho)]
    simp [openParenStep, hlast]

/-- Behind a cut nothing is open, so what stands in front of it does not matter. -/
theorem EndsStatement.behind {front more : List LexemeKind} {cut : LexemeKind}
    (h : EndsStatement (front ++ cut :: more)) (hcut : openParens (front ++ [cut]) = 0) :
    EndsStatement more := by
  rcases List.eq_nil_or_concat' more with rfl | ⟨more, last, rfl⟩
  · exact Or.inl rfl
  · have hsplit : front ++ cut :: (more ++ [last]) = (front ++ [cut] ++ more) ++ [last] := by simp
    rw [hsplit] at h
    rcases h with hnil | hbrace | ⟨hlast, hopen⟩
    · simp at hnil
    · rw [List.getLast?_concat] at hbrace
      exact Or.inr (Or.inl (by rw [List.getLast?_concat, hbrace]))
    · rw [List.getLast?_concat] at hlast
      rw [List.dropLast_concat, openParens_append, hcut] at hopen
      refine Or.inr (Or.inr ⟨by rw [List.getLast?_concat, hlast], ?_⟩)
      rw [List.dropLast_concat]
      exact hopen

theorem Uncut.eq_nil {held : List Lexeme} (h : Uncut held)
    (hend : EndsStatement (held.map Lexeme.kind)) : held = [] := by
  rcases List.eq_nil_or_concat' held with rfl | ⟨held, lexeme, rfl⟩
  · rfl
  · obtain ⟨hu, hbrace, hsemicolon⟩ := h.of_concat
    rw [List.map_append, List.map_singleton] at hend
    rcases hend with hnil | hlast | ⟨hlast, hopen⟩
    · simp at hnil
    · rw [List.getLast?_concat] at hlast
      rw [Option.some.inj hlast] at hbrace
      cases hbrace
    · rw [List.getLast?_concat] at hlast
      rw [List.dropLast_concat, openParens_eq hu.no_brace] at hopen
      have hpos := hsemicolon (Option.some.inj hlast)
      omega

/-- Behind what ends a statement nothing is held. -/
theorem CutsInto.exists_front {ls : List Lexeme} {cs : List Chunk} (h : CutsInto ls cs)
    (hend : EndsStatement (ls.map Lexeme.kind)) : ∃ front, cs = front ++ [⟨[], .textEnd⟩] := by
  induction h with
  | textEnd hu =>
    obtain rfl := hu.eq_nil hend
    exact ⟨[], rfl⟩
  | @openBrace held rest place cs hu _ ih =>
    rw [List.map_append, List.map_cons] at hend
    obtain ⟨front, rfl⟩ := ih (hend.behind (by rw [openParens_append]; rfl))
    exact ⟨⟨held, .openBrace place⟩ :: front, rfl⟩
  | @closeBrace held rest place cs hu _ ih =>
    rw [List.map_append, List.map_cons] at hend
    obtain ⟨front, rfl⟩ := ih (hend.behind (by rw [openParens_append]; rfl))
    exact ⟨⟨held, .closeBrace place⟩ :: front, rfl⟩
  | @semicolon held rest place cs hu hzero _ ih =>
    rw [List.map_append, List.map_cons] at hend
    have hopen : openParens (held.map Lexeme.kind ++ [.symbol .semicolon]) = 0 := by
      rw [openParens_append, openParens_eq hu.no_brace, hzero]
      rfl
    obtain ⟨front, rfl⟩ := ih (hend.behind hopen)
    exact ⟨⟨held, .semicolon⟩ :: front, rfl⟩

/-- The chunks of lexemes that end a statement come first, whatever follows. -/
theorem exists_chunks_append {ls : List Lexeme} (h : EndsStatement (ls.map Lexeme.kind)) :
    ∃ front, chunks ls = front ++ [⟨[], .textEnd⟩] ∧
      ∀ more, chunks (ls ++ more) = front ++ chunks more := by
  obtain ⟨front, hfront⟩ := (cutsInto_iff.mpr rfl).exists_front h
  exact ⟨front, hfront, chunks_append hfront⟩

/-! ## Outside the main function -/

structure Outside (ls : List Lexeme) : Prop where
  braces_match : BracesMatch (ls.map Lexeme.kind)
  ends_statement : EndsStatement (ls.map Lexeme.kind)
  /-- No block of it is the main function. -/
  no_entry : ∀ c ∈ chunks ls, c.isEntry = false

namespace Outline

variable {order : PrintOrder} {o : Outline} {c : Chunk}

/-- Outside the main function a statement does nothing, not even a loop. -/
theorem readStatement_outside (h : o.inEntry = false) (lexemes : List Lexeme) :
    o.readStatement order lexemes = .ok o := by
  cases lexemes with
  | nil => rfl
  | cons first more => simp [readStatement, h]

/-- Outside the main function every other block is plain, whatever its header. -/
theorem openBlock_outside (h : o.inEntry = false) {header : List Lexeme}
    (hentry : Chunk.isEntryHead (header.map Lexeme.kind) = false) (brace : Location) :
    o.openBlock header brace = .ok (o.push .plain brace) := by
  simp [openBlock, h, hentry]

def withFrames (o : Outline) (frames : List Frame) : Outline :=
  { o with frames := frames }

def AllPlain (frames : List Frame) : Prop :=
  ∀ frame ∈ frames, frame.kind = .plain

theorem inEntry_withFrames {frames : List Frame} (h : AllPlain frames) :
    (o.withFrames frames).inEntry = false := by
  rw [inEntry, List.any_eq_false]
  intro frame hf
  rw [h frame hf]
  decide

/-- Outside the main function a chunk opens or closes a plain block, if it ends with a brace, and
    does nothing else. -/
theorem readChunk_outside (order : PrintOrder) (o : Outline) (hc : c.isEntry = false)
    {frames : List Frame} (hplain : AllPlain frames)
    (hclose : (braces [c]).count .closing ≤ (braces [c]).count .opening + frames.length) :
    ∃ frames', AllPlain frames' ∧
      frames'.length + (braces [c]).count .closing =
        frames.length + (braces [c]).count .opening ∧
      (o.withFrames frames).readChunk order c = .ok (o.withFrames frames') := by
  have hin : (o.withFrames frames).inEntry = false := inEntry_withFrames hplain
  unfold readChunk
  cases hcut : c.cut with
  | openBrace brace =>
    have hhead : Chunk.isEntryHead c.kinds = false := by
      cases hhead : Chunk.isEntryHead c.kinds with
      | false => rfl
      | true =>
        rw [Chunk.isEntry_iff.mpr ⟨⟨brace, hcut⟩, hhead⟩] at hc
        cases hc
    rw [braces_openBrace hcut]
    exact ⟨⟨.plain, brace⟩ :: frames, List.forall_mem_cons.mpr ⟨rfl, hplain⟩, rfl,
      openBlock_outside hin hhead brace⟩
  | closeBrace brace =>
    rw [braces_closeBrace hcut] at hclose ⊢
    dsimp only
    rw [readStatement_outside hin]
    cases frames with
    | nil => cases hclose
    | cons frame frames =>
      obtain ⟨hframe, hrest⟩ := List.forall_mem_cons.mp hplain
      obtain ⟨kind, opened⟩ := frame
      obtain rfl : kind = .plain := hframe
      exact ⟨frames, hrest, rfl, rfl⟩
  | semicolon | textEnd =>
    rw [braces_none (by rw [hcut]; rfl)]
    exact ⟨frames, hplain, rfl, readStatement_outside hin c.lexemes⟩

/-- Outside the main function chunks only open and close plain blocks, as many as their braces
    say. -/
theorem readChunks_outside (order : PrintOrder) (o : Outline) {cs : List Chunk}
    (hentry : ∀ c ∈ cs, c.isEntry = false) {frames : List Frame} (hplain : AllPlain frames)
    (hclose : ∀ front, front <+: braces cs →
      front.count .closing ≤ front.count .opening + frames.length) :
    ∃ frames', AllPlain frames' ∧
      frames'.length + (braces cs).count .closing =
        frames.length + (braces cs).count .opening ∧
      (o.withFrames frames).readChunks order cs = .ok (o.withFrames frames') := by
  induction cs generalizing frames with
  | nil => exact ⟨frames, hplain, rfl, rfl⟩
  | cons c cs ih =>
    obtain ⟨hc, hcs⟩ := List.forall_mem_cons.mp hentry
    have hsplit : braces (c :: cs) = braces [c] ++ braces cs := braces_append [c] cs
    rw [hsplit] at hclose ⊢
    obtain ⟨middle, hmiddle, hlength, hread⟩ := readChunk_outside order o hc hplain
      (hclose _ (List.prefix_append _ _))
    have hmore : ∀ front, front <+: braces cs →
        front.count .closing ≤ front.count .opening + middle.length := by
      intro front hf
      have hle := hclose (braces [c] ++ front) ((List.prefix_append_right_inj _).mpr hf)
      rw [List.count_append, List.count_append] at hle
      omega
    obtain ⟨frames', hplain', hlength', hread'⟩ := ih hcs hmiddle hmore
    refine ⟨frames', hplain', ?_, ?_⟩
    · rw [List.count_append, List.count_append]
      omega
    · rw [readChunks, hread]
      exact hread'

/-- With every block closed again, nothing is left of what was outside the main function. -/
theorem readChunks_outside_closed {cs : List Chunk} (hentry : ∀ c ∈ cs, c.isEntry = false)
    (hbraces : Balanced (braces cs)) (ho : o.frames = []) : o.readChunks order cs = .ok o := by
  have hnone : AllPlain [] := fun _ hf => by cases hf
  obtain ⟨frames', -, hlength, hread⟩ := readChunks_outside order o hentry hnone
    hbraces.closesOpened
  have hcount := hbraces.count_eq
  obtain rfl : frames' = [] := by
    rw [← List.length_eq_zero_iff]
    simp at hlength
    omega
  have hsame : o.withFrames [] = o := by
    obtain ⟨frames, code, remarks, entryLine⟩ := o
    obtain rfl : frames = [] := ho
    rfl
  rwa [hsame] at hread

/-- Blocks whose braces match are all closed at the end. -/
theorem frames_of_readChunks {cs : List Chunk} (hbraces : Balanced (braces cs))
    (h : blank.readChunks order cs = .ok o) : o.frames = [] := by
  have hfollows := follows_blank.readChunks order .nil cs
  rw [h] at hfollows
  have hopen := hfollows.2.opened.count_eq
  have hcount := hbraces.count_eq
  rw [List.nil_append] at hopen
  rw [← List.length_eq_zero_iff]
  omega

end Outline

/-! ## The main function and its surroundings -/

theorem balanced_chunks {ls : List Lexeme} (h : BracesMatch (ls.map Lexeme.kind)) :
    Balanced (braces (chunks ls)) := by
  rw [braces_eq (cutsInto_iff.mpr rfl)]
  exact (bracesMatch_iff _).mp h

theorem braces_textEnd (front : List Chunk) :
    braces (front ++ [⟨[], .textEnd⟩]) = braces front := by
  rw [braces_append]
  exact List.append_nil _

/-- What stands around closed blocks does not count. -/
theorem ofLexemes_between (order : PrintOrder) {before middle after : List Lexeme}
    (hbefore : Outside before) (hafter : Outside after)
    (hbraces : BracesMatch (middle.map Lexeme.kind))
    (hends : EndsStatement (middle.map Lexeme.kind)) :
    Outline.ofLexemes order (before ++ middle ++ after) = Outline.ofLexemes order middle := by
  obtain ⟨as, has, hbeforeMore⟩ := exists_chunks_append hbefore.ends_statement
  obtain ⟨ms, hms, hmiddleMore⟩ := exists_chunks_append hends
  have hentry : ∀ c ∈ as, c.isEntry = false := fun c hc =>
    hbefore.no_entry c (by rw [has]; exact List.mem_append_left _ hc)
  have hclosed : Balanced (braces as) := by
    rw [← braces_textEnd, ← has]
    exact balanced_chunks hbefore.braces_match
  have hmiddle : Balanced (braces ms) := by
    rw [← braces_textEnd, ← hms]
    exact balanced_chunks hbraces
  have hfirst : Outline.blank.readChunks order as = .ok .blank :=
    Outline.readChunks_outside_closed hentry hclosed rfl
  unfold Outline.ofLexemes
  rw [List.append_assoc, hbeforeMore, hmiddleMore, hms, Outline.readChunks_append, hfirst]
  change (Outline.blank.readChunks order (ms ++ chunks after) >>= Outline.complete) = _
  rw [Outline.readChunks_append, Outline.readChunks_append]
  cases hread : Outline.blank.readChunks order ms with
  | error e => rfl
  | ok o =>
    have hframes := Outline.frames_of_readChunks hmiddle hread
    have hlast : o.readChunks order (chunks after) = .ok o :=
      Outline.readChunks_outside_closed hafter.no_entry (balanced_chunks hafter.braces_match)
        hframes
    change (o.readChunks order (chunks after) >>= Outline.complete) = o.complete
    rw [hlast]
    rfl

/-- The lexemes `int main ( ) { ... }` whose last brace closes the first one. -/
def MainFunction (kinds : List LexemeKind) : Prop :=
  ∃ head body, kinds = head ++ .symbol .openBrace :: (body ++ [.symbol .closeBrace]) ∧
    Chunk.isEntryHead head = true ∧ BracesMatch body

namespace MainFunction

variable {kinds : List LexemeKind}

theorem endsStatement (h : MainFunction kinds) : EndsStatement kinds := by
  obtain ⟨head, body, rfl, -, -⟩ := h
  refine Or.inr (Or.inl ?_)
  rw [← List.cons_append, ← List.append_assoc, List.getLast?_concat]

theorem bracesMatch (h : MainFunction kinds) : BracesMatch kinds := by
  obtain ⟨head, body, rfl, hhead, hbody⟩ := h
  have hnone : head.filterMap LexemeKind.brace? = [] := by
    simp only [Chunk.isEntryHead, Bool.or_eq_true, beq_iff_eq] at hhead
    rcases hhead with rfl | rfl
    · rfl
    · rfl
  rw [bracesMatch_iff] at hbody ⊢
  rw [List.filterMap_append, hnone, List.nil_append, ← List.cons_append, List.filterMap_append]
  exact hbody.wrap

end MainFunction

/-- Code outside the main function has no influence on a program: the main function is read as it
    is read alone, and in other surroundings, at whatever places, it has the same outcome. -/
theorem surroundings_ignored (order : PrintOrder)
    {before before' main main' after after' : List Lexeme}
    (hbefore : Outside before) (hbefore' : Outside before')
    (hafter : Outside after) (hafter' : Outside after')
    (hmain : MainFunction (main.map Lexeme.kind))
    (hsame : main'.map Lexeme.kind = main.map Lexeme.kind) :
    Outline.ofLexemes order (before ++ main ++ after) = Outline.ofLexemes order main ∧
      SameOutcome Outline.Agree (Outline.ofLexemes order (before ++ main ++ after))
        (Outline.ofLexemes order (before' ++ main' ++ after')) := by
  have hleft := ofLexemes_between order hbefore hafter hmain.bracesMatch hmain.endsStatement
  have hmain' : MainFunction (main'.map Lexeme.kind) := by
    rw [hsame]
    exact hmain
  have hright := ofLexemes_between order hbefore' hafter' hmain'.bracesMatch hmain'.endsStatement
  refine ⟨hleft, ?_⟩
  rw [hleft, hright]
  exact ofLexemes_sameOutcome hsame.symm order

/-- A helper function with loops that the main function could not have. -/
def helperText : String :=
  "void f() \x7b for (;;) \x7b for (x) y; \x7d \x7d int n;"

def mainText : String :=
  "int main() \x7b n = 2; cin >> n; \x7d"

def lastText : String :=
  "int g() \x7b for \x7b gets(n) \x7d \x7d"

theorem surroundings_ignored_helper :
    ∃ o o', Outline.ofLexemes .source (lex helperText ++ lex mainText ++ lex lastText) = .ok o ∧
      Outline.ofLexemes .source ([] ++ lex mainText ++ []) = .ok o' ∧ o.Agree o' ∧
      o.code.size = 1 ∧ o.remarks.map Remark.reason = [.assignment] := by
  have hnone : Outside [] := ⟨by decide, by decide, by decide⟩
  have hhelper : Outside (lex helperText) :=
    ⟨by decide +kernel, by decide +kernel, by decide +kernel⟩
  have hlast : Outside (lex lastText) :=
    ⟨by decide +kernel, by decide +kernel, by decide +kernel⟩
  have hmain : MainFunction ((lex mainText).map Lexeme.kind) :=
    ⟨((lex mainText).map Lexeme.kind).take 4, (((lex mainText).map Lexeme.kind).drop 5).dropLast,
      by decide +kernel, by decide +kernel, by decide +kernel⟩
  have hread : (Outline.ofLexemes .source (lex mainText)).toOption.map
      (fun o => (o.code.size, o.remarks.map Remark.reason)) = some (1, [.assignment]) := by
    decide +kernel
  obtain ⟨halone, hagree⟩ := surroundings_ignored .source hhelper hnone hlast hnone hmain rfl
  rw [← halone] at hread
  cases hboth : Outline.ofLexemes .source (lex helperText ++ lex mainText ++ lex lastText) with
  | error e =>
    rw [hboth] at hread
    cases hread
  | ok o =>
    rw [hboth] at hread hagree
    obtain ⟨hsize, hreasons⟩ := Prod.mk.inj (Option.some.inj hread)
    cases hbare : Outline.ofLexemes .source ([] ++ lex mainText ++ []) with
    | error e =>
      rw [hbare] at hagree
      cases hagree
    | ok o' =>
      rw [hbare] at hagree
      exact ⟨o, o', rfl, rfl, hagree, hsize, hreasons⟩

end ConsoleLab
