/-
  ConsoleLab.Proofs.Program.Cutting — what the chunks of a program are.

  `CutsInto` gives by rules how lexemes are cut into chunks: at every brace, and at every
  semicolon where no parenthesis is open since the last cut. The rules cut a program into
  its chunks and nothing else (`cutsInto_iff`), and these end with the braces of the
  program, in order (`braces_eq`). `heldDepth` decides that some lexemes do not cut and how
  many parentheses they leave open (`uncut_of_heldDepth`). What is said about the nesting of blocks is said about
  lists of braces: `ClosesOpened` where each closing one has an opening one before it,
  `Balanced` where moreover none stays open.
-/

import ConsoleLab.Program.Chunk
import Mathlib.Data.List.Induction
import Mathlib.Data.List.Infix

namespace ConsoleLab

open Source (Location)

/-! ## Braces -/

inductive Brace
  | opening
  | closing
  deriving DecidableEq

/-- Each closing brace has an opening one before it: no front part has more closing than opening
    ones. -/
def ClosesOpened (bs : List Brace) : Prop :=
  ∀ front, front <+: bs → front.count .closing ≤ front.count .opening

structure Balanced (bs : List Brace) : Prop where
  closesOpened : ClosesOpened bs
  count_eq : bs.count .closing = bs.count .opening

theorem prefix_append_cases {α : Type} {front l l' : List α} (h : front <+: l ++ l') :
    front <+: l ∨ ∃ more, more <+: l' ∧ front = l ++ more := by
  obtain ⟨back, heq⟩ := h
  rcases List.append_eq_append_iff.mp heq with ⟨more, rfl, -⟩ | ⟨more, rfl, rfl⟩
  · exact Or.inl (List.prefix_append front more)
  · exact Or.inr ⟨more, List.prefix_append more back, rfl⟩

namespace ClosesOpened

variable {bs bs' : List Brace}

theorem count_le (h : ClosesOpened bs) : bs.count .closing ≤ bs.count .opening :=
  h bs (List.prefix_refl bs)

theorem of_append (h : ClosesOpened (bs ++ bs')) : ClosesOpened bs :=
  fun front hf => h front (hf.trans (List.prefix_append bs bs'))

theorem append (h : ClosesOpened bs) (h' : ClosesOpened bs') : ClosesOpened (bs ++ bs') := by
  intro front hf
  rcases prefix_append_cases hf with hp | ⟨more, hp, rfl⟩
  · exact h front hp
  · have hle := h.count_le
    have hle' := h' more hp
    rw [List.count_append, List.count_append]
    omega

theorem opening_cons (h : ClosesOpened bs) : ClosesOpened (.opening :: bs) := by
  intro front hf
  rcases List.prefix_cons_iff.mp hf with rfl | ⟨more, rfl, hp⟩
  · exact Nat.le_refl _
  · have hle := h more hp
    simp
    omega

end ClosesOpened

namespace Balanced

variable {bs bs' : List Brace}

theorem nil : Balanced [] where
  closesOpened front hf := by rw [List.prefix_nil.mp hf]; exact Nat.le_refl _
  count_eq := rfl

theorem append (h : Balanced bs) (h' : Balanced bs') : Balanced (bs ++ bs') where
  closesOpened := h.closesOpened.append h'.closesOpened
  count_eq := by rw [List.count_append, List.count_append, h.count_eq, h'.count_eq]

theorem wrap (h : Balanced bs) : Balanced (.opening :: bs ++ [.closing]) where
  closesOpened := by
    intro front hf
    rcases prefix_append_cases hf with hp | ⟨more, hp, rfl⟩
    · exact h.closesOpened.opening_cons front hp
    · have hmore := hp.sublist.count_le .closing
      have heq := h.count_eq
      simp at hmore ⊢
      omega
  count_eq := by
    have heq := h.count_eq
    simp
    omega

/-- In balanced braces none is left open. -/
theorem not_closesOpened (h : Balanced (bs ++ .opening :: bs')) : ¬ ClosesOpened bs' := by
  intro h'
  have hfront := h.closesOpened bs (List.prefix_append _ _)
  have hback := h'.count_le
  have heq := h.count_eq
  simp at heq
  omega

end Balanced

/-! ## The braces of lexemes and of chunks -/

def LexemeKind.brace? : LexemeKind → Option Brace
  | .symbol .openBrace => some .opening
  | .symbol .closeBrace => some .closing
  | _ => none

def Cut.brace? : Cut → Option Brace
  | .openBrace _ => some .opening
  | .closeBrace _ => some .closing
  | .semicolon => none
  | .textEnd => none

def braces (cs : List Chunk) : List Brace :=
  cs.filterMap fun c => c.cut.brace?

/-- The braces among some lexemes match: no front part has more closing than opening ones, and
    altogether there are as many. -/
structure BracesMatch (kinds : List LexemeKind) : Prop where
  prefix_le : ∀ front, front <+: kinds →
    front.count (.symbol .closeBrace) ≤ front.count (.symbol .openBrace)
  count_eq : kinds.count (.symbol .closeBrace) = kinds.count (.symbol .openBrace)

theorem count_opening (kinds : List LexemeKind) :
    (kinds.filterMap LexemeKind.brace?).count .opening = kinds.count (.symbol .openBrace) := by
  rw [List.count_filterMap, List.count_eq_countP]
  refine List.countP_congr fun kind _ => ?_
  unfold LexemeKind.brace?
  split <;> simp_all

theorem count_closing (kinds : List LexemeKind) :
    (kinds.filterMap LexemeKind.brace?).count .closing = kinds.count (.symbol .closeBrace) := by
  rw [List.count_filterMap, List.count_eq_countP]
  refine List.countP_congr fun kind _ => ?_
  unfold LexemeKind.brace?
  split <;> simp_all

theorem bracesMatch_iff (kinds : List LexemeKind) :
    BracesMatch kinds ↔ Balanced (kinds.filterMap LexemeKind.brace?) := by
  constructor
  · intro h
    refine ⟨fun front hf => ?_, ?_⟩
    · obtain ⟨kinds', hp, rfl⟩ := List.prefix_filterMap_iff.mp hf
      rw [count_opening, count_closing]
      exact h.prefix_le kinds' hp
    · rw [count_opening, count_closing, h.count_eq]
  · intro h
    refine ⟨fun front hf => ?_, ?_⟩
    · rw [← count_opening, ← count_closing]
      exact h.closesOpened _ (hf.filterMap _)
    · rw [← count_opening, ← count_closing, h.count_eq]

instance (kinds : List LexemeKind) : Decidable (BracesMatch kinds) :=
  decidable_of_iff
    ((∀ front ∈ kinds.inits, front.count (.symbol .closeBrace) ≤ front.count (.symbol .openBrace)) ∧
      kinds.count (.symbol .closeBrace) = kinds.count (.symbol .openBrace))
    ⟨fun h => ⟨fun front hf => h.1 front ((List.mem_inits front kinds).mpr hf), h.2⟩,
      fun h => ⟨fun front hf => h.prefix_le front ((List.mem_inits front kinds).mp hf), h.count_eq⟩⟩

/-! ## Cutting by rules -/

/-- How many parentheses are open behind one more lexeme; one that is closed without being open
    counts for nothing. -/
def parenStep (depth : Nat) : LexemeKind → Nat
  | .symbol .openParen => depth + 1
  | .symbol .closeParen => depth - 1
  | _ => depth

def parenDepth (kinds : List LexemeKind) : Nat :=
  kinds.foldl parenStep 0

/-- Lexemes without a cut: no brace, and semicolons inside parentheses only. -/
structure Uncut (held : List Lexeme) : Prop where
  no_brace : ∀ lexeme ∈ held, lexeme.kind.brace? = none
  semicolon : ∀ before lexeme after, held = before ++ lexeme :: after →
    lexeme.kind = .symbol .semicolon → 0 < parenDepth (before.map Lexeme.kind)

inductive CutsInto : List Lexeme → List Chunk → Prop
  | textEnd {held : List Lexeme} : Uncut held → CutsInto held [⟨held, .textEnd⟩]
  | openBrace {held rest : List Lexeme} {place : Location} {cs : List Chunk} : Uncut held →
      CutsInto rest cs →
      CutsInto (held ++ ⟨.symbol .openBrace, place⟩ :: rest) (⟨held, .openBrace place⟩ :: cs)
  | closeBrace {held rest : List Lexeme} {place : Location} {cs : List Chunk} : Uncut held →
      CutsInto rest cs →
      CutsInto (held ++ ⟨.symbol .closeBrace, place⟩ :: rest) (⟨held, .closeBrace place⟩ :: cs)
  | semicolon {held rest : List Lexeme} {place : Location} {cs : List Chunk} : Uncut held →
      parenDepth (held.map Lexeme.kind) = 0 → CutsInto rest cs →
      CutsInto (held ++ ⟨.symbol .semicolon, place⟩ :: rest) (⟨held, .semicolon⟩ :: cs)

theorem Uncut.nil : Uncut [] where
  no_brace := nofun
  semicolon before lexeme after h := by simp at h

theorem Uncut.concat {held : List Lexeme} {lexeme : Lexeme} (h : Uncut held)
    (hb : lexeme.kind.brace? = none)
    (hs : lexeme.kind = .symbol .semicolon → 0 < parenDepth (held.map Lexeme.kind)) :
    Uncut (held ++ [lexeme]) where
  no_brace other ho := by
    rcases List.mem_append.mp ho with ho | ho
    · exact h.no_brace other ho
    · obtain rfl := List.mem_singleton.mp ho
      exact hb
  semicolon before other after heq hk := by
    rcases List.eq_nil_or_concat after with rfl | ⟨after, last, rfl⟩
    · obtain ⟨rfl, hlast⟩ := List.append_inj' heq rfl
      cases hlast
      exact hs hk
    · have hfront : held ++ [lexeme] = (before ++ other :: after) ++ [last] := by
        rw [heq]
        simp
      obtain ⟨rfl, -⟩ := List.append_inj' hfront rfl
      exact h.semicolon before other after rfl hk

theorem Uncut.of_concat {held : List Lexeme} {lexeme : Lexeme} (h : Uncut (held ++ [lexeme])) :
    Uncut held ∧ lexeme.kind.brace? = none ∧
      (lexeme.kind = .symbol .semicolon → 0 < parenDepth (held.map Lexeme.kind)) := by
  refine ⟨⟨fun other ho => ?_, fun before other after heq hk => ?_⟩, ?_, ?_⟩
  · exact h.no_brace other (List.mem_append_left _ ho)
  · exact h.semicolon before other (after ++ [lexeme]) (by rw [heq]; simp) hk
  · exact h.no_brace lexeme (by simp)
  · exact h.semicolon held lexeme [] rfl

theorem parenDepth_concat (held : List Lexeme) (lexeme : Lexeme) :
    parenDepth ((held ++ [lexeme]).map Lexeme.kind) =
      parenStep (parenDepth (held.map Lexeme.kind)) lexeme.kind := by
  simp [parenDepth]

theorem CutsInto.bareClose {rest : List Lexeme} {cs : List Chunk} (h : CutsInto rest cs)
    (place : Location) :
    CutsInto (⟨.symbol .closeBrace, place⟩ :: rest) (⟨[], .closeBrace place⟩ :: cs) :=
  .closeBrace .nil h

/-- Behind the last cut nothing is held, so what follows is cut as if nothing stood in front. -/
theorem CutsInto.append {ls more : List Lexeme} {front cs : List Chunk}
    (h : CutsInto ls (front ++ [⟨[], .textEnd⟩])) (hmore : CutsInto more cs) :
    CutsInto (ls ++ more) (front ++ cs) := by
  -- the end of the text is no cut, so each cut of `ls` belongs to `front`
  have hfront : ∀ {held : List Lexeme} {cut : Cut} {ds front : List Chunk},
      ⟨held, cut⟩ :: ds = front ++ [⟨[], .textEnd⟩] → cut ≠ .textEnd →
      ∃ front', front = ⟨held, cut⟩ :: front' ∧ ds = front' ++ [⟨[], .textEnd⟩] := by
    intro held cut ds front heq hcut
    rcases List.cons_eq_append_iff.mp heq with ⟨-, hlast⟩ | hcons
    · cases hlast
      exact absurd rfl hcut
    · exact hcons
  generalize hds : front ++ [⟨[], .textEnd⟩] = ds at h
  induction h generalizing front with
  | @textEnd held hu =>
    have hone : front ++ [⟨[], .textEnd⟩] = [] ++ [⟨held, .textEnd⟩] := hds
    obtain ⟨rfl, hlast⟩ := List.append_inj' hone rfl
    cases hlast
    exact hmore
  | openBrace hu _ ih =>
    obtain ⟨front, rfl, hrest⟩ := hfront hds.symm nofun
    rw [List.append_assoc]
    exact .openBrace hu (ih hrest.symm)
  | closeBrace hu _ ih =>
    obtain ⟨front, rfl, hrest⟩ := hfront hds.symm nofun
    rw [List.append_assoc]
    exact .closeBrace hu (ih hrest.symm)
  | semicolon hu hzero _ ih =>
    obtain ⟨front, rfl, hrest⟩ := hfront hds.symm nofun
    rw [List.append_assoc]
    exact .semicolon hu hzero (ih hrest.symm)

/-! ## Deciding that lexemes do not cut -/

def heldDepth (depth : Nat) : List LexemeKind → Option Nat
  | [] => some depth
  | kind :: rest =>
    if kind.brace? = none ∧ (kind = .symbol .semicolon → 0 < depth) then
      heldDepth (parenStep depth kind) rest
    else none

theorem heldDepth_append (depth : Nat) (kinds more : List LexemeKind) :
    heldDepth depth (kinds ++ more) = (heldDepth depth kinds).bind (heldDepth · more) := by
  induction kinds generalizing depth with
  | nil => rfl
  | cons kind kinds ih =>
    simp only [List.cons_append, heldDepth]
    split
    · exact ih _
    · rfl

def LexemeKind.isFlat (kind : LexemeKind) : Bool :=
  kind.brace?.isNone && kind != .symbol .openParen && kind != .symbol .closeParen &&
    kind != .symbol .semicolon

theorem heldDepth_flat {kinds : List LexemeKind} (h : ∀ kind ∈ kinds, kind.isFlat = true)
    (depth : Nat) : heldDepth depth kinds = some depth := by
  induction kinds with
  | nil => rfl
  | cons kind kinds ih =>
    obtain ⟨hkind, hkinds⟩ := List.forall_mem_cons.mp h
    simp only [LexemeKind.isFlat, Bool.and_eq_true, Option.isNone_iff_eq_none, bne_iff_ne] at hkind
    obtain ⟨⟨⟨hbrace, hopen⟩, hclose⟩, hsemicolon⟩ := hkind
    have hstep : parenStep depth kind = depth := by
      unfold parenStep
      split
      · exact absurd rfl hopen
      · exact absurd rfl hclose
      · rfl
    rw [heldDepth, if_pos ⟨hbrace, fun hs => absurd hs hsemicolon⟩, hstep, ih hkinds]

/-- Inside parentheses a semicolon does not cut. -/
theorem heldDepth_semicolon (depth : Nat) (kinds : List LexemeKind) :
    heldDepth (depth + 1) (.symbol .semicolon :: kinds) = heldDepth (depth + 1) kinds := by
  rw [heldDepth, if_pos ⟨rfl, fun _ => Nat.succ_pos depth⟩]
  rfl

theorem uncut_of_heldDepth {held : List Lexeme} {depth : Nat}
    (h : heldDepth 0 (held.map Lexeme.kind) = some depth) :
    Uncut held ∧ parenDepth (held.map Lexeme.kind) = depth := by
  induction held using List.reverseRecOn generalizing depth with
  | nil => exact ⟨.nil, Option.some.inj h⟩
  | append_singleton held lexeme ih =>
    rw [List.map_append, heldDepth_append] at h
    obtain ⟨middle, hm, hl⟩ := Option.bind_eq_some_iff.mp h
    obtain ⟨hu, rfl⟩ := ih hm
    rw [List.map_singleton, heldDepth] at hl
    split at hl
    · rename_i hheld
      rw [parenDepth_concat]
      exact ⟨hu.concat hheld.1 hheld.2, Option.some.inj hl⟩
    · cases hl

/-! ## The chunks of a program -/

theorem chunksFrom_held {depth : Nat} {held rest : List Lexeme} {lexeme : Lexeme}
    (hb : lexeme.kind.brace? = none) (hs : lexeme.kind = .symbol .semicolon → 0 < depth) :
    chunksFrom depth held (lexeme :: rest) =
      chunksFrom (parenStep depth lexeme.kind) (lexeme :: held) rest := by
  obtain ⟨kind, place⟩ := lexeme
  rw [chunksFrom]
  dsimp only at hb hs ⊢
  split
  · rfl
  · rfl
  · cases hb
  · cases hb
  · rw [if_neg (Nat.ne_of_gt (hs rfl))]
    rfl
  · rename_i hopen hclose _ _ _
    have hstep : parenStep depth kind = depth := by
      unfold parenStep
      split
      · exact absurd rfl hopen
      · exact absurd rfl hclose
      · rfl
    rw [hstep]

theorem chunksFrom_uncut {held : List Lexeme} (hu : Uncut held) (rest : List Lexeme) :
    chunks (held ++ rest) = chunksFrom (parenDepth (held.map Lexeme.kind)) held.reverse rest := by
  induction held using List.reverseRecOn generalizing rest with
  | nil => rfl
  | append_singleton held lexeme ih =>
    obtain ⟨hu, hb, hs⟩ := hu.of_concat
    rw [List.append_assoc, List.singleton_append, ih hu, chunksFrom_held hb hs, parenDepth_concat,
      List.reverse_concat]

/-- What is held since the last cut has no cut in it; the next lexeme is held or cuts. -/
theorem cutsInto_chunksFrom {depth : Nat} (held lexemes : List Lexeme)
    (hu : Uncut held.reverse) (hd : depth = parenDepth (held.reverse.map Lexeme.kind)) :
    CutsInto (held.reverse ++ lexemes) (chunksFrom depth held lexemes) := by
  induction lexemes generalizing depth held with
  | nil =>
    rw [List.append_nil]
    exact .textEnd hu
  | cons lexeme rest ih =>
    by_cases hheld : lexeme.kind.brace? = none ∧ (lexeme.kind = .symbol .semicolon → 0 < depth)
    · obtain ⟨hb, hs⟩ := hheld
      have hmore : Uncut (held.reverse ++ [lexeme]) := hu.concat hb (by rwa [← hd])
      have hdepth := parenDepth_concat held.reverse lexeme
      rw [← hd] at hdepth
      rw [← List.reverse_cons] at hmore hdepth
      have hrest := ih _ hmore hdepth.symm
      rwa [List.reverse_cons, List.append_assoc, List.singleton_append,
        ← chunksFrom_held hb hs] at hrest
    · have hnext : CutsInto rest (chunksFrom 0 [] rest) := ih [] .nil rfl
      obtain ⟨kind, place⟩ := lexeme
      unfold LexemeKind.brace? at hheld
      dsimp only at hheld
      rw [chunksFrom]
      split at hheld
      · exact .openBrace hu hnext
      · exact .closeBrace hu hnext
      · obtain ⟨rfl, hzero⟩ : kind = .symbol .semicolon ∧ depth = 0 := by
          simpa [Classical.not_imp] using hheld
        rw [if_pos hzero]
        exact .semicolon hu (by rw [← hd, hzero]) hnext

/-- The chunks of a program are those that the rules cut it into. -/
theorem cutsInto_iff {lexemes : List Lexeme} {cs : List Chunk} :
    CutsInto lexemes cs ↔ cs = chunks lexemes := by
  constructor
  · intro h
    induction h with
    | @textEnd held hu =>
      have hchunks := chunksFrom_uncut hu []
      rw [List.append_nil] at hchunks
      rw [hchunks, chunksFrom, List.reverse_reverse]
    | @openBrace held rest place cs hu _ ih =>
      rw [chunksFrom_uncut hu, chunksFrom, List.reverse_reverse, ih]
      rfl
    | @closeBrace held rest place cs hu _ ih =>
      rw [chunksFrom_uncut hu, chunksFrom, List.reverse_reverse, ih]
      rfl
    | @semicolon held rest place cs hu hzero _ ih =>
      rw [chunksFrom_uncut hu, chunksFrom, List.reverse_reverse, ih]
      exact (if_pos hzero).symm
  · rintro rfl
    exact cutsInto_chunksFrom [] lexemes .nil rfl

/-- The chunks of lexemes behind which nothing is held come first, whatever follows. -/
theorem chunks_append {ls : List Lexeme} {front : List Chunk}
    (h : chunks ls = front ++ [⟨[], .textEnd⟩]) (more : List Lexeme) :
    chunks (ls ++ more) = front ++ chunks more :=
  (cutsInto_iff.mp ((cutsInto_iff.mpr h.symm).append (cutsInto_iff.mpr rfl))).symm

/-- The chunks end with the braces of the lexemes. -/
theorem braces_eq {lexemes : List Lexeme} {cs : List Chunk} (h : CutsInto lexemes cs) :
    braces cs = (lexemes.map Lexeme.kind).filterMap LexemeKind.brace? := by
  have hheld : ∀ {held : List Lexeme}, Uncut held →
      (held.map Lexeme.kind).filterMap LexemeKind.brace? = [] := by
    intro held hu
    rw [List.filterMap_eq_nil_iff]
    intro kind hk
    obtain ⟨lexeme, hl, rfl⟩ := List.mem_map.mp hk
    exact hu.no_brace lexeme hl
  induction h with
  | textEnd hu => rw [hheld hu]; rfl
  | openBrace hu _ ih =>
    rw [List.map_append, List.filterMap_append, hheld hu]
    exact congrArg (Brace.opening :: ·) ih
  | closeBrace hu _ ih =>
    rw [List.map_append, List.filterMap_append, hheld hu]
    exact congrArg (Brace.closing :: ·) ih
  | semicolon hu _ _ ih =>
    rw [List.map_append, List.filterMap_append, hheld hu]
    exact ih

end ConsoleLab
