/-
  ConsoleLab.Proofs.Statement.Written — statements as they are written.

  Every statement has a written form (`Statement.written`), and so has what its lexemes
  are (`Statement.kinds`). The written form is read as these lexemes
  (`closed_written_statement`), and these are recognised as the statement itself
  (`recognize_kinds`), provided that its names can be written (`Statement.Writable`).
-/

import ConsoleLab.Proofs.Lexeme.Words
import ConsoleLab.Proofs.Statement.WellFormed

namespace ConsoleLab

open Lexer

/-! ## Written forms -/

def ScanHint.conversion : ScanHint → String
  | integer => "%d"
  | float => "%f"
  | string => "%s"
  | char => "%c"

def writtenFormat (gap : String) (hints : List ScanHint) : String :=
  gap.intercalate (hints.map ScanHint.conversion)

def behindEach {α : Type} (mark : String) (text : α → String) (xs : List α) : String :=
  xs.foldr (fun x rest => mark ++ text x ++ rest) ""

def PrintPart.written : PrintPart → String
  | literal text => quote text
  | var name => name
  | newline => "endl"

def Statement.written (gap : String) : Statement → String
  | print parts => "cout" ++ behindEach " << " PrintPart.written parts ++ ";"
  | read name .value => "cin >> " ++ name ++ ";"
  | read name .line => "gets(" ++ name ++ ");"
  | read name .character => "char " ++ name ++ " = getchar();"
  | scan names hints =>
    "scanf(" ++ quote (writtenFormat gap hints) ++ behindEach ", &" id names ++ ");"

/-- A part of a print that can be written: the name of a variable is one, and no other word. -/
def PrintPart.Writable : PrintPart → Prop
  | literal _ => True
  | var name => isName name = true ∧ name ≠ "endl"
  | newline => True

/-- A statement that can be written. The name behind a type must not itself be one. -/
def Statement.Writable : Statement → Prop
  | print parts => parts ≠ [] ∧ ∀ part ∈ parts, part.Writable
  | read name .value => isName name = true
  | read name .line => isName name = true
  | read name .character => isName name = true ∧ name ∉ typeNames
  | scan names hints =>
    names ≠ [] ∧ hints.length = names.length ∧ ∀ name ∈ names, isName name = true

/-! ## The lexemes of a written form -/

def PrintPart.kind : PrintPart → LexemeKind
  | literal text => .string text
  | var name => .ident name
  | newline => .ident "endl"

def argumentKinds (names : List String) : List LexemeKind :=
  names.flatMap fun name => [.symbol .comma, .symbol .ampersand, .ident name]

def Statement.kinds (gap : String) : Statement → List LexemeKind
  | print parts => .ident "cout" :: parts.flatMap fun part => [.symbol .insert, part.kind]
  | read name .value => [.ident "cin", .symbol .extract, .ident name]
  | read name .line => [.ident "gets", .symbol .openParen, .ident name, .symbol .closeParen]
  | read name .character =>
    .ident "char" :: .ident name :: .symbol .assign :: Recognize.getcharCall
  | scan names hints =>
    .ident "scanf" :: .symbol .openParen :: .string (writtenFormat gap hints) ::
      (argumentKinds names ++ [.symbol .closeParen])

section

variable {α : Type} {mark : String} {ks : List LexemeKind} {text : α → String}
  {kinds : α → List LexemeKind}

theorem apart_behindEach (hmark : ∃ c cs, mark.toList = c :: cs ∧ endsWord c = true)
    (xs : List α) : Apart (behindEach mark text xs).toList := by
  obtain ⟨c, cs, heq, hc⟩ := hmark
  cases xs with
  | nil => exact apart_nil
  | cons x xs =>
    rw [behindEach, List.foldr_cons, String.toList_append, String.toList_append, heq]
    exact apart_cons hc

/-- Words behind closed marks make a word again. -/
theorem word_behindEach (hmark : ∃ c cs, mark.toList = c :: cs ∧ endsWord c = true)
    (hclosed : Closed mark ks) {xs : List α} (hword : ∀ x ∈ xs, Word (text x) (kinds x)) :
    Word (behindEach mark text xs) (xs.flatMap fun x => ks ++ kinds x) := by
  induction xs with
  | nil => exact closed_empty.word
  | cons x xs ih =>
    obtain ⟨hx, hxs⟩ := List.forall_mem_cons.mp hword
    exact (hclosed.before hx).append (apart_behindEach hmark xs) (ih hxs)

end

theorem word_part {part : PrintPart} (h : part.Writable) : Word part.written [part.kind] := by
  cases part with
  | literal text => exact (closed_quote text).word
  | var name => exact word_name h.1
  | newline => exact word_name rfl

theorem closed_written_statement (gap : String) {what : Statement} (h : what.Writable) :
    Closed (what.written gap) (what.kinds gap ++ [.symbol .semicolon]) := by
  have hsemicolon : Closed ";" [.symbol .semicolon] := closed_of_kindsBy 1 fun _ => rfl
  have hend : Closed ");" [.symbol .closeParen, .symbol .semicolon] :=
    closed_of_kindsBy 2 fun _ => rfl
  cases what with
  | print parts =>
    have hcout : Word "cout" [.ident "cout"] := word_name rfl
    have hinsert : Closed " << " [.symbol .insert] := closed_of_kindsBy 3 fun _ => rfl
    have hmark : ∃ c cs, " << ".toList = c :: cs ∧ endsWord c = true := ⟨' ', _, rfl, rfl⟩
    have hparts : Word (behindEach " << " PrintPart.written parts)
        (parts.flatMap fun part => [.symbol .insert] ++ [part.kind]) :=
      word_behindEach hmark hinsert fun part hp => word_part (h.2 part hp)
    exact (hcout.append (apart_behindEach hmark parts) hparts).close rfl rfl hsemicolon
  | read name mode =>
    cases mode with
    | value =>
      have hcin : Closed "cin >> " [.ident "cin", .symbol .extract] :=
        closed_of_kindsBy 4 fun _ => rfl
      exact (hcin.before (word_name h)).close rfl rfl hsemicolon
    | line =>
      have hgets : Closed "gets(" [.ident "gets", .symbol .openParen] :=
        closed_of_kindsBy 2 fun _ => rfl
      exact (hgets.before (word_name h)).close rfl rfl hend
    | character =>
      have hchar : Closed "char " [.ident "char"] := closed_of_kindsBy 2 fun _ => rfl
      have hcall : Closed " = getchar();"
          (.symbol .assign :: Recognize.getcharCall ++ [.symbol .semicolon]) :=
        closed_of_kindsBy 7 fun _ => rfl
      exact (hchar.before (word_name h.1)).close rfl rfl hcall
  | scan names hints =>
    have hscanf : Closed "scanf(" [.ident "scanf", .symbol .openParen] :=
      closed_of_kindsBy 2 fun _ => rfl
    have hcomma : Closed ", &" [.symbol .comma, .symbol .ampersand] :=
      closed_of_kindsBy 3 fun _ => rfl
    have hmark : ∃ c cs, ", &".toList = c :: cs ∧ endsWord c = true := ⟨',', _, rfl, rfl⟩
    have hnames : Word (behindEach ", &" id names) (argumentKinds names) :=
      word_behindEach hmark hcomma fun name hn => word_name (h.2.2 name hn)
    have hformat := hscanf.append (closed_quote (writtenFormat gap hints))
    have hall := (hformat.before hnames).close rfl rfl hend
    simpa [Statement.written, Statement.kinds] using hall

/-! ## Reading the lexemes back -/

theorem hintsFrom_text {cs : List Char} (h : '%' ∉ cs) (rest : List Char) :
    ScanFormat.hintsFrom false (cs ++ rest) = ScanFormat.hintsFrom false rest := by
  induction cs with
  | nil => rfl
  | cons c cs ih =>
    obtain ⟨hc, hcs⟩ := List.ne_and_not_mem_of_not_mem_cons h
    have hfalse : (c == '%') = false := beq_false_of_ne (Ne.symm hc)
    rw [List.cons_append, ScanFormat.hintsFrom, if_neg Bool.false_ne_true, hfalse, ih hcs]

theorem hints_writtenFormat {gap : String} (hgap : '%' ∉ gap.toList) (hints : List ScanHint) :
    ScanFormat.hints (writtenFormat gap hints) = hints := by
  have hone : ∀ (hint : ScanHint) rest, ScanFormat.hintsFrom false
      (hint.conversion.toList ++ rest) = hint :: ScanFormat.hintsFrom false rest := by
    intro hint rest
    cases hint <;> rfl
  rw [ScanFormat.hints, writtenFormat, String.toList_intercalate, List.map_map]
  induction hints with
  | nil => rfl
  | cons hint more ih =>
    cases more with
    | nil =>
      have hlast := hone hint []
      rw [List.append_nil] at hlast
      rw [List.map_singleton, List.intercalate_singleton]
      exact hlast
    | cons next more =>
      rw [List.map_cons, List.map_cons, List.intercalate_cons_cons, List.append_assoc,
        Function.comp_apply, hone, hintsFrom_text hgap, ← List.map_cons, ih]

/-- Pieces that stand behind marks are cut apart at the marks. -/
theorem splitOn_marked {α : Type} {mark : LexemeKind} {f : α → List LexemeKind} {xs : List α}
    (hf : ∀ x ∈ xs, mark ∉ f x) {l : List LexemeKind} (hl : mark ∉ l) :
    (l ++ xs.flatMap fun x => mark :: f x).splitOn mark = l :: xs.map f := by
  induction xs generalizing l with
  | nil => rw [List.flatMap_nil, List.append_nil, List.splitOn_eq_singleton hl, List.map_nil]
  | cons x xs ih =>
    obtain ⟨hx, hxs⟩ := List.forall_mem_cons.mp hf
    rw [List.flatMap_cons, List.cons_append, List.splitOn_append_cons_self_of_not_mem hl,
      ih hxs hx, List.map_cons]

theorem filterMap_map_of_some {α β : Type} {f : α → β} {g : β → Option α} {xs : List α}
    (h : ∀ x ∈ xs, g (f x) = some x) : (xs.map f).filterMap g = xs := by
  induction xs with
  | nil => rfl
  | cons x xs ih =>
    obtain ⟨hx, hxs⟩ := List.forall_mem_cons.mp h
    rw [List.map_cons, List.filterMap_cons_some hx, ih hxs]

namespace Recognize

theorem withoutStd_eq_self {kinds : List LexemeKind} (h : .symbol .scope ∉ kinds) :
    withoutStd kinds = kinds := by
  fun_induction withoutStd kinds with
  | case1 rest ih => simp at h
  | case2 lexeme rest _ ih => rw [ih (fun hr => h (List.mem_cons_of_mem _ hr))]
  | case3 => rfl

theorem partOf?_kind {part : PrintPart} (h : part.Writable) : partOf? [part.kind] = some part := by
  cases part with
  | literal text => rfl
  | var name => exact congrArg some (if_neg h.2)
  | newline => rfl

theorem print_parts {parts : List PrintPart} (hne : parts ≠ [])
    (h : ∀ part ∈ parts, part.Writable) :
    print .source (parts.flatMap fun part => [.symbol .insert, part.kind]) =
      .statements [.print parts] := by
  obtain ⟨first, rest, rfl⟩ := List.exists_cons_of_ne_nil hne
  have hkind : ∀ part : PrintPart, .symbol .insert ∉ [part.kind] := by
    intro part
    cases part <;> simp [PrintPart.kind]
  have hpieces : piecesBehind? .insert
      ((first :: rest).flatMap fun part => [.symbol .insert, part.kind]) =
        some ((first :: rest).map fun part => [part.kind]) :=
    congrArg some (splitOn_marked (fun part _ => hkind part) (hkind first))
  have hparts : ((first :: rest).map fun part => [part.kind]).filterMap partOf? =
      first :: rest :=
    filterMap_map_of_some fun part hp => partOf?_kind (h part hp)
  simp only [print, hpieces, hparts]
  rfl

theorem read_name (name : String) :
    read [.symbol .extract, .ident name] = .statements [.read name .value] := by
  have hpiece : piecesBehind? .extract [.symbol .extract, .ident name] = some [[.ident name]] :=
    congrArg some (List.splitOn_eq_singleton (by simp))
  rw [read, hpiece]
  rfl

theorem scan_names {gap : String} (hgap : '%' ∉ gap.toList) {names : List String}
    {hints : List ScanHint} (hne : names ≠ []) (hlen : hints.length = names.length) :
    scan (.symbol .openParen :: .string (writtenFormat gap hints) ::
      (argumentKinds names ++ [.symbol .closeParen])) = .statements [.scan names hints] := by
  have hbefore : beforeLastClose (argumentKinds names ++ [.symbol .closeParen]) =
      argumentKinds names := by
    simp [beforeLastClose]
  have hpieces : (argumentKinds names).splitOn (.symbol .comma) =
      [] :: names.map fun name => [.symbol .ampersand, .ident name] :=
    splitOn_marked (l := []) (fun name _ => by simp) List.not_mem_nil
  have htargets : (names.map fun name => [.symbol .ampersand, .ident name]).filterMap scanTarget? =
      names :=
    filterMap_map_of_some fun name _ => rfl
  have hhints : padHints names.length (ScanFormat.hints (writtenFormat gap hints)) = hints := by
    rw [hints_writtenFormat hgap, padHints, hlen, Nat.sub_self, ← hlen, List.take_length]
    exact List.append_nil hints
  obtain ⟨first, rest, rfl⟩ := List.exists_cons_of_ne_nil hne
  simp only [scan, hbefore, hpieces, List.tail_cons, htargets, hhints]

theorem declaration_character {name : String} (h : name ∉ typeNames) :
    declaration (.ident name :: .symbol .assign :: getcharCall) =
      .statements [.read name .character] := by
  have hbody : (LexemeKind.ident name :: .symbol .assign :: getcharCall).dropWhile isTypeName =
      .ident name :: .symbol .assign :: getcharCall :=
    List.dropWhile_cons_of_neg (by simp [isTypeName, h])
  simp [declaration, hbody]

end Recognize

/-- No statement has a lexeme that names a scope. -/
theorem scope_notMem_kinds (gap : String) (what : Statement) :
    .symbol .scope ∉ what.kinds gap := by
  cases what with
  | print parts =>
    have hpart : ∀ part : PrintPart, part.kind ≠ .symbol .scope := by
      intro part
      cases part <;> simp [PrintPart.kind]
    simp [Statement.kinds, (hpart _).symm]
  | read name mode => cases mode <;> simp [Statement.kinds, Recognize.getcharCall]
  | scan names hints => simp [Statement.kinds, argumentKinds]

open Recognize in
/-- The lexemes of a statement are recognised as that statement and nothing else. -/
theorem recognize_kinds {gap : String} (hgap : '%' ∉ gap.toList) {what : Statement}
    (h : what.Writable) : recognize .source (what.kinds gap) = .statements [what] := by
  have hstd : .symbol .scope ∉ what.kinds gap := scope_notMem_kinds gap what
  rw [recognize, withoutStd_eq_self hstd]
  cases what with
  | print parts => exact print_parts h.1 h.2
  | read name mode =>
    cases mode with
    | value => exact read_name name
    | line => rfl
    | character => exact declaration_character h.2
  | scan names hints => exact scan_names hgap h.1 h.2.1

end ConsoleLab
