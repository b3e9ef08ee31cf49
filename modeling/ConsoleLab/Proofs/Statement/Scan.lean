/-
  ConsoleLab.Proofs.Statement.Scan — formats and the arguments behind them.

  A format is made of texts, doubled percent signs and conversions (`FormatItem`), and its
  hints are those of the conversions that are known, in order (`hints_formatText`). A
  formatted read keeps the arguments that name a variable and gives the hints to them by
  their place among these, not among all arguments (`recognize_scanCall`). Main facts: each
  variable gets the hint of the conversion that has its place among the variables
  (`scan_hints_by_variable`). That is the conversion of its argument if every argument in
  front names a variable, but an argument that names none moves the hints behind it
  (`scan_hints_move`).
-/

import ConsoleLab.Proofs.Statement.Written

namespace ConsoleLab

/-! ## Formats -/

inductive FormatItem
  | text (characters : List Char)
  /-- The doubled percent sign. -/
  | percent
  /-- A percent sign with width digits and length modifiers, and the letter of a conversion. -/
  | conversion (modifiers : List Char) (letter : Char)
  deriving DecidableEq

namespace FormatItem

/-- The item can stand anywhere in a format: a text has no percent sign, and the letter of a
    conversion is neither one nor a modifier. -/
def Valid : FormatItem → Prop
  | text characters => '%' ∉ characters
  | percent => True
  | conversion modifiers letter =>
    modifiers.all ScanFormat.isModifier = true ∧ ScanFormat.isModifier letter = false ∧
      letter ≠ '%'

/-- The conversions of which the simulator knows the kind, and all else that is no conversion. -/
def Known : FormatItem → Prop
  | text _ => True
  | percent => True
  | conversion _ letter => letter ∈ ['d', 'i', 'u', 'f', 's', 'c']

instance : (item : FormatItem) → Decidable item.Valid
  | text characters => inferInstanceAs (Decidable ('%' ∉ characters))
  | percent => .isTrue trivial
  | conversion _ _ => inferInstanceAs (Decidable (_ ∧ _ ∧ _))

instance : (item : FormatItem) → Decidable item.Known
  | text _ => .isTrue trivial
  | percent => .isTrue trivial
  | conversion _ letter => inferInstanceAs (Decidable (letter ∈ _))

def spelling : FormatItem → List Char
  | text characters => characters
  | percent => ['%', '%']
  | conversion modifiers letter => '%' :: (modifiers ++ [letter])

def hint? : FormatItem → Option ScanHint
  | text _ => none
  | percent => none
  | conversion _ letter => ScanHint.ofConversion? letter

end FormatItem

def formatText (items : List FormatItem) : String :=
  String.ofList (items.flatMap FormatItem.spelling)

/-- Behind a percent sign modifiers are passed over. -/
theorem hintsFrom_modifiers {modifiers : List Char}
    (h : ∀ c ∈ modifiers, ScanFormat.isModifier c = true) (rest : List Char) :
    ScanFormat.hintsFrom true (modifiers ++ rest) = ScanFormat.hintsFrom true rest := by
  induction modifiers with
  | nil => rfl
  | cons c modifiers ih =>
    obtain ⟨hc, hrest⟩ := List.forall_mem_cons.mp h
    rw [List.cons_append, ScanFormat.hintsFrom, if_pos rfl, if_pos hc, ih hrest]

theorem hintsFrom_item {item : FormatItem} (h : item.Valid) (rest : List Char) :
    ScanFormat.hintsFrom false (item.spelling ++ rest) =
      item.hint?.toList ++ ScanFormat.hintsFrom false rest := by
  cases item with
  | text characters => exact hintsFrom_text h rest
  | percent => rfl
  | conversion modifiers letter =>
    obtain ⟨hmodifiers, hletter, -⟩ := h
    calc ScanFormat.hintsFrom false ('%' :: (modifiers ++ [letter]) ++ rest)
        = ScanFormat.hintsFrom true (modifiers ++ letter :: rest) := by simp [ScanFormat.hintsFrom]
      _ = ScanFormat.hintsFrom true (letter :: rest) :=
        hintsFrom_modifiers (List.all_eq_true.mp hmodifiers) _
      _ = (ScanHint.ofConversion? letter).toList ++ ScanFormat.hintsFrom false rest := by
        rw [ScanFormat.hintsFrom, if_pos rfl, hletter]
        rfl

/-- The hints of a format are those of its conversions, in order. -/
theorem hintsFrom_items {items : List FormatItem} (h : ∀ item ∈ items, item.Valid) :
    ScanFormat.hintsFrom false (items.flatMap FormatItem.spelling) =
      items.filterMap FormatItem.hint? := by
  induction items with
  | nil => rfl
  | cons item items ih =>
    obtain ⟨hitem, hitems⟩ := List.forall_mem_cons.mp h
    rw [List.flatMap_cons, hintsFrom_item hitem, ih hitems]
    cases hhint : item.hint? with
    | none => rw [List.filterMap_cons_none hhint]; rfl
    | some hint => rw [List.filterMap_cons_some hhint]; rfl

/-! ## Arguments -/

open Recognize

def scanCall (format : String) (args : List (List LexemeKind)) : List LexemeKind :=
  .ident "scanf" :: .symbol .openParen :: .string format ::
    ((args.flatMap fun arg => .symbol .comma :: arg) ++ [.symbol .closeParen])

def scanTargets (args : List (List LexemeKind)) : List String :=
  args.filterMap scanTarget?

def targetPlace (args : List (List LexemeKind)) (p : Nat) : Nat :=
  (scanTargets (args.take p)).length

/-- What conversion number `n` of a format asks for; where there is none, an integer. -/
def conversionHint (items : List FormatItem) (n : Nat) : ScanHint :=
  ((items.filterMap FormatItem.hint?)[n]?).getD .integer

theorem recognize_scanCall (order : PrintOrder) {kinds : List LexemeKind} {format : String}
    {args : List (List LexemeKind)} (hkinds : withoutStd kinds = scanCall format args)
    (hargs : ∀ arg ∈ args, .symbol .comma ∉ arg) (hne : scanTargets args ≠ []) :
    recognize order kinds = .statements [.scan (scanTargets args)
      (padHints (scanTargets args).length (ScanFormat.hints format))] := by
  have hbefore : beforeLastClose
      ((args.flatMap fun arg => .symbol .comma :: arg) ++ [.symbol .closeParen]) =
        args.flatMap fun arg => .symbol .comma :: arg := by
    simp [beforeLastClose]
  have hpieces : (args.flatMap fun arg => .symbol .comma :: arg).splitOn (.symbol .comma) =
      [] :: args.map id :=
    splitOn_marked (l := []) hargs List.not_mem_nil
  obtain ⟨first, rest, htargets⟩ := List.exists_cons_of_ne_nil hne
  have hscan : scan (scanCall format args).tail = .statements [.scan (scanTargets args)
      (padHints (scanTargets args).length (ScanFormat.hints format))] := by
    have hcons : args.filterMap scanTarget? = first :: rest := htargets
    simp only [scanCall, List.tail_cons, scan, hbefore, hpieces, List.map_id, hcons, htargets]
  rw [recognize, hkinds]
  exact hscan

/-- What is read off element number `p` stands behind what is read off the elements in front. -/
theorem getElem?_filterMap_take {α β : Type} {f : α → Option β} {xs : List α} {p : Nat} {a : α}
    {b : β} (ha : xs[p]? = some a) (hb : f a = some b) :
    (xs.filterMap f)[((xs.take p).filterMap f).length]? = some b := by
  obtain ⟨hp, rfl⟩ := List.getElem?_eq_some_iff.mp ha
  have hsplit : xs.filterMap f =
      (xs.take p).filterMap f ++ b :: (xs.drop (p + 1)).filterMap f := by
    calc xs.filterMap f
        = (xs.take p ++ xs.drop p).filterMap f := by rw [List.take_append_drop]
      _ = (xs.take p).filterMap f ++ b :: (xs.drop (p + 1)).filterMap f := by
        rw [List.drop_eq_getElem_cons hp, List.filterMap_append, List.filterMap_cons_some hb]
  rw [hsplit, List.getElem?_append_right (Nat.le_refl _), Nat.sub_self, List.getElem?_cons_zero]

theorem getElem?_padHints {n q : Nat} (h : q < n) (hints : List ScanHint) :
    (padHints n hints)[q]? = some (hints[q]?.getD .integer) := by
  by_cases hq : q < hints.length
  · have htake : q < (hints.take n).length := by rw [List.length_take]; omega
    rw [padHints, List.getElem?_append_left htake, List.getElem?_take_of_lt h,
      List.getElem?_eq_getElem hq]
    rfl
  · have htake : (hints.take n).length = hints.length := by rw [List.length_take]; omega
    rw [padHints, List.getElem?_append_right (by omega), htake,
      List.getElem?_replicate_of_lt (by omega), List.getElem?_eq_none (by omega)]
    rfl

/-- A variable keeps the place of its argument where each argument in front names a variable. -/
theorem targetPlace_eq_iff {args : List (List LexemeKind)} {p : Nat} (h : p < args.length) :
    targetPlace args p = p ↔ ∀ arg ∈ args.take p, (scanTarget? arg).isSome = true := by
  have hlength : (args.take p).length = p := List.length_take_of_le (Nat.le_of_lt h)
  unfold targetPlace scanTargets
  rw [← List.filterMap_length_eq_length, hlength]

/-- Each variable has the hint of the conversion that stands where its argument does. -/
def HintsStay (items : List FormatItem) (args : List (List LexemeKind)) (hints : List ScanHint) :
    Prop :=
  ∀ p arg name, args[p]? = some arg → scanTarget? arg = some name →
    hints[targetPlace args p]? = some (conversionHint items p)

/-- A formatted read gives each variable the hint of the conversion that has the place of the
    variable among all variables. This is the place of its argument exactly where each argument
    in front names a variable as well. -/
theorem scan_hints_by_variable (order : PrintOrder) {kinds : List LexemeKind}
    {items : List FormatItem} {args : List (List LexemeKind)}
    (hitems : ∀ item ∈ items, item.Valid) (hargs : ∀ arg ∈ args, .symbol .comma ∉ arg)
    (hkinds : withoutStd kinds = scanCall (formatText items) args) (hne : scanTargets args ≠ []) :
    ∃ hints, recognize order kinds = .statements [.scan (scanTargets args) hints] ∧
      hints.length = (scanTargets args).length ∧
      ∀ p arg name, args[p]? = some arg → scanTarget? arg = some name →
        (scanTargets args)[targetPlace args p]? = some name ∧
        hints[targetPlace args p]? = some (conversionHint items (targetPlace args p)) ∧
        (targetPlace args p = p ↔ ∀ front ∈ args.take p, (scanTarget? front).isSome = true) := by
  have hhints : ScanFormat.hints (formatText items) = items.filterMap FormatItem.hint? := by
    rw [ScanFormat.hints, formatText, String.toList_ofList, hintsFrom_items hitems]
  refine ⟨_, recognize_scanCall order hkinds hargs hne, length_padHints _ _, ?_⟩
  intro p arg name harg hname
  have hplace : (scanTargets args)[targetPlace args p]? = some name :=
    getElem?_filterMap_take harg hname
  have hlt : targetPlace args p < (scanTargets args).length :=
    (List.getElem?_eq_some_iff.mp hplace).1
  refine ⟨hplace, ?_, targetPlace_eq_iff (List.getElem?_eq_some_iff.mp harg).1⟩
  rw [getElem?_padHints hlt, hhints]
  rfl

/-- A format with a doubled percent sign and a width, for three arguments of which the second
    names no variable. -/
def mixedFormat : List FormatItem :=
  [.percent, .conversion ['5', 'l'] 'd', .text [' '], .conversion [] 's', .conversion [] 'c']

def mixedArguments : List (List LexemeKind) :=
  [[.symbol .ampersand, .ident "n"], [.int 3], [.symbol .ampersand, .ident "c"]]

theorem scan_hints_by_variable_mixed :
    ∃ hints, recognize .source (.ident "std" :: .symbol .scope ::
        scanCall (formatText mixedFormat) mixedArguments) =
      .statements [.scan ["n", "c"] hints] ∧ hints[1]? = some .string := by
  have hvalid : ∀ item ∈ mixedFormat, item.Valid := by decide
  have hargs : ∀ arg ∈ mixedArguments, .symbol .comma ∉ arg := by decide
  have hkinds : withoutStd (.ident "std" :: .symbol .scope ::
      scanCall (formatText mixedFormat) mixedArguments) =
        scanCall (formatText mixedFormat) mixedArguments := by decide +kernel
  obtain ⟨hints, hread, -, hall⟩ :=
    scan_hints_by_variable .source hvalid hargs hkinds (by decide)
  exact ⟨hints, hread, (hall 2 _ "c" rfl rfl).2.1⟩

/-- A read of an age through a pointer, and of a name. The first argument is no variable that can
    be stored to. -/
def movedText : String :=
  "scanf(\"%d %s\", &(*age), name)"

def movedFormat : List FormatItem :=
  [.conversion [] 'd', .text [' '], .conversion [] 's']

def movedArguments : List (List LexemeKind) :=
  [[.symbol .ampersand, .symbol .openParen, .unknown "*", .ident "age", .symbol .closeParen],
    [.ident "name"]]

/-- An argument that names no variable moves the hints: the name is read as an integer, though its
    own conversion is that of a text. -/
theorem scan_hints_move :
    (lex movedText).map Lexeme.kind = scanCall (formatText movedFormat) movedArguments ∧
      (∀ item ∈ movedFormat, item.Known) ∧
      recognize .source ((lex movedText).map Lexeme.kind) =
        .statements [.scan ["name"] [.integer]] ∧
      conversionHint movedFormat 1 = .string ∧
      ¬ HintsStay movedFormat movedArguments [.integer] := by
  refine ⟨by decide +kernel, by decide, by decide +kernel, by decide, fun hstay => ?_⟩
  have hname := hstay 1 [.ident "name"] "name" rfl rfl
  revert hname
  decide

end ConsoleLab
