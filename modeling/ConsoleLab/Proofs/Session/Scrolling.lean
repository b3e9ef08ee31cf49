/-
  ConsoleLab.Proofs.Session.Scrolling — scrolling never loses the view.

  A pane that is drawn settles its scroll state for its height. Whatever the state was, the
  settled one is in bounds: the source pane shows the line that the run has reached
  (`SourceScroll.settle_shows`), and no pane leaves rows empty that it could fill. A settled
  state stays as it is when it is drawn again. The console goes back to its newest line after
  an answer or a new start: the scroll position is then at its limit, and each key takes it
  one line away at most (`FollowsOutput`). Main fact, over all keys and drawings:
  `view_after_draw`.
-/

import ConsoleLab.Proofs.Session.Keyboard

namespace ConsoleLab

/-! ## Panes -/

namespace Pane

theorem Theme.visibleRows_eq {height : Nat} (h : 3 ≤ height) :
    Theme.visibleRows height = height - 2 := by
  unfold Theme.visibleRows
  omega

theorem Theme.one_le_visibleRows (height : Nat) : 1 ≤ Theme.visibleRows height :=
  Nat.le_max_left 1 _

namespace SourceScroll

/-- Of a text of `total` lines, `visible` rows show line `current`, and no row is empty that
    could show a line. -/
structure Shows (s : SourceScroll) (visible total current : Nat) : Prop where
  not_above : s.offset ≤ current - 1
  not_below : current - 1 < s.offset + visible
  long_text : visible < total → s.offset ≤ total - visible
  short_text : total ≤ visible → s.offset = 0

theorem settle_shows (s : SourceScroll) (height : Nat) {total current : Nat} (hone : 1 ≤ current)
    (htotal : current ≤ total) :
    (s.settle height total current).Shows (Theme.visibleRows height) total current := by
  have hrows := Theme.one_le_visibleRows height
  unfold settle
  dsimp only
  rw [if_pos ⟨hone, htotal⟩]
  -- the row at which the line is kept lies inside the pane, whatever was asked for
  generalize hrow : min (s.targetRow.getD (Theme.visibleRows height / 2))
    (Theme.visibleRows height - 1) = row
  have hinside : row ≤ Theme.visibleRows height - 1 := by
    rw [← hrow]
    exact Nat.min_le_right _ _
  by_cases hlong : Theme.visibleRows height < total
  · rw [if_pos hlong]
    constructor <;> dsimp only <;> omega
  · rw [if_neg hlong]
    constructor <;> dsimp only <;> omega

theorem settle_settle (s : SourceScroll) (height total current : Nat) :
    (s.settle height total current).settle height total current =
      s.settle height total current := by
  have hrow : ∀ row visible : Nat, min (min row (visible - 1)) (visible - 1) =
      min row (visible - 1) := by
    intro row visible
    rw [Nat.min_assoc, Nat.min_self]
  unfold settle
  simp only [Option.getD_some, hrow]
  by_cases hcurrent : 0 < current ∧ current ≤ total
  · simp only [if_pos hcurrent]
  · simp only [if_neg hcurrent]

end SourceScroll

namespace ConsoleView

theorem settle_le (scroll height : Nat) {total : Nat} (h : total ≠ 0) :
    settle scroll height total ≤ total - Theme.visibleRows height := by
  rw [settle, if_neg h]
  exact Nat.min_le_right _ _

/-- From a position behind the last line the newest line is shown. -/
theorem settle_eq {scroll total : Nat} (height : Nat) (h : total ≠ 0) (hle : total ≤ scroll) :
    settle scroll height total = total - Theme.visibleRows height := by
  rw [settle, if_neg h]
  omega

theorem settle_settle (scroll height total : Nat) :
    settle (settle scroll height total) height total = settle scroll height total := by
  unfold settle
  split
  · rfl
  · rw [Nat.min_assoc, Nat.min_self]

end ConsoleView

namespace VariablesScroll

theorem settle_le (s : VariablesScroll) (height total : Nat) :
    (s.settle height total).offset ≤ total - Theme.visibleRows height :=
  Nat.min_le_right _ _

/-- At a second drawing no item is new. -/
theorem settle_settle (s : VariablesScroll) (height total : Nat) :
    (s.settle height total).settle height total = s.settle height total := by
  unfold settle
  simp only [Nat.lt_irrefl, false_and, if_false, Nat.min_assoc, Nat.min_self]

end VariablesScroll

end Pane

namespace Session

open Pane (Theme.visibleRows Theme.visibleRows_eq)

/-! ## One drawing -/

/-- The panes of a session that was drawn with this layout show what they should. A pane of
    `height` rows has `height - 2` inside its border. -/
structure InView (layout : Layout) (s : Session) : Prop where
  /-- The line that the run has reached is in the source pane, if the text has it. -/
  source : 3 ≤ layout.source.height → 1 ≤ s.sourceView.current →
    s.sourceView.current ≤ s.sourceView.lines.length →
    s.sourceScroll.Shows (layout.source.height - 2) s.sourceView.lines.length s.sourceView.current
  /-- A console with lines has none of its rows behind the last line. -/
  console : 3 ≤ layout.console.height → 1 ≤ s.run.transcript.lines.length →
    s.consoleScroll ≤ s.run.transcript.lines.length - (layout.console.height - 2)
  store : 3 ≤ layout.store.height →
    s.variablesScroll.offset ≤ s.variablesView.items.length - (layout.store.height - 2)

variable {fuel : Nat} {s : Session}

theorem inView_settle (layout : Layout) (s : Session) : InView layout (s.settle layout) where
  source hheight hone htotal := by
    rw [← Theme.visibleRows_eq hheight]
    exact s.sourceScroll.settle_shows layout.source.height hone htotal
  console hheight hlines := by
    rw [← Theme.visibleRows_eq hheight]
    exact Pane.ConsoleView.settle_le _ _ (Nat.ne_of_gt hlines)
  store hheight := by
    rw [← Theme.visibleRows_eq hheight]
    exact s.variablesScroll.settle_le _ _

theorem settle_eq_self {layout : Layout}
    (hsource : s.sourceScroll.settle layout.source.height s.sourceView.lines.length
      s.sourceView.current = s.sourceScroll)
    (hconsole : Pane.ConsoleView.settle s.consoleScroll layout.console.height
      s.run.transcript.lines.length = s.consoleScroll)
    (hstore : s.variablesScroll.settle layout.store.height s.variablesView.items.length =
      s.variablesScroll) :
    s.settle layout = s := by
  unfold settle
  dsimp only
  rw [hsource, hconsole, hstore]

/-- What is shown does not depend on the scroll states, so a second drawing changes nothing. -/
theorem settle_settle (layout : Layout) (s : Session) :
    (s.settle layout).settle layout = s.settle layout :=
  settle_eq_self (s.sourceScroll.settle_settle _ _ _) (Pane.ConsoleView.settle_settle _ _ _)
    (s.variablesScroll.settle_settle _ _)

/-! ## The newest line -/

def Resumes (s : Session) (key : Key) : Prop :=
  (key = .enter ∧ s.run.status? = some .waiting) ∨
    ((key = .char 'r' ∨ key = .char 'R') ∧ s.run.status? ≠ some .waiting)

/-- The console is at most `keys` lines away from the position that stands for the newest
    output. -/
def FollowsOutput (keys : Nat) (s : Session) : Prop :=
  scrollLimit ≤ s.consoleScroll + keys

/-- A key that moves neither the focus nor the view is a part of the answer or a command. -/
theorem handle_char (c : Char) :
    s.handle fuel (.char c) =
      if s.run.pending?.isSome then s.typeKey fuel (.char c) else s.commandKey fuel (.char c) :=
  rfl

theorem Resumes.followsOutput {key : Key} (h : s.Resumes key) (fuel : Nat) :
    (s.handle fuel key).FollowsOutput 0 := by
  rcases h with ⟨rfl, hw⟩ | ⟨hkey, hw⟩
  · have hhandle : s.handle fuel .enter = s.submit fuel := if_pos (pending?_isSome_iff.mpr hw)
    rw [hhandle]
    exact Nat.le_refl _
  · have hidle : ¬ s.run.pending?.isSome = true := mt pending?_isSome_iff.mp hw
    have hhandle : s.handle fuel key = s.rerun fuel := by
      rcases hkey with rfl | rfl
      all_goals
        rw [handle_char, if_neg hidle]
        rfl
    rw [hhandle]
    exact Nat.le_refl _

theorem consoleScroll_typeKey (fuel : Nat) (s : Session) (key : Key) :
    (s.typeKey fuel key).consoleScroll = s.consoleScroll ∨
      (s.typeKey fuel key).consoleScroll = scrollLimit := by
  cases key with
  | enter => exact Or.inr rfl
  | escape | tab | up | down | backspace | char | other => exact Or.inl rfl

theorem consoleScroll_commandKey (fuel : Nat) (s : Session) (key : Key) :
    (s.commandKey fuel key).consoleScroll = s.consoleScroll ∨
      (s.commandKey fuel key).consoleScroll = scrollLimit := by
  cases key with
  | char c =>
    unfold commandKey
    dsimp only
    split
    · exact Or.inl rfl
    · split
      · exact Or.inr rfl
      · exact Or.inl rfl
  | escape | tab | up | down | enter | backspace | other => exact Or.inl rfl

/-- No key takes the console further away from the newest output than by one line. -/
theorem consoleScroll_handle (fuel : Nat) (s : Session) (key : Key) :
    min s.consoleScroll scrollLimit ≤ (s.handle fuel key).consoleScroll + 1 := by
  have hread : ∀ key : Key,
      min s.consoleScroll scrollLimit ≤
        (if s.run.pending?.isSome then s.typeKey fuel key
          else s.commandKey fuel key).consoleScroll + 1 := by
    intro key
    have htype := consoleScroll_typeKey fuel s key
    have hcommand := consoleScroll_commandKey fuel s key
    split <;> omega
  cases key with
  | escape | tab =>
    change _ ≤ s.consoleScroll + 1
    omega
  | up =>
    change _ ≤ s.scrollUp.consoleScroll + 1
    unfold scrollUp
    split <;> dsimp only <;> omega
  | down =>
    change _ ≤ s.scrollDown.consoleScroll + 1
    unfold scrollDown
    split <;> dsimp only <;> omega
  | enter | backspace | char | other => exact hread _

theorem FollowsOutput.handle {keys : Nat} (h : s.FollowsOutput keys) (fuel : Nat) (key : Key) :
    (s.handle fuel key).FollowsOutput (keys + 1) := by
  have hstep := consoleScroll_handle fuel s key
  unfold FollowsOutput at *
  omega

theorem FollowsOutput.after {n : Nat} (h : s.FollowsOutput n) (fuel : Nat) (keys : List Key) :
    (s.after fuel (keys.map .key)).FollowsOutput (n + keys.length) := by
  induction keys generalizing n s with
  | nil => exact h
  | cons key keys ih =>
    have hrest := ih (h.handle fuel key)
    rw [List.length_cons, ← Nat.add_assoc, Nat.add_right_comm]
    exact hrest

/-! ## Whole sessions -/

theorem after_append (fuel : Nat) (s : Session) (events events' : List Event) :
    s.after fuel (events ++ events') = (s.after fuel events).after fuel events' :=
  List.foldl_append

/-- Whatever keys were pressed and whatever was drawn before, at whatever sizes, after a drawing
    the panes show what they should, and drawing again changes nothing. The first drawing after
    an answer or a new start shows the newest line of the console, also when keys are pressed
    before it: each of them moves the view by one line, and it would take as many keys as there
    are numbers of 64 bits to bring it up to the last line. -/
theorem view_after_draw (fuel : Nat) (p : Program) (config : RunConfig) (source : String)
    (events : List Event) (layout : Layout) :
    let start := Session.start fuel p config source
    let s := start.after fuel (events ++ [.draw layout])
    InView layout s ∧ s.after fuel [.draw layout] = s ∧
      ∀ (before : List Event) (key : Key) (keys : List Key),
        events = before ++ .key key :: keys.map .key →
        (start.after fuel before).Resumes key →
        1 ≤ s.run.transcript.lines.length →
        s.run.transcript.lines.length + keys.length ≤ scrollLimit →
        3 ≤ layout.console.height →
        s.consoleScroll = s.run.transcript.lines.length - (layout.console.height - 2) := by
  intro start s
  have hs : s = (start.after fuel events).settle layout := after_append fuel start events _
  rw [hs]
  refine ⟨inView_settle layout _, settle_settle layout _, ?_⟩
  rintro before key keys rfl hkey hlines hlimit hheight
  have hfollows : (start.after fuel (before ++ .key key :: keys.map .key)).FollowsOutput
      (0 + keys.length) := by
    rw [after_append]
    exact (hkey.followsOutput fuel).after fuel keys
  rw [← Theme.visibleRows_eq hheight]
  refine Pane.ConsoleView.settle_eq _ (Nat.ne_of_gt hlines) ?_
  unfold FollowsOutput at hfollows
  change (start.after fuel _).run.transcript.lines.length + _ ≤ _ at hlimit
  omega

def readsOnceText : String :=
  "int main() \x7b\n  string w;\n  cin >> w;\n\x7d\n"

/-- The console gets the focus, an answer is typed and submitted, and the console is scrolled
    before it is drawn again. -/
def scrolledBack : List Event :=
  [.draw (.ofSize 80 24), .key .tab, .key (.char 'q')] ++
    .key .enter :: [Key.up, Key.up].map .key

/-- On a low screen there is one row for the two lines of the console, and three for the four
    lines of the text. -/
theorem view_after_draw_scrolledBack :
    let layout := Layout.ofSize 40 12
    let s := (Session.start 0 readsOnce .default readsOnceText).after 0
      (scrolledBack ++ [.draw layout])
    (layout.source.height = 5 ∧ layout.console.height = 3 ∧ layout.store.height = 8) ∧
      (s.sourceView.current = 3 ∧ s.sourceView.lines.length = 4 ∧
        s.run.transcript.lines.length = 2) ∧
      s.sourceScroll.Shows 3 4 3 ∧ s.consoleScroll = 1 ∧
      s.variablesScroll.offset ≤ s.variablesView.items.length - 6 ∧
      s.after 0 [.draw layout] = s := by
  intro layout s
  have hheights : layout.source.height = 5 ∧ layout.console.height = 3 ∧
      layout.store.height = 8 := by decide
  have hlines : s.sourceView.current = 3 ∧ s.sourceView.lines.length = 4 ∧
      s.run.transcript.lines.length = 2 := by decide +kernel
  have hkey : ((Session.start 0 readsOnce .default readsOnceText).after 0
      [.draw (.ofSize 80 24), .key .tab, .key (.char 'q')]).Resumes .enter :=
    Or.inl ⟨rfl, by decide +kernel⟩
  obtain ⟨hview, hagain, hnewest⟩ :=
    view_after_draw 0 readsOnce .default readsOnceText scrolledBack layout
  change InView layout s at hview
  obtain ⟨hsource, hconsole, hstore⟩ := hheights
  obtain ⟨hcurrent, htext, htranscript⟩ := hlines
  have hshows := hview.source (by omega) (by omega) (by omega)
  rw [hsource, htext, hcurrent] at hshows
  have hscroll : s.consoleScroll = s.run.transcript.lines.length - (layout.console.height - 2) :=
    hnewest _ _ _ rfl hkey (by decide +kernel) (by decide +kernel) (by omega)
  rw [htranscript, hconsole] at hscroll
  have hitems := hview.store (by omega)
  rw [hstore] at hitems
  exact ⟨⟨hsource, hconsole, hstore⟩, ⟨hcurrent, htext, htranscript⟩, hshows, hscroll, hitems,
    hagain⟩

end Session

end ConsoleLab
