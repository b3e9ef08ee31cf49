/-
  ConsoleLab.Proofs.Session.Keyboard — a session does what is typed.

  Keys are read against a log of the keyboard (`Log`): the answers submitted since the
  program was started last, the line typed since then, how often the program was started
  again, and whether the session was left. The log knows nothing of panes and of drawing;
  what a key means is decided by the run that the logged answers lead to (`Log.run`). Every
  session reached by keys and drawings is the one that its log describes (`Matches.after`).
  Its message is written again by the keys that change the run, and so is never out of date.
  Main fact: `session_follows_keyboard`.
-/

import ConsoleLab.Proofs.Run.Answered
import ConsoleLab.Session.Screen

namespace ConsoleLab.Session

open Pane (SourceScroll VariablesScroll)
open Run (Answered Call)

/-! ## The log of the keyboard -/

inductive Event
  | key (key : Key)
  | draw (layout : Layout)

def on (fuel : Nat) (s : Session) : Event → Session
  | .key key => s.handle fuel key
  | .draw layout => s.settle layout

def after (fuel : Nat) (s : Session) (events : List Event) : Session :=
  events.foldl (on fuel) s

structure Log where
  /-- The answers submitted since the program was started last. -/
  answers : List String
  /-- The characters typed since the last answer, without those that were erased. -/
  line : List Char
  reruns : Nat
  left : Bool
  deriving DecidableEq

namespace Log

def blank : Log := ⟨[], [], 0, false⟩

variable (fuel : Nat) (p : Program) (config : RunConfig)

def run (log : Log) : Run :=
  (Run.begin fuel p.code config).calls fuel (log.answers.map Call.answer)

def typeKey (log : Log) : Key → Log
  | .enter => { log with answers := log.answers ++ [String.ofList log.line], line := [] }
  | .backspace => { log with line := log.line.dropLast }
  | .char c => { log with line := log.line ++ [c] }
  | _ => log

def commandKey (log : Log) (key : Key) : Log :=
  if key = .char 'q' ∨ key = .char 'Q' then { log with left := true }
  else if key = .char 'r' ∨ key = .char 'R' then
    { log with answers := [], line := [], reruns := log.reruns + 1 }
  else log

def press (log : Log) (key : Key) : Log :=
  if key = .escape then { log with left := true }
  else if (log.run fuel p config).status? = some .waiting then log.typeKey key
  else log.commandKey key

def on (log : Log) : Event → Log
  | .key key => log.press fuel p config key
  | .draw _ => log

def ofEvents (events : List Event) : Log :=
  events.foldl (Log.on fuel p config) blank

end Log

namespace Log

variable {fuel : Nat} {p : Program} {config : RunConfig}

/-- The keys that move the focus and the view leave no trace. -/
theorem press_of_view {log : Log} {key : Key} (h : key = .tab ∨ key = .up ∨ key = .down) :
    log.press fuel p config key = log := by
  unfold press
  rcases h with rfl | rfl | rfl
  all_goals
    rw [if_neg (by decide)]
    split <;> rfl

end Log

/-- The session is the one that the log describes. -/
structure Matches (fuel : Nat) (p : Program) (config : RunConfig) (log : Log) (s : Session) :
    Prop where
  program : s.program = p
  settings : s.config = config
  /-- The run was given the logged answers, each while it waited, and nothing else. -/
  answered : Answered fuel (Run.begin fuel p.code config) log.answers s.run
  typed : s.typed = String.ofList log.line
  /-- While the run does not wait, the answer box is empty. -/
  idle : s.run.status? ≠ some .waiting → log.line = []
  runs : s.runs = 1 + log.reruns
  quit : s.quit = log.left
  /-- The message was written after the last change of what it tells. -/
  message : s.message = statusLine s.run.status? (s.run.pending?.map PendingRead.prompt) s.runs

/-! ## Each event is logged -/

variable {fuel : Nat} {p : Program} {config : RunConfig} {log : Log} {s : Session}

theorem pending?_isSome_iff {r : Run} :
    r.pending?.isSome = true ↔ r.status? = some .waiting := by
  rw [Run.status?_eq_waiting_iff, Option.isSome_iff_exists]

namespace Matches

theorem run_eq (h : Matches fuel p config log s) : log.run fuel p config = s.run :=
  h.answered.eq_calls.symm

theorem start (fuel : Nat) (p : Program) (config : RunConfig) (source : String) :
    Matches fuel p config .blank (Session.start fuel p config source) where
  program := rfl
  settings := rfl
  answered := .nil _
  typed := rfl
  idle _ := rfl
  runs := rfl
  quit := rfl
  message := rfl

/-- What changes nothing but the view needs no entry in the log. -/
theorem of_view (h : Matches fuel p config log s) (focus : Focus) (source : SourceScroll)
    (console : Nat) (store : VariablesScroll) :
    Matches fuel p config log { s with
      focus := focus
      sourceScroll := source
      consoleScroll := console
      variablesScroll := store } :=
  { h with }

theorem settle (h : Matches fuel p config log s) (layout : Layout) :
    Matches fuel p config log (s.settle layout) :=
  h.of_view _ _ _ _

theorem leave (h : Matches fuel p config log s) :
    Matches fuel p config { log with left := true } { s with quit := true } :=
  { h with quit := rfl }

theorem submit (h : Matches fuel p config log s) (hw : s.run.status? = some .waiting) :
    Matches fuel p config { log with answers := log.answers ++ [String.ofList log.line], line := [] }
      (s.submit fuel) := by
  rcases Run.answer_cases fuel s.run s.typed with ⟨-, next, ha⟩ | ⟨hn, -⟩
  · have hnext := h.answered.concat hw ha
    rw [h.typed] at hnext
    unfold Session.submit
    rw [ha]
    exact { h with answered := hnext, typed := rfl, idle := fun _ => rfl, message := rfl }
  · exact absurd hw hn

theorem rerun (h : Matches fuel p config log s) :
    Matches fuel p config { log with answers := [], line := [], reruns := log.reruns + 1 }
      (s.rerun fuel) := by
  unfold Session.rerun
  rw [h.program, h.settings]
  exact { h with
    program := rfl
    settings := rfl
    answered := .nil _
    typed := rfl
    idle := fun _ => rfl
    runs := congrArg (· + 1) h.runs
    message := rfl }

theorem typeKey (h : Matches fuel p config log s) (hw : s.run.status? = some .waiting) (key : Key) :
    Matches fuel p config (log.typeKey key) (s.typeKey fuel key) := by
  cases key with
  | enter => exact h.submit hw
  | backspace =>
    have htyped : eraseLast s.typed = String.ofList log.line.dropLast := by
      rw [h.typed, eraseLast, String.toList_ofList]
    exact { h with typed := htyped, idle := fun hn => absurd hw hn }
  | char c =>
    have htyped : s.typed.push c = String.ofList (log.line ++ [c]) := by
      rw [h.typed, ← String.toList_inj, String.toList_push, String.toList_ofList,
        String.toList_ofList]
    exact { h with typed := htyped, idle := fun hn => absurd hw hn }
  | escape | tab | up | down | other => exact h

theorem commandKey (h : Matches fuel p config log s) (key : Key) :
    Matches fuel p config (log.commandKey key) (s.commandKey fuel key) := by
  cases key with
  | char c =>
    unfold Session.commandKey Log.commandKey
    simp only [Key.char.injEq]
    by_cases hq : c = 'q' ∨ c = 'Q'
    · rw [if_pos hq, if_pos hq]
      exact h.leave
    · rw [if_neg hq, if_neg hq]
      by_cases hr : c = 'r' ∨ c = 'R'
      · rw [if_pos hr, if_pos hr]
        exact h.rerun
      · rw [if_neg hr, if_neg hr]
        exact h
  | escape | tab | up | down | enter | backspace | other => exact h

theorem scrollUp (h : Matches fuel p config log s) : Matches fuel p config log s.scrollUp := by
  unfold Session.scrollUp
  split <;> exact h.of_view _ _ _ _

theorem scrollDown (h : Matches fuel p config log s) : Matches fuel p config log s.scrollDown := by
  unfold Session.scrollDown
  split <;> exact h.of_view _ _ _ _

theorem typeOrCommand (h : Matches fuel p config log s) {key : Key} (hkey : key ≠ .escape) :
    Matches fuel p config (log.press fuel p config key)
      (if s.run.pending?.isSome then s.typeKey fuel key else s.commandKey fuel key) := by
  unfold Log.press
  rw [if_neg hkey, h.run_eq]
  by_cases hw : s.run.status? = some .waiting
  · rw [if_pos hw, if_pos (pending?_isSome_iff.mpr hw)]
    exact h.typeKey hw key
  · rw [if_neg hw, if_neg (mt pending?_isSome_iff.mp hw)]
    exact h.commandKey key

theorem handle (h : Matches fuel p config log s) (key : Key) :
    Matches fuel p config (log.press fuel p config key) (s.handle fuel key) := by
  cases key with
  | escape => exact h.leave
  | tab =>
    rw [Log.press_of_view (Or.inl rfl)]
    exact h.of_view _ _ _ _
  | up =>
    rw [Log.press_of_view (Or.inr (Or.inl rfl))]
    exact h.scrollUp
  | down =>
    rw [Log.press_of_view (Or.inr (Or.inr rfl))]
    exact h.scrollDown
  | enter | backspace | char | other => exact h.typeOrCommand (by nofun)

theorem on (h : Matches fuel p config log s) (e : Event) :
    Matches fuel p config (log.on fuel p config e) (s.on fuel e) := by
  cases e with
  | key key => exact h.handle key
  | draw layout => exact h.settle layout

theorem after (h : Matches fuel p config log s) (events : List Event) :
    Matches fuel p config (events.foldl (Log.on fuel p config) log) (s.after fuel events) := by
  induction events generalizing log s with
  | nil => exact h
  | cons e rest ih => exact ih (h.on e)

end Matches

/-! ## What a key can do to the run -/

theorem run_scrollUp (s : Session) : s.scrollUp.run = s.run := by
  unfold scrollUp
  split <;> rfl

theorem run_scrollDown (s : Session) : s.scrollDown.run = s.run := by
  unfold scrollDown
  split <;> rfl

theorem run_commandKey_ne {key : Key} (h : (s.commandKey fuel key).run ≠ s.run) :
    key = .char 'r' ∨ key = .char 'R' := by
  cases key with
  | char c =>
    unfold commandKey at h
    by_cases hq : c = 'q' ∨ c = 'Q'
    · simp only [if_pos hq, ne_eq, not_true_eq_false] at h
    · by_cases hr : c = 'r' ∨ c = 'R'
      · simpa using hr
      · simp only [if_neg hq, if_neg hr, ne_eq, not_true_eq_false] at h
  | escape | tab | up | down | enter | backspace | other => exact absurd rfl h

theorem run_typeKey_ne {key : Key} (h : (s.typeKey fuel key).run ≠ s.run) : key = .enter := by
  cases key with
  | enter => rfl
  | escape | tab | up | down | backspace | char | other => exact absurd rfl h

/-- Only an answer that is submitted and a command to start again change the run. -/
theorem run_handle_ne {key : Key} (h : (s.handle fuel key).run ≠ s.run) :
    (key = .enter ∧ s.run.status? = some .waiting) ∨
      ((key = .char 'r' ∨ key = .char 'R') ∧ s.run.status? ≠ some .waiting) := by
  have hread : ∀ key : Key,
      (if s.run.pending?.isSome then s.typeKey fuel key else s.commandKey fuel key).run ≠ s.run →
        (key = .enter ∧ s.run.status? = some .waiting) ∨
          ((key = .char 'r' ∨ key = .char 'R') ∧ s.run.status? ≠ some .waiting) := by
    intro key hne
    by_cases hw : s.run.status? = some .waiting
    · rw [if_pos (pending?_isSome_iff.mpr hw)] at hne
      exact Or.inl ⟨run_typeKey_ne hne, hw⟩
    · rw [if_neg (mt pending?_isSome_iff.mp hw)] at hne
      exact Or.inr ⟨run_commandKey_ne hne, hw⟩
  cases key with
  | escape | tab => exact absurd rfl h
  | up => exact absurd s.run_scrollUp h
  | down => exact absurd s.run_scrollDown h
  | enter | backspace | char | other => exact hread _ h

/-! ## Whole sessions -/

/-- A key pressed on a screen is drawn before and after. -/
theorem press_eq_after (fuel : Nat) (layout : Layout) (s : Session) (key : Key) :
    s.press fuel layout key = s.after fuel [.draw layout, .key key, .draw layout] := rfl

/-- Whatever keys are pressed and however often it is drawn, under a step limit a session shows the
    run that was given the submitted answers, and the line, the number of runs and the status bar
    that belong to it; it is left by the keys that leave it. No drawing changes the run, nor does a
    key that neither submits an answer nor starts the program again. -/
theorem session_follows_keyboard (p : Program) {config : RunConfig} (hl : config.maxSteps ≠ none)
    (fuel : Nat) (source : String) (events : List Event) :
    let s := (Session.start fuel p config source).after fuel events
    let log := Log.ofEvents fuel p config events
    Answered fuel (Run.begin fuel p.code config) log.answers s.run ∧
      s.run.status? ≠ none ∧
      s.typed = (if s.run.status? = some .waiting then String.ofList log.line else "") ∧
      s.runs = 1 + log.reruns ∧
      s.message = statusLine s.run.status? (s.run.pending?.map PendingRead.prompt) s.runs ∧
      s.quit = log.left ∧
      (∀ layout, (s.settle layout).run = s.run) ∧
      ∀ key, (s.handle fuel key).run ≠ s.run →
        (key = .enter ∧ s.run.status? = some .waiting) ∨
          ((key = .char 'r' ∨ key = .char 'R') ∧ s.run.status? ≠ some .waiting) := by
  intro s log
  have h : Matches fuel p config log s := (Matches.start fuel p config source).after events
  refine ⟨h.answered, h.answered.status?_ne_none hl, ?_, h.runs, h.message, h.quit,
    fun _ => rfl, fun key => run_handle_ne⟩
  by_cases hw : s.run.status? = some .waiting
  · rw [if_pos hw]
    exact h.typed
  · rw [if_neg hw, h.typed, h.idle hw]

def readsOnce : Program := ⟨#[⟨.perform (.read "w" .value), ⟨3, 3⟩⟩], []⟩

/-- An answer that holds the letter of a command, a second run, a letter that is erased, and the
    letter of a command typed while the second run waits. -/
def typedTwice : List Event :=
  [.key (.char 'q'), .key .up, .key .enter, .key (.char 'r'), .draw (.ofSize 80 24),
    .key (.char 'x'), .key .backspace, .key (.char 'q')]

theorem session_follows_keyboard_typedTwice :
    let s := (Session.start 0 readsOnce .default "").after 0 typedTwice
    RunConfig.default.maxSteps ≠ none ∧
      Log.ofEvents 0 readsOnce .default typedTwice = ⟨[], ['q'], 1, false⟩ ∧
      s.typed = "q" ∧ s.runs = 2 ∧ s.quit = false ∧
      s.message = statusLine (some .waiting) (some "enter a value for w") 2 := by
  intro s
  have hl : RunConfig.default.maxSteps ≠ none := by decide
  have hlog : Log.ofEvents 0 readsOnce .default typedTwice = ⟨[], ['q'], 1, false⟩ := by
    decide +kernel
  have hwaits : s.run.status? = some .waiting := by decide +kernel
  have hprompt : s.run.pending?.map PendingRead.prompt = some "enter a value for w" := by
    decide +kernel
  obtain ⟨-, -, htyped, hruns, hmessage, hquit, -⟩ :=
    session_follows_keyboard readsOnce hl 0 "" typedTwice
  rw [hlog] at htyped hruns hquit
  rw [hwaits, hprompt, hruns] at hmessage
  exact ⟨hl, hlog, by rw [htyped, if_pos hwaits], hruns, hquit, hmessage⟩

end ConsoleLab.Session
