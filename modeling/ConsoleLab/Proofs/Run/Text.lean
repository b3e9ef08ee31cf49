/-
  ConsoleLab.Proofs.Run.Text — the text of a transcript.

  Each way to add to a transcript, as a fact about its text: a print and an echo append
  what they show (`text_print`, `text_echo`), a message appends itself on a line of its
  own (`text_system`). Without the messages the same holds of the program text, which a
  message leaves as it is.
-/

import ConsoleLab.Run.Transcript

namespace ConsoleLab.Transcript

open Source (Location)

/-- What has to be shown behind `text` for the next character to start a line. -/
def lineBreakAfter (text : String) : String :=
  if text = "" ∨ text.toList.getLast? = some '\n' then "" else "\n"

theorem joinTexts_append (front back : List Entry) :
    joinTexts (front ++ back) = joinTexts front ++ joinTexts back := by
  have h : ∀ (back : List Entry) (out : String),
      back.foldl (fun out entry => out ++ entry.text) out = out ++ joinTexts back := by
    intro back
    induction back with
    | nil => intro out; simp [joinTexts]
    | cons entry rest ih =>
      intro out
      rw [joinTexts, List.foldl_cons, List.foldl_cons, ih, ih, String.empty_append,
        String.append_assoc]
  rw [joinTexts, List.foldl_append, h]
  rfl

theorem joinTexts_singleton (entry : Entry) : joinTexts [entry] = entry.text := by
  simp [joinTexts]

theorem text_cons (entry : Entry) (rest : List Entry) :
    text ⟨entry :: rest⟩ = text ⟨rest⟩ ++ entry.text := by
  simp [text, entries, joinTexts_append, joinTexts_singleton]

theorem programText_cons (entry : Entry) (rest : List Entry) :
    programText ⟨entry :: rest⟩ =
      programText ⟨rest⟩ ++ if entry.stream = .system then "" else entry.text := by
  by_cases h : entry.stream = .system
  · simp [programText, entries, h]
  · simp [programText, entries, h, joinTexts_append, joinTexts_singleton]

/-- The next character starts a line if nothing was shown or a newline was shown last. -/
theorem atLineStart_iff (t : Transcript) :
    t.atLineStart = true ↔ t.text = "" ∨ t.text.toList.getLast? = some '\n' := by
  obtain ⟨newest⟩ := t
  induction newest with
  | nil => simp [atLineStart, text, entries, joinTexts]
  | cons entry rest ih =>
    rw [text_cons]
    by_cases h : entry.text = ""
    · rw [h, String.append_empty, ← ih]
      simp [atLineStart, h]
    · have hne : entry.text.toList ≠ [] := by simpa using h
      have hlast := List.getLast?_eq_some_getLast hne
      simp [atLineStart, h, String.toList_append, List.getLast?_append, hlast]

theorem text_system (t : Transcript) (message : String) :
    (t.system message).text = t.text ++ lineBreakAfter t.text ++ message ++ "\n" := by
  obtain ⟨newest⟩ := t
  by_cases h : (Transcript.mk newest).atLineStart = true
  · have hb := (atLineStart_iff ⟨newest⟩).mp h
    simp [system, h, lineBreakAfter, hb, text_cons, Entry.text, String.append_assoc]
  · have hb := mt (atLineStart_iff ⟨newest⟩).mpr h
    simp [system, h, lineBreakAfter, hb, text_cons, Entry.text, String.append_assoc]

theorem text_echo (t : Transcript) (value : String) :
    (t.echo value).text = t.text ++ value ++ "\n" := by
  simp [echo, text_cons, Entry.text, String.append_assoc]

/-- A print adds its text, to the newest entry if that is of the same statement and else as an
    entry of its own. -/
theorem print_cases (t : Transcript) (shown : String) (place : Location) :
    (shown = "" ∧ t.print shown place = t) ∨
      (∃ old rest, t = ⟨.program old place :: rest⟩ ∧
        t.print shown place = ⟨.program (old ++ shown) place :: rest⟩) ∨
      (shown ≠ "" ∧ (∀ entry ∈ t.newestFirst.head?, entry.place? ≠ some place) ∧
        t.print shown place = ⟨.program shown place :: t.newestFirst⟩) := by
  obtain ⟨newest⟩ := t
  by_cases h : shown = ""
  · exact Or.inl ⟨h, by simp [print, h]⟩
  · have he : shown.isEmpty = false := by simpa using h
    refine Or.inr ?_
    cases newest with
    | nil => exact Or.inr ⟨h, by simp, by simp [print, he]⟩
    | cons entry rest =>
      cases entry with
      | program old there =>
        by_cases hp : there = place
        · subst hp
          exact Or.inl ⟨old, rest, rfl, by simp [print, he]⟩
        · exact Or.inr ⟨h, by simp [Entry.place?, hp], by simp [print, he, hp]⟩
      | echo typed => exact Or.inr ⟨h, by simp [Entry.place?], by simp [print, he]⟩
      | system message => exact Or.inr ⟨h, by simp [Entry.place?], by simp [print, he]⟩

theorem text_print (t : Transcript) (shown : String) (place : Location) :
    (t.print shown place).text = t.text ++ shown := by
  rcases print_cases t shown place with ⟨rfl, h⟩ | ⟨old, rest, rfl, h⟩ | ⟨-, -, h⟩
  · rw [h, String.append_empty]
  · rw [h, text_cons, text_cons, Entry.text, Entry.text, String.append_assoc]
  · rw [h, text_cons, Entry.text]

/-! ## Without the messages -/

theorem programText_print (t : Transcript) (shown : String) (place : Location) :
    (t.print shown place).programText = t.programText ++ shown := by
  rcases print_cases t shown place with ⟨rfl, h⟩ | ⟨old, rest, rfl, h⟩ | ⟨-, -, h⟩
  · rw [h, String.append_empty]
  · rw [h, programText_cons, programText_cons]
    simp [Entry.stream, Entry.text, String.append_assoc]
  · rw [h, programText_cons]
    simp [Entry.stream, Entry.text]

theorem programText_echo (t : Transcript) (value : String) :
    (t.echo value).programText = t.programText ++ value ++ "\n" := by
  simp [echo, programText_cons, Entry.stream, Entry.text, String.append_assoc]

theorem programText_system (t : Transcript) (message : String) :
    (t.system message).programText = t.programText := by
  unfold system
  split <;> simp [programText_cons, Entry.stream]

/-! ## Whether the program printed something -/

theorem hasOutput_print (t : Transcript) {shown : String} (h : shown ≠ "") (place : Location) :
    (t.print shown place).hasOutput = true := by
  rcases print_cases t shown place with ⟨rfl, -⟩ | ⟨old, rest, rfl, hp⟩ | ⟨-, -, hp⟩
  · exact absurd rfl h
  · simp [hp, hasOutput, Entry.isOutput, h]
  · simp [hp, hasOutput, Entry.isOutput, h]

theorem hasOutput_echo (t : Transcript) (value : String) :
    (t.echo value).hasOutput = t.hasOutput := rfl

end ConsoleLab.Transcript
