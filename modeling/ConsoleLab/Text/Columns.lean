/-
  ConsoleLab.Text.Columns — how many columns of a screen a text takes.

  Each character adds its columns in front of what follows it, so a text may take less
  than its characters by themselves. Without marks and emoji, a line of Latin text takes
  one column for each character (`columns_eq_length`).
-/

import ConsoleLab.Text.Following

namespace ConsoleLab.Text

/-- The columns of a text, and what a character before it sees of it. -/
def measure (cs : List Char) : Int × Following :=
  cs.foldr
    (fun c (columns, following) =>
      let (own, f) := following.before c
      (columns + own, f))
    (0, .nothing)

def columns (cs : List Char) : Nat :=
  (measure cs).1.toNat

/-- Latin text ends in nothing that merges, and each of its characters takes a column. -/
theorem measure_latin {cs : List Char} (h : ∀ c ∈ cs, c.toNat ≤ 0xA0 ∧ c ≠ '\n') :
    measure cs = ((cs.length : Int), Following.nothing) := by
  induction cs with
  | nil => rfl
  | cons c rest ih =>
    obtain ⟨hc, hn⟩ := h c (by simp)
    have hr := ih fun d hd => h d (by simp [hd])
    have own : Following.nothing.before c = (1, .nothing) := by
      have h1 : c ≠ '\ufe0f' := by rintro rfl; exact absurd hc (by decide)
      have h2 : c ≠ '\ufe0e' := by rintro rfl; exact absurd hc (by decide)
      simp [Following.before, Following.nothing, Following.dropEmojiSelector, Tail.before, h1, h2,
        hc, hn]
    simp only [measure, List.foldr_cons] at hr ⊢
    rw [hr]
    simp [own]

/-- A line of Latin text takes one column for each character. -/
theorem columns_eq_length {cs : List Char} (h : ∀ c ∈ cs, c.toNat ≤ 0xA0 ∧ c ≠ '\n') :
    columns cs = cs.length := by
  simp [columns, measure_latin h]

end ConsoleLab.Text
