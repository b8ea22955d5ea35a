import StoryText.Proofs.Text.Lines

namespace StoryText.Text

/-- The text is written as these lines, with a break between neighbours. -/
inductive IsLines : Text → List Text → Prop
  | last {t : Text} (ht : '\n' ∉ t) : IsLines t [t]
  | line {t brk rest : Text} {ls : List Text} (ht : '\n' ∉ t) (hb : IsBreakBehind t brk)
      (hrest : IsLines rest ls) : IsLines (t ++ (brk ++ rest)) (t :: ls)

theorem IsLines.consHead {c : Char} {t : Text} {ls : List Text} (h : IsLines t ls) (hc : c ≠ '\n')
    (hr : c = '\r' → '\n' ∉ t.head?) : IsLines (c :: t) (consHead c ls) := by
  cases h with
  | last ht => exact .last (by simp [Ne.symm hc, ht])
  | @line u brk rest ls ht hb hrest =>
      refine .line (t := c :: u) (by simp [Ne.symm hc, ht]) (hb.imp_right ?_) hrest
      rintro ⟨rfl, hu⟩
      refine ⟨rfl, ?_⟩
      cases u with
      | nil =>
          rw [List.getLast?_singleton, Ne, Option.some.injEq]
          exact fun he => hr he (by simp)
      | cons d u => rwa [List.getLast?_cons_cons]

theorem isLines_lines (s : Text) : IsLines s (lines s) := by
  fun_induction lines s with
  | case1 => exact .last (by simp)
  | case2 t ih => exact .line (t := []) (by simp) (.inl rfl) ih
  | case3 t _ ih => exact .line (t := []) (by simp) (.inr ⟨rfl, by simp⟩) ih
  | case4 c t hr hc ih =>
      refine ih.consHead hc fun hcr hd => ?_
      obtain ⟨t, rfl⟩ := List.head?_eq_some_iff.mp hd
      exact hr t hcr rfl

theorem isLines_iff {s : Text} {ls : List Text} : IsLines s ls ↔ lines s = ls := by
  constructor
  · intro h
    induction h with
    | last ht => exact lines_of_not_mem ht
    | line ht hb _ ih => rw [lines_append_of_break ht hb, ih]
  · rintro rfl
    exact isLines_lines s

theorem not_mem_of_mem_lines {s l : Text} (h : l ∈ lines s) : '\n' ∉ l := by
  have hs := isLines_lines s
  generalize lines s = ls at h hs
  induction hs with
  | last ht => rwa [List.mem_singleton.mp h]
  | line ht _ _ ih =>
      rcases List.mem_cons.mp h with rfl | h
      · exact ht
      · exact ih h

theorem lines_append {a brk : Text} (hb : IsBreakBehind a brk) (b : Text) :
    lines (a ++ (brk ++ b)) = lines a ++ lines b := by
  have ha := isLines_lines a
  generalize lines a = ls at ha
  induction ha with
  | last ht => exact lines_append_of_break ht hb b
  | @line t brk' rest ls ht hb' _ ih =>
      have hrest : IsBreakBehind rest brk := hb.of_append.of_append
      rw [List.append_assoc, List.append_assoc, lines_append_of_break ht hb', ih hrest,
        List.cons_append]

end StoryText.Text
