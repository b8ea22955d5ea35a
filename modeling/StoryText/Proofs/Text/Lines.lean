import Mathlib
import StoryText.Text.Basic

namespace StoryText.Text

theorem pieces_eq_splitOn (sep : Char) (t : Text) : pieces sep t = t.splitOn sep := by
  induction t with
  | nil => rw [pieces, List.splitOn_nil]
  | cons c t ih =>
      rw [List.splitOn_eq_splitOnP] at ih ⊢
      rw [List.splitOnP_cons_eq_if_modifyHead, pieces, ih]
      by_cases hc : c = sep
      · simp [hc]
      · obtain ⟨p, ps, hp⟩ := List.exists_cons_of_ne_nil (ih ▸ pieces_ne_nil sep t)
        simp [hc, hp, consHead]

theorem pieces_join {sep : Char} {ts : List Text} (hne : ts ≠ []) (h : ∀ t ∈ ts, sep ∉ t) :
    pieces sep (join [sep] ts) = ts := by
  rw [pieces_eq_splitOn]
  exact List.splitOn_intercalate sep h hne

theorem join_pieces (sep : Char) (t : Text) : join [sep] (pieces sep t) = t := by
  rw [pieces_eq_splitOn]
  exact List.intercalate_splitOn sep

theorem not_mem_of_mem_pieces {sep : Char} {t p : Text} (h : p ∈ pieces sep t) : sep ∉ p := by
  induction t generalizing p with
  | nil =>
      obtain rfl : p = [] := by simpa [pieces] using h
      simp
  | cons c t ih =>
      rw [pieces] at h
      split at h
      · rcases List.mem_cons.mp h with rfl | h
        · simp
        · exact ih h
      · next hc =>
          obtain ⟨q, ps, hp⟩ := List.exists_cons_of_ne_nil (pieces_ne_nil sep t)
          rw [hp, consHead] at h
          rcases List.mem_cons.mp h with rfl | h
          · simp [Ne.symm hc, ih (p := q) (by simp [hp])]
          · exact ih (by simp [hp, h])

theorem join_cons {sep t : Text} {ts : List Text} (h : ts ≠ []) :
    join sep (t :: ts) = t ++ (sep ++ join sep ts) := by
  obtain ⟨u, ts, rfl⟩ := List.exists_cons_of_ne_nil h
  rw [join, List.intercalate_cons_cons, List.append_assoc]
  rfl

theorem mem_join {sep : Text} {ts : List Text} {c : Char} (h : c ∈ join sep ts) :
    c ∈ sep ∨ ∃ t ∈ ts, c ∈ t := by
  induction ts with
  | nil => simp [join] at h
  | cons t ts ih =>
      by_cases hne : ts = []
      · exact .inr ⟨t, by simp, by simpa [join, hne] using h⟩
      · rw [join_cons hne, List.mem_append, List.mem_append] at h
        rcases h with h | h | h
        · exact .inr ⟨t, by simp, h⟩
        · exact .inl h
        · refine (ih h).imp_right ?_
          rintro ⟨u, hu, hc⟩
          exact ⟨u, by simp [hu], hc⟩

theorem mem_join_of_mem {sep t : Text} {ts : List Text} {c : Char} (ht : t ∈ ts) (hc : c ∈ t) :
    c ∈ join sep ts := by
  induction ts with
  | nil => simp at ht
  | cons u ts ih =>
      by_cases hne : ts = []
      · subst hne
        obtain rfl := List.mem_singleton.mp ht
        simpa [join] using hc
      · rw [join_cons hne, List.mem_append, List.mem_append]
        rcases List.mem_cons.mp ht with rfl | ht
        · exact .inl hc
        · exact .inr (.inr (ih ht))

theorem mem_of_mem_pieces {sep : Char} {t p : Text} {c : Char} (hp : p ∈ pieces sep t)
    (hc : c ∈ p) : c ∈ t := by
  rw [← join_pieces sep t]
  exact mem_join_of_mem hp hc

theorem lines_cons {c : Char} {t : Text} (hc : c ≠ '\n') (hr : c = '\r' → '\n' ∉ t.head?) :
    lines (c :: t) = consHead c (lines t) := by
  rw [lines, if_neg hc]
  rintro t' rfl rfl
  exact hr rfl rfl

theorem lines_of_not_mem {t : Text} (h : '\n' ∉ t) : lines t = [t] := by
  induction t with
  | nil => rfl
  | cons c t ih =>
      simp only [List.mem_cons, not_or] at h
      rw [lines_cons (Ne.symm h.1) fun _ hd => h.2 (List.mem_of_head? hd), ih h.2, consHead]

/-- What can stand between a line and the next: a line feed, with one carriage return in front of
it. The carriage return may be missing unless the line itself ends in one. -/
def IsBreakBehind (t brk : Text) : Prop :=
  brk = ['\r', '\n'] ∨ brk = ['\n'] ∧ t.getLast? ≠ some '\r'

theorem IsBreakBehind.of_append {s t brk : Text} (h : IsBreakBehind (s ++ t) brk) :
    IsBreakBehind t brk := by
  refine h.imp_right fun ⟨hb, hr⟩ => ⟨hb, fun ht => hr ?_⟩
  rw [List.getLast?_append, ht]
  rfl

theorem lines_append_of_break {t brk : Text} (h : '\n' ∉ t) (hb : IsBreakBehind t brk)
    (rest : Text) : lines (t ++ (brk ++ rest)) = t :: lines rest := by
  induction t with
  | nil => rcases hb with rfl | ⟨rfl, -⟩ <;> simp [lines]
  | cons c t ih =>
      simp only [List.mem_cons, not_or] at h
      have hr : c = '\r' → '\n' ∉ (t ++ (brk ++ rest)).head? := by
        rintro rfl hd
        cases t with
        | nil => rcases hb with rfl | ⟨rfl, hb⟩ <;> simp_all
        | cons d t =>
            obtain rfl : d = '\n' := by simpa using hd
            exact h.2 (by simp)
      rw [List.cons_append, lines_cons (Ne.symm h.1) hr,
        ih h.2 (IsBreakBehind.of_append (s := [c]) hb), consHead]

theorem lines_join {ts : List Text} (hne : ts ≠ []) (h : ∀ t ∈ ts, '\n' ∉ t) :
    lines (join ['\r', '\n'] ts) = ts := by
  induction ts with
  | nil => exact absurd rfl hne
  | cons t ts ih =>
      rw [List.forall_mem_cons] at h
      cases ts with
      | nil =>
          have ht : join ['\r', '\n'] [t] = t := by simp [join]
          rw [ht, lines_of_not_mem h.1]
      | cons u ts =>
          rw [join_cons (by simp), lines_append_of_break h.1 (.inl rfl), ih (by simp) h.2]

end StoryText.Text
