import Mathlib
import StoryText.Text.Blank

namespace StoryText.Text

theorem takeWhile_append_of_head? {α : Type} {p : α → Bool} {l rest : List α}
    (hl : ∀ a ∈ l, p a = true) (hr : ∀ a ∈ rest.head?, p a = false) :
    (l ++ rest).takeWhile p = l := by
  rw [List.takeWhile_append_of_pos hl]
  cases rest with
  | nil => simp
  | cons a rest => simp [hr a rfl]

theorem dropWhile_append_of_head? {α : Type} {p : α → Bool} {l rest : List α}
    (hl : ∀ a ∈ l, p a = true) (hr : ∀ a ∈ rest.head?, p a = false) :
    (l ++ rest).dropWhile p = rest := by
  rw [List.dropWhile_append_of_pos hl]
  cases rest with
  | nil => rfl
  | cons a rest => simp [hr a rfl]

theorem eq_false_of_mem_head?_dropWhile {α : Type} {p : α → Bool} {l : List α} {a : α}
    (h : a ∈ (l.dropWhile p).head?) : p a = false := by
  have hd := List.head?_dropWhile_not p l
  rw [Option.mem_def.mp h] at hd
  exact hd

theorem trim_eq_nil_iff {t : Text} : trim t = [] ↔ ∀ c ∈ t, isBlank c = true := by
  constructor
  · intro h
    rw [trim, trimEnd, List.reverse_eq_nil_iff, List.dropWhile_eq_nil_iff] at h
    rw [← List.dropWhile_eq_nil_iff]
    by_contra hne
    have hn := List.head_dropWhile_not isBlank hne
    rw [h _ (List.mem_reverse.mpr (List.head_mem hne))] at hn
    exact absurd hn (by simp)
  · intro h
    rw [trim, trimStart, List.dropWhile_eq_nil_iff.mpr h]
    rfl

section

variable {b : Text} (hb : ∀ c ∈ b, isBlank c = true)
include hb

theorem trim_append_left (t : Text) : trim (b ++ t) = trim t := by
  rw [trim, trimStart, List.dropWhile_append_of_pos hb]
  rfl

theorem trimEnd_append_right (t : Text) : trimEnd (t ++ b) = trimEnd t := by
  have hr : ∀ c ∈ b.reverse, isBlank c = true := by simpa using hb
  rw [trimEnd, List.reverse_append, List.dropWhile_append_of_pos hr, trimEnd]

theorem trim_append_right (t : Text) : trim (t ++ b) = trim t := by
  rw [trim, trimStart, List.dropWhile_append]
  cases h : t.dropWhile isBlank with
  | nil => simp [List.dropWhile_eq_nil_iff.mpr hb, trim, trimStart, h]
  | cons c t' =>
      rw [trim, trimStart, h]
      exact trimEnd_append_right hb (c :: t')

end

theorem exists_trimEnd (t : Text) :
    ∃ e, (∀ c ∈ e, isBlank c = true) ∧ trimEnd t ++ e = t := by
  refine ⟨(t.reverse.takeWhile isBlank).reverse, ?_, ?_⟩
  · intro c hc
    exact List.mem_takeWhile_imp (List.mem_reverse.mp hc)
  · rw [trimEnd, ← List.reverse_append, List.takeWhile_append_dropWhile, List.reverse_reverse]

theorem exists_trim (t : Text) :
    ∃ b e, (∀ c ∈ b, isBlank c = true) ∧ (∀ c ∈ e, isBlank c = true) ∧ b ++ (trim t ++ e) = t := by
  obtain ⟨e, he, hte⟩ := exists_trimEnd (trimStart t)
  refine ⟨t.takeWhile isBlank, e, fun c hc => List.mem_takeWhile_imp hc, he, ?_⟩
  rw [trim, hte, trimStart, List.takeWhile_append_dropWhile]

theorem mem_of_mem_trim {t : Text} {c : Char} (h : c ∈ trim t) : c ∈ t := by
  obtain ⟨b, e, -, -, ht⟩ := exists_trim t
  rw [← ht]
  simp [h]

theorem isBlank_of_getLast?_trim {t : Text} {c : Char} (h : c ∈ (trim t).getLast?) :
    isBlank c = false := by
  rw [trim, trimEnd, List.getLast?_reverse] at h
  exact eq_false_of_mem_head?_dropWhile h

theorem isBlank_of_head?_trim {t : Text} {c : Char} (h : c ∈ (trim t).head?) :
    isBlank c = false := by
  obtain ⟨e, -, he⟩ := exists_trimEnd (trimStart t)
  have hs : (trimStart t).head? = some c := by
    rw [← he, List.head?_append]
    exact Option.or_eq_some_iff.mpr (.inl h)
  exact eq_false_of_mem_head?_dropWhile hs

theorem trimEnd_eq_self {t : Text} (h : ∀ c ∈ t.getLast?, isBlank c = false) : trimEnd t = t := by
  have hr : ∀ c ∈ t.reverse.head?, isBlank c = false := by rwa [List.head?_reverse]
  have hd := dropWhile_append_of_head? (l := []) (by simp) hr
  rw [List.nil_append] at hd
  rw [trimEnd, hd, List.reverse_reverse]

theorem size_trimEnd_le (t : Text) : (trimEnd t).size ≤ t.size := by
  obtain ⟨e, -, he⟩ := exists_trimEnd t
  have hs := congrArg size he
  rw [size_append] at hs
  omega

theorem trim_trim (t : Text) : trim (trim t) = trim t := by
  obtain ⟨b, e, hb, he, ht⟩ := exists_trim t
  conv_rhs => rw [← ht, trim_append_left hb, trim_append_right he]

end StoryText.Text
