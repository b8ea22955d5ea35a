import Mathlib
import StoryText.Text.Basic

namespace StoryText.Text

theorem splitSize?_eq_some_iff {n : Nat} {t a b : Text} :
    splitSize? n t = some (a, b) ↔ t = a ++ b ∧ size a = n := by
  constructor
  · intro h
    fun_induction splitSize? n t generalizing a b with
    | case1 t =>
        obtain ⟨rfl, rfl⟩ := Prod.mk.inj (Option.some.inj h)
        exact ⟨rfl, rfl⟩
    | case2 n => simp at h
    | case3 n c t hc ih =>
        obtain ⟨⟨a', b'⟩, hab, he⟩ := Option.map_eq_some_iff.mp h
        obtain ⟨rfl, rfl⟩ := Prod.mk.inj he
        obtain ⟨rfl, hs⟩ := ih hab
        exact ⟨rfl, by simp only [size_cons, hs]; omega⟩
    | case4 n c t hc => simp at h
  · rintro ⟨rfl, rfl⟩
    exact splitSize?_append a b

def between? (t : Text) (start stop : Nat) : Option Text := do
  let (front, _) ← splitSize? stop t
  let (_, slice) ← splitSize? start front
  some slice

theorem between?_eq_some_iff {t s : Text} {i j : Nat} :
    between? t i j = some s ↔ ∃ a b, t = a ++ s ++ b ∧ size a = i ∧ i + size s = j := by
  simp only [between?, Option.bind_eq_bind, Option.bind_eq_some_iff, Prod.exists,
    splitSize?_eq_some_iff]
  constructor
  · rintro ⟨front, b, ⟨rfl, hj⟩, a, s', ⟨rfl, hi⟩, hs⟩
    obtain rfl := Option.some.inj hs
    rw [size_append] at hj
    exact ⟨a, b, rfl, hi, by omega⟩
  · rintro ⟨a, b, rfl, hi, hj⟩
    exact ⟨a ++ s, b, ⟨rfl, by rw [size_append]; omega⟩, a, s, ⟨rfl, hi⟩, rfl⟩

theorem between?_append (a s b : Text) :
    between? (a ++ s ++ b) (size a) (size (a ++ s)) = some s :=
  between?_eq_some_iff.mpr ⟨a, b, rfl, rfl, (size_append a s).symm⟩

theorem between?_append_end (a b : Text) :
    between? (a ++ b) (size a) (size (a ++ b)) = some b := by
  have h := between?_append a b []
  rwa [List.append_nil] at h

theorem eq_of_size_eq {a b c d : Text} (h : a ++ b = c ++ d) (hs : size a = size c) :
    a = c ∧ b = d := by
  have hc := splitSize?_append c d
  rw [← h, ← hs, splitSize?_append] at hc
  exact Prod.mk.inj (Option.some.inj hc)

theorem exists_append_of_between? {a rest s : Text} {j : Nat}
    (h : between? (a ++ rest) (size a) j = some s) :
    ∃ b, rest = s ++ b ∧ size (a ++ s) = j := by
  obtain ⟨a', b, happ, hi, hj⟩ := between?_eq_some_iff.mp h
  rw [List.append_assoc] at happ
  obtain ⟨rfl, rfl⟩ := eq_of_size_eq happ hi.symm
  exact ⟨b, rfl, by rw [size_append, hj]⟩

theorem size_pos {t : Text} (h : t ≠ []) : 0 < size t := by
  obtain ⟨c, t, rfl⟩ := List.exists_cons_of_ne_nil h
  have := c.utf8Size_pos
  rw [size_cons]
  omega

end StoryText.Text
