import Mathlib
import StoryText.Text.Blank
import StoryText.Token.Alphabet

namespace StoryText.Token

open Text (isBlank isEmoji blankRanges emojiRanges)

/-- The characters that a rule of their own takes, ahead of the rules for digits, emoji, operators
and words. -/
def marks : Text := "()[]{}:;,.$_'\"“”".toList

theorem marks_classes : ∀ c ∈ marks, c.isDigit = false ∧ isLetter c = false ∧ isEmoji c = false ∧
    isOperatorChar c = false :=
  List.all_iff_forall_prop.mp (by decide)

theorem isLetter_iff {c : Char} :
    isLetter c = true ↔ 65 ≤ c.toNat ∧ c.toNat ≤ 90 ∨ 97 ≤ c.toNat ∧ c.toNat ≤ 122 := by
  simp [isLetter, Char.isAlpha, Char.isUpper, Char.isLower, UInt32.le_iff_toNat_le]

theorem isDigit_iff {c : Char} : c.isDigit = true ↔ 48 ≤ c.toNat ∧ c.toNat ≤ 57 := by
  simp [Char.isDigit, UInt32.le_iff_toNat_le]

theorem isAlphanum_iff {c : Char} : c.isAlphanum = true ↔ isLetter c = true ∨ c.isDigit = true := by
  simp [Char.isAlphanum, isLetter]

theorem isWordChar_iff {c : Char} :
    isWordChar c = true ↔ isLetter c = true ∨ c.isDigit = true ∨ c = '_' ∨ c = '-' := by
  simp [isWordChar, isAlphanum_iff, or_assoc]

theorem toNat_of_isBlank {c : Char} (h : isBlank c = true) : c.toNat ≤ 32 ∨ 133 ≤ c.toNat := by
  obtain ⟨r, hr, hlo, hhi⟩ := Ranges.contains_iff.mp h
  have hall : ∀ r ∈ blankRanges, r.2 ≤ 32 ∨ 133 ≤ r.1 := by decide
  have := hall r hr
  omega

theorem toNat_of_isEmoji {c : Char} (h : isEmoji c = true) : c.toNat ≤ 57 ∨ 169 ≤ c.toNat := by
  obtain ⟨r, hr, hlo, hhi⟩ := Ranges.contains_iff.mp h
  have hall : ∀ r ∈ emojiRanges, r.2 ≤ 57 ∨ 169 ≤ r.1 := by decide +kernel
  have := hall r hr
  omega

theorem isWordChar_of_isBlank {c : Char} (h : isBlank c = true) : isWordChar c = false := by
  have hc := toNat_of_isBlank h
  rw [Bool.eq_false_iff, Ne, isWordChar_iff, isLetter_iff, isDigit_iff]
  rintro (hl | hd | rfl | rfl)
  · omega
  · omega
  · exact absurd h (by decide)
  · exact absurd h (by decide)

theorem isAlphanum_of_isBlank {c : Char} (h : isBlank c = true) : c.isAlphanum = false := by
  have hw := isWordChar_of_isBlank h
  simp only [isWordChar, Bool.or_eq_false_iff] at hw
  exact hw.1.1

theorem isLetter_of_isBlank {c : Char} (h : isBlank c = true) : isLetter c = false := by
  have ha := isAlphanum_of_isBlank h
  simp only [Char.isAlphanum, Bool.or_eq_false_iff] at ha
  exact ha.1

theorem isDigit_of_isBlank {c : Char} (h : isBlank c = true) : c.isDigit = false := by
  have ha := isAlphanum_of_isBlank h
  simp only [Char.isAlphanum, Bool.or_eq_false_iff] at ha
  exact ha.2

theorem isEmoji_of_isLetter {c : Char} (h : isLetter c = true) : isEmoji c = false := by
  have hc := isLetter_iff.mp h
  rw [Bool.eq_false_iff]
  intro he
  have := toNat_of_isEmoji he
  omega

theorem isOperatorChar_iff {c : Char} : isOperatorChar c = true ↔ c ∈ "+-*/=<>&!%|".toList := by
  simp [isOperatorChar]

theorem isLetter_of_isOperatorChar {c : Char} (h : isOperatorChar c = true) :
    isLetter c = false := by
  have hall : ∀ c ∈ "+-*/=<>&!%|".toList, isLetter c = false :=
    List.all_iff_forall_prop.mp (by decide)
  exact hall c (isOperatorChar_iff.mp h)

theorem isDigit_of_isLetter {c : Char} (h : isLetter c = true) : c.isDigit = false := by
  have hc := isLetter_iff.mp h
  rw [Bool.eq_false_iff, Ne, isDigit_iff]
  omega

theorem isWordChar_of_not_mark {c : Char} (hc : c ∉ marks) (hd : c.isDigit = false)
    (ho : isOperatorChar c = false) (hl : isLetter c = false) : isWordChar c = false := by
  rw [Bool.eq_false_iff, Ne, isWordChar_iff]
  rintro (h | h | rfl | rfl)
  · simp [hl] at h
  · simp [hd] at h
  · exact hc (by decide)
  · exact absurd ho (by decide)

end StoryText.Token
