import StoryText.Proofs.Token.Rules

namespace StoryText.Token

open Text (isBlank isEmoji)

/-- Up to a place where the second text ends or has a blank, its first characters are those of the
first text. -/
inductive Shows : Nat → Text → Text → Prop
  | zero (cs ds : Text) : Shows 0 cs ds
  | stop (n : Nat) (cs : Text) {ds : Text} (h : ∀ d ∈ ds.head?, isBlank d = true) : Shows n cs ds
  | next {n : Nat} (c : Char) {cs ds : Text} (h : Shows n cs ds) : Shows (n + 1) (c :: cs) (c :: ds)

namespace Shows

theorem append {cs ds : Text} (h : ∀ n, Shows n cs ds) (s : Text) (n : Nat) :
    Shows n (s ++ cs) (s ++ ds) := by
  induction s generalizing n with
  | nil => exact h n
  | cons c s ih =>
      cases n with
      | zero => exact .zero _ _
      | succ n => exact .next c (ih n)

theorem head {n : Nat} {cs ds : Text} (h : Shows (n + 1) cs ds) {d : Char} (hd : d ∈ ds.head?) :
    d ∈ cs.head? ∨ isBlank d = true := by
  cases h with
  | stop _ _ h => exact .inr (h d hd)
  | next c h => exact .inl hd

theorem nextIs {n : Nat} {cs ds : Text} (h : Shows (n + 1) cs ds) {p : Char → Bool}
    (hb : ∀ d, isBlank d = true → p d = false) (hp : nextIs p cs = false) :
    nextIs p ds = false := by
  cases ds with
  | nil => rfl
  | cons d ds =>
      rcases h.head (d := d) rfl with hd | hd
      · obtain ⟨rest, rfl⟩ := List.head?_eq_some_iff.mp hd
        exact hp
      · exact hb d hd

theorem not_prefix {n : Nat} {cs ds : Text} (h : Shows (n + 2) cs ds) (hn : ¬ ['.', '.'] <+: cs) :
    ¬ ['.', '.'] <+: ds := by
  rintro ⟨rest, rfl⟩
  have hdot : isBlank '.' ≠ true := by decide
  cases h with
  | stop _ _ h => exact hdot (h '.' rfl)
  | next _ h =>
      cases h with
      | stop _ _ h => exact hdot (h '.' rfl)
      | next _ h => exact hn (by simp)

end Shows

theorem not_isDigraph_of_isBlank {d : Char} (hd : isBlank d = true) (c : Char) :
    ¬ IsDigraph c d := by
  rintro (⟨-, rfl⟩ | ⟨-, rfl | rfl⟩) <;> exact absurd hd (by decide)

theorem startsVariable_of_nextIs {back : Lookback} {c : Char} {cs ds : Text}
    (h : nextIs isLetter cs = false → nextIs isLetter ds = false)
    (hc : startsVariable back c cs = false) : startsVariable back c ds = false := by
  cases hn : nextIs isLetter cs with
  | false => simpa [startsVariable, hn, h hn] using hc
  | true =>
      simp only [startsVariable, hn, Bool.and_true, Bool.or_eq_false_iff] at hc
      simp [startsVariable, hc.1, hc.2]

/-- A rule sees two characters behind what it reads, and takes the end of the text for a blank. Only
an apostrophe in a word needs the character behind it, and an open string the end. -/
theorem Reads.replace_rest {macroNames : Bool} {back : Lookback} {t : Token} {s cs ds : Text}
    (h : Reads macroNames back t s cs) (hs : Shows 2 cs ds)
    (hu : t.isUnterminated = true → ds = []) (ha : t = text ['\''] → cs.head? = ds.head?) :
    Reads macroNames back t s ds := by
  cases h with
  | digraph h => exact .digraph h
  | punctuation h hr =>
      refine .punctuation h fun d hd => ?_
      rcases hs.head hd with hd | hd
      · exact hr d hd
      · exact not_isDigraph_of_isBlank hd _
  | ellipsis => exact .ellipsis
  | period hr => exact .period (hs.not_prefix hr)
  | varName hc hw hr => exact .varName hc hw (hs.nextIs (fun _ => isWordChar_of_isBlank) hr)
  | inWord h => exact .inWord ((inWord_congr (ha rfl)).mp h)
  | closed hq hv hk => exact .closed hq hv hk
  | unclosed hq hv => exact hu rfl ▸ .unclosed hq hv
  | number hc hw hr => exact .number hc hw (hs.nextIs (fun _ => isDigit_of_isBlank) hr)
  | emoji hc hd => exact .emoji hc hd
  | assignment hc he => exact .assignment hc he
  | operator hc he hr =>
      refine .operator hc he fun d hd => ?_
      rcases hs.head hd with hd | hd
      · exact hr d hd
      · exact ⟨by rintro rfl; exact absurd hd (by decide), not_isDigraph_of_isBlank hd _⟩
  | macroName hm hc hw => exact .macroName hm hc hw
  | word hc hw hr hm =>
      refine .word hc hw (hs.nextIs (fun _ => isWordChar_of_isBlank) hr) fun h hd => ?_
      rcases hs.head hd with hd | hd
      · exact hm h hd
      · exact absurd hd (by decide)
  | other hc hq hd he ho hl =>
      exact .other hc (startsVariable_of_nextIs (hs.nextIs fun _ => isLetter_of_isBlank) hq) hd he
        ho hl

theorem scan_congr {back back' : Lookback} {c : Char} {cs : Text}
    (ha : c = '\'' → (InWord back cs ↔ InWord back' cs))
    (hq : c = '?' → nextIs isLetter cs = true →
      (back.kind = some .colon ↔ back'.kind = some .colon)) (macroNames : Bool) :
    scan macroNames back c cs = scan macroNames back' c cs := by
  have hv : startsVariable back c cs = startsVariable back' c cs := by
    by_cases hc : c = '?'
    · cases hn : nextIs isLetter cs with
      | false => simp [startsVariable, hn]
      | true =>
          rw [Bool.eq_iff_iff]
          simp [startsVariable, hn, hq hc hn]
    · simp [startsVariable, beq_false_of_ne hc]
  have hp : c = '\'' → apostrophe back cs = apostrophe back' cs := by
    intro hc
    by_cases h : InWord back cs
    · rw [apostrophe_of_inWord h, apostrophe_of_inWord ((ha hc).mp h)]
    · rw [apostrophe_of_not_inWord h, apostrophe_of_not_inWord fun h' => h ((ha hc).mpr h')]
  by_cases hc : c = '\''
  · simp only [scan, hv, hp hc]
  · simp only [scan, hv, if_neg hc]

theorem Reads.eq_text_iff_inWord {macroNames : Bool} {back : Lookback} {t : Token} {w rest : Text}
    (h : Reads macroNames back t ('\'' :: w) rest) :
    t = text ['\''] ↔ InWord back (w ++ rest) := by
  have hs := h.scan_eq
  constructor
  · rintro rfl
    by_contra hw
    rw [scan_of_opensString macroNames (.inl ⟨rfl, hw⟩), quoted] at hs
    split at hs <;> simp at hs
  · intro hw
    rw [scan_of_inWord macroNames hw] at hs
    exact (Lexeme.mk.inj hs).1.symm

theorem Reads.congr {macroNames : Bool} {back back' : Lookback} {t : Token} {c : Char}
    {w rest : Text} (h : Reads macroNames back t (c :: w) rest)
    (ha : c = '\'' → (InWord back (w ++ rest) ↔ InWord back' (w ++ rest)))
    (hq : c = '?' → nextIs isLetter (w ++ rest) = true →
      (back.kind = some .colon ↔ back'.kind = some .colon)) :
    Reads macroNames back' t (c :: w) rest := by
  have hs := h.scan_eq
  rw [scan_congr ha hq macroNames] at hs
  have hr := scan_reads macroNames back' c (w ++ rest)
  rwa [hs] at hr

/-- A rule reads the same behind the same kind of token as long as no letter or digit comes to stand
right before it, and none goes away from an apostrophe in a word. -/
theorem Reads.replace_back {macroNames : Bool} {back back' : Lookback} {t : Token} {s rest : Text}
    (h : Reads macroNames back t s rest) (hk : back.kind = back'.kind)
    (ha : t = text ['\''] → back.char.any Char.isAlphanum = back'.char.any Char.isAlphanum)
    (hc : back'.char.any Char.isAlphanum = true → back.char.any Char.isAlphanum = true) :
    Reads macroNames back' t s rest := by
  obtain ⟨c, w, rfl⟩ := h.exists_cons
  have hw : c = '\'' → (InWord back (w ++ rest) ↔ InWord back' (w ++ rest)) := by
    rintro rfl
    by_cases ht : t = text ['\'']
    · simp only [InWord, hk, ha ht]
    · have hn := mt h.eq_text_iff_inWord.mpr ht
      refine iff_of_false hn fun hn' => hn ?_
      rcases hn' with hn' | ⟨hl, hr⟩
      · exact .inl (hk ▸ hn')
      · exact .inr ⟨hc hl, hr⟩
  exact h.congr hw fun _ _ => by rw [hk]

theorem InWord.nextIs {back : Lookback} {cs : Text} (h : InWord back cs) :
    nextIs Char.isAlphanum cs = true := by
  rcases h with ⟨-, hl⟩ | ⟨-, hr⟩
  · cases cs with
    | nil => exact hl
    | cons c cs => exact isAlphanum_iff.mpr (.inl hl)
  · exact hr

theorem Reads.nextIs_of_apostrophe {macroNames : Bool} {back : Lookback} {s rest : Text}
    (h : Reads macroNames back (text ['\'']) s rest) : nextIs Char.isAlphanum rest = true := by
  cases h with
  | punctuation h hr => exact absurd (kind_of_punctuation? h) (by simp [kind])
  | inWord h => exact h.nextIs
  | word hc hw hr hm => exact absurd hc (by decide)
  | other hc hq hd he ho hl => exact absurd hc (by decide)

theorem eq_string_of_isUnterminated {t : Token} (h : t.isUnterminated = true) :
    t = string t.value true := by
  cases t with
  | string w unterminated => simpa [isUnterminated, value] using h
  | _ => simp [isUnterminated] at h

theorem kind_of_isUnterminated {t : Token} (h : t.isUnterminated = true) : t.kind = .string := by
  rw [eq_string_of_isUnterminated h]
  rfl

theorem Reads.of_isUnterminated {macroNames : Bool} {back : Lookback} {t : Token} {s rest : Text}
    (h : Reads macroNames back t s rest) (ht : t.isUnterminated = true) :
    ∃ q value, t = string value true ∧ s = q :: value ∧ rest = [] ∧ OpensString back q value ∧
      ∀ d ∈ value, d ∉ closers q := by
  cases h with
  | punctuation h hr =>
      have hk := kind_of_punctuation? h
      rw [kind_of_isUnterminated ht] at hk
      exact absurd hk (by decide)
  | unclosed hq hv => exact ⟨_, _, rfl, rfl, rfl, hq, hv⟩
  | _ => simp [isUnterminated] at ht

theorem scan_question_of_colon (macroNames : Bool) {back : Lookback} {cs : Text}
    (hk : back.kind = some .colon) (hn : nextIs isLetter cs = true) :
    (scan macroNames back '?' cs).token = varName ('?' :: cs.takeWhile isWordChar) := by
  rw [scan_of_startsVariable macroNames (by simp [startsVariable, hk, hn])]
  rfl

theorem scan_question_of_not_variable (macroNames : Bool) {back : Lookback} {cs : Text}
    (hv : startsVariable back '?' cs = false) :
    (scan macroNames back '?' cs).token = text ['?'] := by
  have hm : '?' ∉ marks := by decide
  rw [scan_of_not_mark macroNames hm (fun d _ => not_isDigraph_of_not_mark hm (by decide) d) hv]
  rfl

end StoryText.Token
