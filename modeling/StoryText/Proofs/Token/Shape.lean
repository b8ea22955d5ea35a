import StoryText.Proofs.Token.Lookback

namespace StoryText.Token

open Text (isBlank isEmoji)

def IsWord (w : Text) : Prop :=
  ∃ c v, w = c :: v ∧ isLetter c = true ∧ ∀ d ∈ v, isWordChar d = true

/-- A name with its sigil. One with a question mark is not without a letter, and comes behind a
colon only. -/
def IsName (before : Option Kind) (w : Text) : Prop :=
  ∃ c v, w = c :: v ∧ (∀ d ∈ v, isWordChar d = true) ∧
    (c = '$' ∨ c = '_' ∨ c = '?' ∧ nextIs isLetter v = true ∧ before = some .colon)

/-- The characters that no rule but the last one takes. A question mark is among them where no name
starts with it. -/
structure IsSymbol (before : Option Kind) (rest : Text) (c : Char) : Prop where
  blank : isBlank c = false
  wordChar : isWordChar c = false
  mark : c ∉ marks
  emoji : isEmoji c = false
  operatorChar : isOperatorChar c = false
  question : c = '?' → ¬ (before = some .colon ∧ nextIs isLetter rest = true)

def HasShape (macroNames : Bool) (before : Option Kind) (rest : Text) : Token → Prop
  | paren c => c = '(' ∨ c = ')'
  | brace c => c = '{' ∨ c = '}'
  | bracket w => w ∈ [['['], [']'], ['[', '='], ['{', '='], ['=', ']'], ['=', '}']]
  | colon | semicolon | comma | string _ _ => True
  | number w => w ≠ [] ∧ ∀ c ∈ w, c.isDigit = true
  | macroName w => macroNames = true ∧ IsWord w
  | varName w => IsName before w
  | operator w => ∃ c ∈ "+-/=<>&!%|".toList, w = [c] ∨ w = [c, '=']
  | emoji c => isEmoji c = true ∧ c.isDigit = false
  | text w =>
    IsWord w ∨ w = ['.'] ∨ w = ['.', '.', '.'] ∨
      w = ['\''] ∧ nextIs Char.isAlphanum rest = true ∨ ∃ c, w = [c] ∧ IsSymbol before rest c

theorem mem_of_isOperatorChar {c : Char} (h : isOperatorChar c = true) (he : isEmoji c = false) :
    c ∈ "+-/=<>&!%|".toList := by
  have hall : ∀ c ∈ "+-*/=<>&!%|".toList, isEmoji c = true ∨ c ∈ "+-/=<>&!%|".toList :=
    List.all_iff_forall_prop.mp (by decide)
  apply (hall c (isOperatorChar_iff.mp h)).resolve_left
  simp [he]

theorem isName_of_startsVariable {back : Lookback} {c : Char} {w : Text}
    (hc : startsVariable back c w = true) (hw : ∀ d ∈ w, isWordChar d = true) :
    IsName back.kind (c :: w) := by
  refine ⟨c, w, rfl, hw, ?_⟩
  simp only [startsVariable, Bool.or_eq_true, beq_iff_eq, Bool.and_eq_true] at hc
  rcases hc with (rfl | rfl) | ⟨⟨rfl, hk⟩, hn⟩
  · exact .inl rfl
  · exact .inr (.inl rfl)
  · exact .inr (.inr ⟨rfl, hn, hk⟩)

theorem hasShape_of_punctuation? {c : Char} {t : Token} (h : punctuation? c = some t)
    (macroNames : Bool) (before : Option Kind) (rest : Text) :
    HasShape macroNames before rest t := by
  unfold punctuation? at h
  split at h <;> cases h <;> simp [HasShape]

theorem mem_of_isDigraph {c d : Char} (h : IsDigraph c d) :
    [c, d] ∈ [['['], [']'], ['[', '='], ['{', '='], ['=', ']'], ['=', '}']] := by
  rcases h with ⟨rfl | rfl, rfl⟩ | ⟨rfl, rfl | rfl⟩ <;> decide

theorem Reads.hasShape {macroNames : Bool} {back : Lookback} {t : Token} {s rest : Text}
    (h : Reads macroNames back t s rest) (hs : ∀ c ∈ s.head?, isBlank c = false) :
    HasShape macroNames back.kind rest t := by
  cases h with
  | digraph h => exact mem_of_isDigraph h
  | punctuation h hr => exact hasShape_of_punctuation? h macroNames back.kind rest
  | ellipsis => exact .inr (.inr (.inl rfl))
  | period hr => exact .inr (.inl rfl)
  | varName hc hw hr => exact isName_of_startsVariable hc hw
  | inWord h => exact .inr (.inr (.inr (.inl ⟨rfl, h.nextIs⟩)))
  | closed hq hv hk => trivial
  | unclosed hq hv => trivial
  | number hc hw hr => exact ⟨by simp, List.forall_mem_cons.mpr ⟨hc, hw⟩⟩
  | emoji hc hd => exact ⟨hc, hd⟩
  | assignment hc he => exact ⟨_, mem_of_isOperatorChar hc he, .inr rfl⟩
  | operator hc he hr => exact ⟨_, mem_of_isOperatorChar hc he, .inl rfl⟩
  | macroName hm hc hw => exact ⟨hm, _, _, rfl, hc, hw⟩
  | word hc hw hr hm => exact .inl ⟨_, _, rfl, hc, hw⟩
  | other hc hq hd he ho hl =>
      refine .inr (.inr (.inr (.inr ⟨_, rfl, hs _ rfl, isWordChar_of_not_mark hc hd ho hl, hc, he,
        ho, ?_⟩)))
      rintro rfl ⟨hk, hn⟩
      simp [startsVariable, hk, hn] at hq

/-- The shape of every token of a text. -/
theorem tokenizeSpans_shaped {macroNames : Bool} {source : Text} {before after : List Spanned}
    {t : Spanned} (h : tokenizeSpans macroNames source = before ++ t :: after) :
    ∃ rest, source.between? t.stop source.size = some rest ∧
      HasShape macroNames (lastKind before) rest t.token := by
  obtain ⟨front, slice, rest, ht⟩ := exists_stands h
  exact ⟨rest, ht.between?_rest, ht.reads.hasShape ht.head⟩

theorem tokenizeSpans_shaped_question :
    tokenizeSpans false [':', '?', 'w', '-', '!'] =
        [⟨colon, 0, 1⟩] ++ ⟨varName ['?', 'w', '-'], 1, 4⟩ :: [⟨operator ['!'], 4, 5⟩] ∧
      ∃ rest, Text.between? [':', '?', 'w', '-', '!'] 4 5 = some rest ∧
        HasShape false (lastKind [⟨colon, 0, 1⟩]) rest (varName ['?', 'w', '-']) := by
  have h : tokenizeSpans false [':', '?', 'w', '-', '!'] =
      [⟨colon, 0, 1⟩] ++ ⟨varName ['?', 'w', '-'], 1, 4⟩ :: [⟨operator ['!'], 4, 5⟩] := by
    rw [tokenizeSpans_eq_within]
    decide +kernel
  exact ⟨h, tokenizeSpans_shaped h⟩

end StoryText.Token
