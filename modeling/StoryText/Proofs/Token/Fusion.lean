import StoryText.Proofs.Text.Between
import StoryText.Proofs.Token.Stream
import StoryText.Token.Cursor

namespace StoryText.Token

open Text (isBlank)

def fused? (t u : Spanned) : Option Spanned :=
  match t.token, u.token with
  | text w, colon =>
    if nextIs isLetter w = true ∧ u.start = t.stop ∧ u.stop = t.stop + 1 then
      some ⟨macroName w, t.start, u.stop⟩
    else none
  | _, _ => none

def fuse : List Spanned → List Spanned
  | [] => []
  | [t] => [t]
  | t :: u :: ts =>
    match fused? t u with
    | some x => x :: fuse ts
    | none => t :: fuse (u :: ts)

/-- Somewhere a name with a question mark comes behind a word and a colon that touches it. -/
def AsksAfterWord (ts : List Spanned) : Prop :=
  ∃ w a b v c d, [⟨text w, a, b⟩, ⟨colon, b, b + 1⟩, ⟨varName v, c, d⟩] <:+: ts ∧
    nextIs isLetter w = true ∧ v.head? = some '?'

theorem fused?_eq_some_iff {t u x : Spanned} :
    fused? t u = some x ↔ ∃ w a b, nextIs isLetter w = true ∧ t = ⟨text w, a, b⟩ ∧
      u = ⟨colon, b, b + 1⟩ ∧ x = ⟨macroName w, a, b + 1⟩ := by
  constructor
  · obtain ⟨t, a, b⟩ := t
    obtain ⟨u, c, d⟩ := u
    intro h
    unfold fused? at h
    split at h
    · next w ht hu =>
        simp only at ht hu h
        subst ht hu
        split at h
        · next hw =>
            obtain ⟨hw, rfl, rfl⟩ := hw
            exact ⟨w, a, _, hw, rfl, rfl, (Option.some.inj h).symm⟩
        · simp at h
    · simp at h
  · rintro ⟨w, a, b, hw, rfl, rfl, rfl⟩
    simp [fused?, hw]

theorem fuse_cons_of_none {t : Spanned} {ts : List Spanned}
    (h : ∀ u ∈ ts.head?, fused? t u = none) : fuse (t :: ts) = t :: fuse ts := by
  cases ts with
  | nil => rfl
  | cons u ts => rw [fuse, h u rfl]

theorem asksAfterWord_cons_of_none {t : Spanned} {ts : List Spanned}
    (h : ∀ u ∈ ts.head?, fused? t u = none) : AsksAfterWord (t :: ts) ↔ AsksAfterWord ts := by
  constructor
  · rintro ⟨w, a, b, v, c, d, hi, hw, hv⟩
    rcases List.infix_cons_iff.mp hi with hp | hi
    · obtain ⟨rest, hp⟩ := hp
      simp only [List.cons_append, List.cons.injEq] at hp
      obtain ⟨rfl, rfl⟩ := hp
      have hf := fused?_eq_some_iff.mpr ⟨w, a, b, hw, rfl, rfl, rfl⟩
      simp [h _ rfl] at hf
    · exact ⟨w, a, b, v, c, d, hi, hw, hv⟩
  · rintro ⟨w, a, b, v, c, d, hi, hw, hv⟩
    exact ⟨w, a, b, v, c, d, List.infix_cons hi, hw, hv⟩

theorem fuse_word_colon {w : Text} (hw : nextIs isLetter w = true) (a b : Nat)
    (ts : List Spanned) :
    fuse (⟨text w, a, b⟩ :: ⟨colon, b, b + 1⟩ :: ts) = ⟨macroName w, a, b + 1⟩ :: fuse ts := by
  rw [fuse, fused?_eq_some_iff.mpr ⟨w, a, b, hw, rfl, rfl, rfl⟩]

theorem asksAfterWord_word_colon {w : Text} (hw : nextIs isLetter w = true) (a b : Nat)
    (ts : List Spanned) :
    AsksAfterWord (⟨text w, a, b⟩ :: ⟨colon, b, b + 1⟩ :: ts) ↔
      (∃ v, (ts.map Spanned.token).head? = some (varName v) ∧ v.head? = some '?') ∨
        AsksAfterWord ts := by
  have hc : AsksAfterWord (⟨colon, b, b + 1⟩ :: ts) ↔ AsksAfterWord ts := by
    refine asksAfterWord_cons_of_none fun u _ => ?_
    rw [Option.eq_none_iff_forall_ne_some]
    intro x hx
    obtain ⟨w, a, b, -, h, -⟩ := fused?_eq_some_iff.mp hx
    simp at h
  rw [← hc]
  constructor
  · rintro ⟨w', a', b', v, c, d, hi, hw', hv⟩
    rcases List.infix_cons_iff.mp hi with hp | hi
    · obtain ⟨rest, hp⟩ := hp
      simp only [List.cons_append, List.nil_append, List.cons.injEq] at hp
      obtain ⟨-, -, rfl⟩ := hp
      exact .inl ⟨v, rfl, hv⟩
    · exact .inr ⟨w', a', b', v, c, d, hi, hw', hv⟩
  · rintro (⟨v, hh, hv⟩ | ⟨w', a', b', v, c, d, hi, hw', hv⟩)
    · obtain ⟨rest, hts⟩ := List.head?_eq_some_iff.mp hh
      obtain ⟨⟨t, c, d⟩, rest, rfl, rfl, -⟩ := List.map_eq_cons_iff.mp hts
      exact ⟨w, a, b, v, c, d, ⟨[], rest, rfl⟩, hw, hv⟩
    · exact ⟨w', a', b', v, c, d, List.infix_cons hi, hw', hv⟩

theorem Reads.recognise {back : Lookback} {t : Token} {s rest : Text}
    (h : Reads false back t s rest)
    (hn : ∀ w, t = text w → nextIs isLetter w = true → ':' ∉ rest.head?) :
    Reads true back t s rest := by
  cases h with
  | digraph h => exact .digraph h
  | punctuation h hr => exact .punctuation h hr
  | ellipsis => exact .ellipsis
  | period hr => exact .period hr
  | varName hc hw hr => exact .varName hc hw hr
  | inWord h => exact .inWord h
  | closed hq hv hk => exact .closed hq hv hk
  | unclosed hq hv => exact .unclosed hq hv
  | number hc hw hr => exact .number hc hw hr
  | emoji hc hd => exact .emoji hc hd
  | assignment hc he => exact .assignment hc he
  | operator hc he hr => exact .operator hc he hr
  | macroName hm hc hw => simp at hm
  | word hc hw hr hm => exact .word hc hw hr fun _ => hn _ rfl hc
  | other hc hq hd he ho hl => exact .other hc hq hd he ho hl

theorem Reads.macroName_of_word {back : Lookback} {w s rest : Text}
    (h : Reads false back (text w) s (':' :: rest)) (hw : nextIs isLetter w = true) :
    s = w ∧ Reads true back (Token.macroName w) (w ++ [':']) rest := by
  cases h with
  | punctuation h hr => exact absurd (kind_of_punctuation? h) (by simp [kind])
  | ellipsis => exact absurd hw (by decide)
  | period hr => exact absurd hw (by decide)
  | inWord h => exact absurd hw (by decide)
  | word hc hws hr hm => exact ⟨rfl, .macroName rfl hc hws⟩
  | other hc hq hd he ho hl => simp [nextIs, hl] at hw

theorem next?_colon (macroNames : Bool) (back : Lookback) (rest : Text) :
    next? macroNames back (':' :: rest) = some (⟨[], colon, [':']⟩, rest) := by
  refine next?_eq_some_iff.mpr ⟨rfl, by simp, ?_, .punctuation rfl fun d _ => ?_⟩
  · rintro c hc
    obtain rfl := Option.some.inj hc
    decide
  · exact not_isDigraph_of_not_mem (by decide) d

theorem fused?_of_not_colon {back : Lookback} {t : Spanned} {rest : Text}
    (h : ∀ w, t.token = text w → nextIs isLetter w = true → ':' ∉ rest.head?) :
    ∀ u ∈ (spans t.stop (segments false back rest)).head?, fused? t u = none := by
  intro u hu
  rw [Option.eq_none_iff_forall_ne_some]
  intro x hx
  obtain ⟨w, a, b, hw, rfl, rfl, rfl⟩ := fused?_eq_some_iff.mp hx
  cases hn : next? false back rest with
  | none => simp [segments_of_next?_none hn, spans] at hu
  | some p =>
      obtain ⟨g, rest'⟩ := p
      obtain ⟨happ, hf⟩ := next?_eq_some_iff.mp hn
      simp only [segments_of_next?_some hn, spans, List.head?_cons, Option.mem_some_iff,
        Spanned.mk.injEq] at hu
      obtain ⟨ht, hgap, -⟩ := hu
      have hr := hf.reads
      rw [ht] at hr
      have hg : g.gap = [] := by
        by_contra hne
        have := Text.size_pos hne
        omega
      rw [hg, hr.slice_eq_value (by simp [kind]) (by simp [kind])] at happ
      exact h w rfl hw (by simp [← happ, value])

theorem head_question_iff (offset : Nat) (c : Option Char) (s : Text) :
    (∃ v, ((spans offset (segments false ⟨some .colon, c⟩ s)).map Spanned.token).head? =
      some (varName v) ∧ v.head? = some '?') ↔ Begins '?' s := by
  rw [map_token_spans]
  constructor
  · rintro ⟨v, hh, hv⟩
    cases hd : s.dropWhile isBlank with
    | nil =>
        have hb := List.dropWhile_eq_nil_iff.mp hd
        simp [segments_of_next?_none (next?_eq_none_iff.mpr hb)] at hh
    | cons d cs =>
        rw [head?_segments hd, Option.some.injEq] at hh
        have hr := scan_reads false (Lookback.past ⟨some .colon, c⟩ (s.takeWhile isBlank)) d cs
        have hs := (scan_covers false (Lookback.past ⟨some .colon, c⟩ (s.takeWhile isBlank)) d
          cs).head?
        rw [hh] at hr
        rw [hr.slice_eq_value (by simp [kind]) (by simp [kind]), value, hv] at hs
        obtain rfl := Option.some.inj hs
        refine ⟨cs, hd, ?_⟩
        by_contra hn
        rw [scan_question_of_not_variable false (by simp [startsVariable, hn])] at hh
        simp at hh
  · rintro ⟨cs, hd, hn⟩
    refine ⟨'?' :: cs.takeWhile isWordChar, ?_, rfl⟩
    rw [head?_segments hd, scan_question_of_colon false rfl hn]

theorem segments_macroName_eq_colon {s : Text} (c : Option Char) (hs : ¬ Begins '?' s) :
    segments true ⟨some .macroName, c⟩ s = segments true ⟨some .colon, c⟩ s := by
  refine segments_congr (by rfl) ?_ ?_ true
  · simp
  · exact fun h => absurd h hs

theorem fused?_of_varName {t : Spanned} {v : Text} (ht : t.token = varName v) (u : Spanned) :
    fused? t u = none := by
  rw [Option.eq_none_iff_forall_ne_some]
  intro x hx
  obtain ⟨w, a, b, -, rfl, -⟩ := fused?_eq_some_iff.mp hx
  simp at ht

theorem spans_macroName_ne_fuse {s : Text} (c : Option Char) (offset : Nat) (hs : Begins '?' s) :
    spans offset (segments true ⟨some .macroName, c⟩ s) ≠
      fuse (spans offset (segments false ⟨some .colon, c⟩ s)) := by
  obtain ⟨v, hv, -⟩ := (head_question_iff offset c s).mpr hs
  obtain ⟨t, ts, hts, ht, -⟩ := List.map_eq_cons_iff.mp (List.head?_eq_some_iff.mp hv).choose_spec
  obtain ⟨cs, hd, -⟩ := hs
  have hm : ((spans offset (segments true ⟨some .macroName, c⟩ s)).map Spanned.token).head? =
      some (text ['?']) := by
    rw [map_token_spans, head?_segments hd,
      scan_question_of_not_variable true (by simp [startsVariable])]
  rw [hts, fuse_cons_of_none fun u _ => fused?_of_varName ht u]
  intro h
  simp [h, ht] at hm

theorem segments_word_colon {back : Lookback} {s w rest : Text} {g : Segment}
    (hn : next? false back s = some (g, ':' :: rest)) (hg : g.token = text w)
    (hw : nextIs isLetter w = true) :
    segments false back s = ⟨g.gap, text w, w⟩ :: ⟨[], colon, [':']⟩ ::
        segments false ⟨some .colon, some ':'⟩ rest ∧
      segments true back s = ⟨g.gap, macroName w, w ++ [':']⟩ ::
        segments true ⟨some .macroName, some ':'⟩ rest := by
  obtain ⟨gap, token, slice⟩ := g
  obtain rfl : token = text w := hg
  obtain ⟨happ, hf⟩ := next?_eq_some_iff.mp hn
  obtain ⟨hs, hm⟩ := hf.reads.macroName_of_word hw
  obtain rfl : slice = w := hs
  have ht : next? true back s = some (⟨gap, macroName slice, slice ++ [':']⟩, rest) := by
    refine next?_eq_some_iff.mpr ⟨by simp [← happ], hf.gap, fun c hc => hf.slice c ?_, hm⟩
    obtain ⟨d, w, rfl⟩ := hf.reads.exists_cons
    exact hc
  constructor
  · rw [segments_of_next?_some hn, segments_of_next?_some (next?_colon _ _ _)]
    rfl
  · rw [segments_of_next?_some ht]
    simp [Segment.lookback, Token.kind]

theorem spans_eq_fuse_iff (back : Lookback) (s : Text) (offset : Nat) :
    spans offset (segments true back s) = fuse (spans offset (segments false back s)) ↔
      ¬ AsksAfterWord (spans offset (segments false back s)) := by
  -- on the length: a word and its colon are two steps of the one scan and one of the other
  induction hl : s.length using Nat.strong_induction_on generalizing back s offset with
  | _ n ih =>
  subst hl
  cases hn : next? false back s with
  | none =>
      have ht : next? true back s = none := next?_eq_none_iff.mpr (next?_eq_none_iff.mp hn)
      rw [segments_of_next?_none hn, segments_of_next?_none ht]
      simp [spans, fuse, AsksAfterWord]
  | some p =>
      obtain ⟨g, rest⟩ := p
      have hlt := next?_length_lt hn
      by_cases hw : ∃ w, g.token = text w ∧ nextIs isLetter w = true ∧ ':' ∈ rest.head?
      · obtain ⟨w, hg, hw, hc⟩ := hw
        obtain ⟨rest, rfl⟩ := List.head?_eq_some_iff.mp hc
        obtain ⟨hfalse, htrue⟩ := segments_word_colon hn hg hw
        have hsize : Text.size [':'] = 1 := rfl
        simp only [hfalse, htrue, spans, Text.size_append, Text.size_nil, hsize, Nat.add_zero,
          ← Nat.add_assoc]
        rw [fuse_word_colon hw, asksAfterWord_word_colon hw, head_question_iff, List.cons_inj_right]
        by_cases hs : Begins '?' rest
        · simp [hs, spans_macroName_ne_fuse _ _ hs]
        · rw [segments_macroName_eq_colon _ hs, ih rest.length _ _ _ _ rfl]
          · simp [hs]
          · simp only [List.length_cons] at hlt
            omega
      · have hg : ∀ w, g.token = text w → nextIs isLetter w = true → ':' ∉ rest.head? :=
          fun w ht hl hc => hw ⟨w, ht, hl, hc⟩
        obtain ⟨happ, hf⟩ := next?_eq_some_iff.mp hn
        have ht : next? true back s = some (g, rest) :=
          next?_eq_some_iff.mpr ⟨happ, hf.gap, hf.slice, hf.reads.recognise hg⟩
        rw [segments_of_next?_some hn, segments_of_next?_some ht]
        simp only [spans]
        rw [fuse_cons_of_none (fused?_of_not_colon hg), List.cons_inj_right,
          asksAfterWord_cons_of_none (fused?_of_not_colon hg)]
        exact ih _ hlt _ _ _ rfl

/-- To recognise macro names only joins words with the colons that touch them, but for one case: a
question behind such a colon is a name only where macro names are not recognised. -/
theorem tokenizeSpans_eq_fuse_iff (source : Text) :
    tokenizeSpans true source = fuse (tokenizeSpans false source) ↔
      ¬ ∃ w a b v c d, [⟨text w, a, b⟩, ⟨colon, b, b + 1⟩, ⟨varName v, c, d⟩] <:+:
          tokenizeSpans false source ∧ nextIs isLetter w = true ∧ v.head? = some '?' :=
  spans_eq_fuse_iff {} source 0

end StoryText.Token
