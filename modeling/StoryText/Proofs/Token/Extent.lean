import StoryText.Proofs.Token.Lookback

namespace StoryText.Token

open Text (isBlank)

/-- These two are tokens by the text before them: an apostrophe in a word, and a name with a
question mark. -/
def LooksBack (t : Token) : Prop := t = text ['\''] ∨ ∃ w, t = varName ('?' :: w)

theorem Reads.startsVariable_of_varName {macroNames : Bool} {back : Lookback} {c : Char}
    {w s rest : Text} (h : Reads macroNames back (Token.varName (c :: w)) s rest) :
    startsVariable back c w = true := by
  cases h with
  | punctuation h hr => exact absurd (kind_of_punctuation? h) (by simp [kind])
  | varName hc hw hr => exact hc

theorem Reads.forget {macroNames : Bool} {back : Lookback} {t : Token} {s rest : Text}
    (h : Reads macroNames back t s rest) (ht : ¬ LooksBack t) : Reads macroNames {} t s rest := by
  obtain ⟨c, w, rfl⟩ := h.exists_cons
  apply h.congr
  · rintro rfl
    refine iff_of_false (fun hw => ht (.inl ?_)) (by simp [InWord])
    exact h.eq_text_iff_inWord.mpr hw
  · rintro rfl hn
    refine iff_of_false (fun hk => ?_) (by simp)
    have hv := scan_question_of_colon macroNames hk hn
    rw [h.scan_eq] at hv
    exact ht (.inr ⟨_, hv⟩)

theorem Reads.cut {macroNames : Bool} {back : Lookback} {t : Token} {s p x : Text}
    (h : Reads macroNames back t s (p ++ x)) (ht : t ≠ text ['\'']) :
    Reads macroNames back t s p := by
  have hx : ∀ n, Shows n x [] := fun n => .stop n x (by simp)
  have hs := Shows.append hx p 2
  rw [List.append_nil] at hs
  refine h.replace_rest hs (fun hu => ?_) fun ha => absurd ha ht
  obtain ⟨-, -, -, -, hr, -⟩ := h.of_isUnterminated hu
  exact (List.append_eq_nil_iff.mp hr).1

theorem Reads.alone_iff {macroNames : Bool} {back : Lookback} {t : Token} {s rest : Text}
    (h : Reads macroNames back t s rest) : Reads macroNames {} t s [] ↔ ¬ LooksBack t := by
  constructor
  · rintro ha (rfl | ⟨w, rfl⟩)
    · exact absurd ha.nextIs_of_apostrophe (by simp [nextIs])
    · exact absurd ha.startsVariable_of_varName (by simp [startsVariable])
  · intro ht
    exact (h.forget ht).cut (p := []) fun ha => ht (.inl ha)

theorem tokenizeSpans_of_reads {macroNames : Bool} {t : Token} {s rest : Text}
    (h : Reads macroNames {} t s rest) (hs : ∀ c ∈ s.head?, isBlank c = false) :
    tokenizeSpans macroNames (s ++ rest) =
      ⟨t, 0, s.size⟩ :: spans s.size (segments macroNames ⟨some t.kind, s.getLast?⟩ rest) := by
  have hf : Segment.Fits ⟨[], t, s⟩ macroNames {} rest := ⟨by simp, hs, h⟩
  have hn := hf.next?
  rw [List.nil_append] at hn
  rw [tokenizeSpans_eq, segments_of_next?_some hn]
  simp [spans, Segment.lookback]

theorem tokenizeSpans_eq_singleton_iff {macroNames : Bool} {t : Token} {s : Text}
    (hs : ∀ c ∈ s.head?, isBlank c = false) :
    tokenizeSpans macroNames s = [⟨t, 0, s.size⟩] ↔ Reads macroNames {} t s [] := by
  constructor
  · intro h
    have hsplit : tokenizeSpans macroNames s = [] ++ ⟨t, 0, s.size⟩ :: [] := h
    obtain ⟨front, slice, rest, ht⟩ := exists_stands hsplit
    have happ : front ++ slice ++ rest = s ++ [] := by rw [ht.append, List.append_nil]
    obtain ⟨hslice, rfl⟩ := Text.eq_of_size_eq happ ht.stop_eq
    obtain ⟨rfl, rfl⟩ := Text.eq_of_size_eq (c := []) hslice ht.start_eq
    exact ht.reads
  · intro h
    have ht := tokenizeSpans_of_reads h hs
    rwa [List.append_nil, segments_nil] at ht

/-- What a token was read from is that token by itself, unless it looks back. -/
theorem tokenizeSpans_slice_iff {macroNames : Bool} {source : Text} {t : Spanned}
    (h : t ∈ tokenizeSpans macroNames source) :
    ∃ slice, source.between? t.start t.stop = some slice ∧
      (tokenizeSpans macroNames slice = [⟨t.token, 0, slice.size⟩] ↔
        ¬ t.token.LooksBack) := by
  obtain ⟨before, front, slice, rest, ht⟩ := exists_stands_of_mem h
  refine ⟨slice, ht.between?, ?_⟩
  rw [tokenizeSpans_eq_singleton_iff ht.head]
  exact ht.reads.alone_iff

theorem tokenizeSpans_slice_iff_curly :
    let source : Text := ['a', '“', 'x', '\'', 'y', '”', 'b']
    let t : Spanned := ⟨string ['x', '\'', 'y'] false, 1, 10⟩
    t ∈ tokenizeSpans false source ∧
      ∃ slice, source.between? t.start t.stop = some slice ∧
        (tokenizeSpans false slice = [⟨t.token, 0, slice.size⟩] ↔ ¬ t.token.LooksBack) := by
  intro source t
  have h : t ∈ tokenizeSpans false source := by
    rw [tokenizeSpans_eq_within]
    decide +kernel
  exact ⟨h, tokenizeSpans_slice_iff h⟩

/-- A token could not have been read further into the text after it. -/
def StopsAt (macroNames : Bool) (rest : Text) : Token → Prop
  | varName _ => nextIs isWordChar rest = false
  | number _ => nextIs Char.isDigit rest = false
  | operator w =>
    (w.length = 1 → '=' ∉ rest.head?) ∧ (w = ['='] → ∀ d ∈ rest.head?, d ≠ ']' ∧ d ≠ '}')
  | bracket w => w = ['['] → '=' ∉ rest.head?
  | brace c => c = '{' → '=' ∉ rest.head?
  | text w =>
    (nextIs isLetter w = true →
      nextIs isWordChar rest = false ∧ (macroNames = true → ':' ∉ rest.head?)) ∧
      (w = ['.'] → ¬ ['.', '.'] <+: rest)
  | paren _ | colon | semicolon | comma | macroName _ | string _ _ | emoji _ => True

theorem stopsAt_of_punctuation? {c : Char} {t : Token} {rest : Text} (h : punctuation? c = some t)
    (hr : ∀ d ∈ rest.head?, ¬ IsDigraph c d) (macroNames : Bool) : t.StopsAt macroNames rest := by
  have he : c = '[' ∨ c = '{' → '=' ∉ rest.head? := fun hc he => hr _ he (.inl ⟨hc, rfl⟩)
  unfold punctuation? at h
  split at h <;> cases h <;> simp_all [StopsAt]

theorem Reads.stopsAt {macroNames : Bool} {back : Lookback} {t : Token} {s rest : Text}
    (h : Reads macroNames back t s rest) : t.StopsAt macroNames rest := by
  cases h with
  | digraph h => exact fun hw => by simp at hw
  | punctuation h hr => exact stopsAt_of_punctuation? h hr macroNames
  | ellipsis => exact ⟨fun hw => absurd hw (by decide), fun hw => absurd hw (by decide)⟩
  | period hr => exact ⟨fun hw => absurd hw (by decide), fun _ => hr⟩
  | varName hc hw hr => exact hr
  | inWord h => exact ⟨fun hw => absurd hw (by decide), fun hw => absurd hw (by decide)⟩
  | closed hq hv hk => trivial
  | unclosed hq hv => trivial
  | number hc hw hr => exact hr
  | emoji hc hd => trivial
  | assignment hc he => exact ⟨fun hw => absurd hw (by simp), fun hw => absurd hw (by simp)⟩
  | operator hc he hr =>
      refine ⟨fun _ hd => (hr _ hd).1 rfl, fun hw d hd => ?_⟩
      obtain rfl : _ = '=' := List.singleton_inj.mp hw
      have hn := (hr d hd).2
      exact ⟨fun hd => hn (.inr ⟨rfl, .inl hd⟩), fun hd => hn (.inr ⟨rfl, .inr hd⟩)⟩
  | macroName hm hc hw => trivial
  | word hc hw hr hm =>
      refine ⟨fun _ => ⟨hr, hm⟩, fun hw => ?_⟩
      obtain ⟨rfl, -⟩ := List.cons.inj hw
      exact absurd hc (by decide)
  | other hc hq hd he ho hl =>
      refine ⟨fun hw => ?_, fun hw => ?_⟩
      · simp [nextIs, hl] at hw
      · obtain rfl : _ = '.' := List.singleton_inj.mp hw
        exact absurd hc (by decide)

/-- Longest match. -/
theorem tokenizeSpans_stopsAt {macroNames : Bool} {source : Text} {t : Spanned}
    (h : t ∈ tokenizeSpans macroNames source) :
    ∃ rest, source.between? t.stop source.size = some rest ∧ t.token.StopsAt macroNames rest := by
  obtain ⟨before, front, slice, rest, ht⟩ := exists_stands_of_mem h
  exact ⟨rest, ht.between?_rest, ht.reads.stopsAt⟩

theorem tokenizeSpans_stopsAt_equals :
    let source : Text := ['$', 'x', '=', ' ', ']']
    let t : Spanned := ⟨operator ['='], 2, 3⟩
    t ∈ tokenizeSpans true source ∧
      ∃ rest, source.between? t.stop source.size = some rest ∧ t.token.StopsAt true rest := by
  intro source t
  have h : t ∈ tokenizeSpans true source := by
    rw [tokenizeSpans_eq_within]
    decide +kernel
  exact ⟨h, tokenizeSpans_stopsAt h⟩

end StoryText.Token
