import StoryText.Proofs.Token.Occurrence

namespace StoryText.Token

/-- An apostrophe closes what an apostrophe opens; the straight double quote and the closing curly
one close what the straight or the opening curly one opens. -/
def Closes (q k : Char) : Prop :=
  q = '\'' ∧ k = '\'' ∨ (q = '"' ∨ q = '“') ∧ (k = '"' ∨ k = '”')

theorem mem_closers_iff {q k : Char} : k ∈ closers q ↔ Closes q k := by
  by_cases ha : q = '\''
  · subst ha
    simp [closers, Closes]
  · unfold closers closingQuotes Closes
    split
    · contradiction
    · split
      · simp
      · simp [or_comm]
      · simp_all

theorem Reads.slice_of_macroName {macroNames : Bool} {back : Lookback} {w s rest : Text}
    (h : Reads macroNames back (Token.macroName w) s rest) : s = w ++ [':'] := by
  cases h with
  | punctuation h hr => exact absurd (kind_of_punctuation? h) (by simp [kind])
  | macroName hm hc hw => rfl

theorem mem_quotes_of_opensString {back : Lookback} {q : Char} {cs : Text}
    (h : OpensString back q cs) : q ∈ ['\'', '"', '“', '”'] := by
  rcases h with ⟨rfl, -⟩ | h
  · simp
  · simp only [isDoubleQuote, List.contains_iff_mem] at h
    exact List.mem_cons_of_mem _ h

theorem Reads.of_string {macroNames unterminated : Bool} {back : Lookback} {value s rest : Text}
    (h : Reads macroNames back (Token.string value unterminated) s rest) :
    ∃ q ∈ ['\'', '"', '“', '”'], (∀ c ∈ value, ¬ Closes q c) ∧
      (unterminated = false ∧ (∃ k, Closes q k ∧ s = q :: (value ++ [k])) ∨
        unterminated = true ∧ s = q :: value ∧ rest = []) := by
  cases h with
  | punctuation h hr => exact absurd (kind_of_punctuation? h) (by simp [kind])
  | closed hq hv hk =>
      refine ⟨_, mem_quotes_of_opensString hq, fun c hc => ?_, .inl ⟨rfl, _, ?_, rfl⟩⟩
      · exact mem_closers_iff.not.mp (hv c hc)
      · exact mem_closers_iff.mp hk
  | unclosed hq hv =>
      refine ⟨_, mem_quotes_of_opensString hq, fun c hc => ?_, .inr ⟨rfl, rfl, rfl⟩⟩
      exact mem_closers_iff.not.mp (hv c hc)

structure Quotes (source : Text) (t : Spanned) (slice value : Text) (unterminated : Bool)
    (q : Char) : Prop where
  opener : q ∈ ['\'', '"', '“', '”']
  not_closes : ∀ c ∈ value, ¬ Closes q c
  closed : unterminated = false → ∃ k, Closes q k ∧ slice = q :: (value ++ [k])
  unclosed : unterminated = true → slice = q :: value ∧ t.stop = source.size
  unterminated_iff : unterminated = true ↔
    ∃ after, source.between? (t.start + q.utf8Size) source.size = some after ∧
      ∀ c ∈ after, ¬ Closes q c

/-- The slice of a token spells it: strings stand in quotes, a macro name has its colon, and any
other token is as it stands. -/
def Spells (source : Text) (t : Spanned) (slice : Text) : Prop :=
  match t.token with
  | .string value unterminated => ∃ q, Quotes source t slice value unterminated q
  | .macroName w => slice = w ++ [':']
  | u => slice = u.value

theorem Occurs.between?_behind {macroNames : Bool} {source rest w : Text} {t : Spanned}
    {gs : List Segment} {g : Segment} {q : Char} (h : Occurs macroNames source t gs g rest)
    (hw : g.slice = q :: w) :
    source.between? (t.start + q.utf8Size) source.size = some (w ++ rest) := by
  have happ : textOf gs ++ g.gap ++ [q] ++ (w ++ rest) = source := by
    rw [← h.append, hw]
    simp
  have hb := Text.between?_append_end (textOf gs ++ g.gap ++ [q]) (w ++ rest)
  rw [happ] at hb
  rw [h.spanned]
  simpa [Nat.add_assoc] using hb

theorem Occurs.quotes {macroNames unterminated : Bool} {source rest value : Text} {t : Spanned}
    {gs : List Segment} {g : Segment} (h : Occurs macroNames source t gs g rest)
    (ht : g.token = Token.string value unterminated) :
    ∃ q, Quotes source t g.slice value unterminated q := by
  have hr := h.fits.reads
  rw [ht] at hr
  obtain ⟨q, hq, hv, ⟨rfl, k, hk, hs⟩ | ⟨rfl, hs, rfl⟩⟩ := hr.of_string
  · have hafter := h.between?_behind hs
    refine ⟨q, hq, hv, fun _ => ⟨k, hk, hs⟩, by simp, iff_of_false (by simp) ?_⟩
    rintro ⟨after, ha, hn⟩
    obtain rfl := Option.some.inj (hafter.symm.trans ha)
    exact hn k (by simp) hk
  · have hafter := h.between?_behind hs
    rw [List.append_nil] at hafter
    refine ⟨q, hq, hv, by simp, fun _ => ⟨hs, ?_⟩, iff_of_true rfl ⟨value, hafter, hv⟩⟩
    rw [h.spanned, ← h.append, List.append_nil]

theorem Occurs.spells {macroNames : Bool} {source rest : Text} {t : Spanned} {gs : List Segment}
    {g : Segment} (h : Occurs macroNames source t gs g rest) : Spells source t g.slice := by
  have ht : t.token = g.token := by rw [h.spanned]
  have hr := h.fits.reads
  rw [Spells, ht]
  cases hg : g.token with
  | string value unterminated => exact h.quotes hg
  | macroName w =>
      rw [hg] at hr
      exact hr.slice_of_macroName
  | _ =>
      rw [hg] at hr
      exact hr.slice_eq_value (by simp [kind]) (by simp [kind])

theorem tokenize_unterminated_last {macroNames : Bool} {source : Text} {before after : List Token}
    {t : Token} (h : tokenize macroNames source = before ++ t :: after)
    (ht : t.isUnterminated = true) : after = [] := by
  obtain ⟨gs, hs, hg, -, hts⟩ := List.map_eq_append_iff.mp h
  obtain ⟨g, gs', rfl, rfl, rfl⟩ := List.map_eq_cons_iff.mp hts
  obtain ⟨rest, -, hf, ha⟩ := exists_rest hg
  rw [hf.rest_eq_nil ht, segments_nil] at ha
  rw [← ha, List.map_nil]

theorem tokenizeSpans_unterminated_last {macroNames : Bool} {source : Text}
    {before after : List Spanned} {t : Spanned}
    (h : tokenizeSpans macroNames source = before ++ t :: after)
    (ht : t.token.isUnterminated = true) : after = [] := by
  have hm := congrArg (List.map Spanned.token) h
  rw [map_token_tokenizeSpans, List.map_append, List.map_cons] at hm
  exact List.map_eq_nil_iff.mp (tokenize_unterminated_last hm ht)

theorem filter_eq_of_last {α : Type} {p : α → Bool} {l : List α}
    (h : ∀ before x after, l = before ++ x :: after → p x = true → after = []) :
    l.filter p = (l.getLast?.filter p).toList := by
  induction l with
  | nil => rfl
  | cons x l ih =>
      have hl := ih fun before y after hs => h (x :: before) y after (by simp [hs])
      cases hp : p x with
      | true =>
          obtain rfl := h [] x l rfl hp
          simp [hp, Option.filter]
      | false =>
          cases l with
          | nil => simp [hp]
          | cons y l => rw [List.filter_cons_of_neg (by simp [hp]), hl, List.getLast?_cons_cons]

/-- Every token is spelled by the slice it spans. A string is open just when no quote closes it any
more; it is then the last token, so that there is one of them at most. -/
theorem tokenizeSpans_spells (macroNames : Bool) (source : Text) :
    (∀ t ∈ tokenizeSpans macroNames source,
        ∃ slice, source.between? t.start t.stop = some slice ∧ Spells source t slice) ∧
      (∀ before t after, tokenizeSpans macroNames source = before ++ t :: after →
        t.token.isUnterminated = true → after = []) ∧
      ((tokenizeSpans macroNames source).filter fun t => t.token.isUnterminated).length ≤ 1 := by
  have hlast : ∀ before t after, tokenizeSpans macroNames source = before ++ t :: after →
      t.token.isUnterminated = true → after = [] := fun _ _ _ => tokenizeSpans_unterminated_last
  refine ⟨fun t ht => ?_, hlast, ?_⟩
  · obtain ⟨gs, g, rest, ho⟩ := exists_occurs_of_mem ht
    exact ⟨g.slice, ho.between?, ho.spells⟩
  · rw [filter_eq_of_last hlast]
    exact Option.length_toList_le

end StoryText.Token
