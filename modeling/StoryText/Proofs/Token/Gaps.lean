import StoryText.Proofs.Token.Stream
import StoryText.Token.Cursor

namespace StoryText.Token

open Text (isBlank)

/-- Blanks that may stand for a gap: at the start of a text any, otherwise some for some, and any
for none unless an apostrophe in a word is on one side. -/
structure MayReplace (before : Option Token) (t : Token) (gap gap' : Text) : Prop where
  blank : ∀ b ∈ gap', isBlank b = true
  apart : before ≠ none → gap ≠ [] → gap' ≠ []
  touching : before ≠ none → gap = [] → before = some (text ['\'']) ∨ t = text ['\''] → gap' = []

instance (before : Option Token) (t : Token) (gap gap' : Text) :
    Decidable (MayReplace before t gap gap') :=
  decidable_of_iff (gap'.all isBlank = true ∧ (before ≠ none → gap ≠ [] → gap' ≠ []) ∧
      (before ≠ none → gap = [] → before = some (text ['\'']) ∨ t = text ['\''] → gap' = []))
    ⟨fun ⟨hb, ha, ht⟩ => ⟨List.all_eq_true.mp hb, ha, ht⟩,
      fun ⟨hb, ha, ht⟩ => ⟨List.all_eq_true.mpr hb, ha, ht⟩⟩

inductive Regaps : Option Token → List Segment → List Segment → Prop
  | nil (before : Option Token) : Regaps before [] []
  | cons {before : Option Token} {g : Segment} {gap : Text} {gs gs' : List Segment}
      (hg : MayReplace before g.token g.gap gap) (hgs : Regaps (some g.token) gs gs') :
      Regaps before (g :: gs) ({ g with gap } :: gs')

theorem Regaps.map_token {before : Option Token} {gs gs' : List Segment}
    (h : Regaps before gs gs') : gs'.map Segment.token = gs.map Segment.token := by
  induction h with
  | nil => rfl
  | cons hg hgs ih => rw [List.map_cons, List.map_cons, ih]

theorem Regaps.shows {before : Option Token} {gs gs' : List Segment} (h : Regaps before gs gs')
    (hb : before ≠ none) (tail : Text) {tail' : Text} (ht : ∀ c ∈ tail', isBlank c = true)
    (n : Nat) : Shows n (textOf gs ++ tail) (textOf gs' ++ tail') := by
  induction h generalizing n with
  | nil before => exact .stop n _ fun c hc => ht c (List.mem_of_head? hc)
  | @cons before g gap gs gs' hg hgs ih =>
      cases gap with
      | nil =>
          have hgap : g.gap = [] := by
            by_contra hne
            exact hg.apart hb hne rfl
          simp only [textOf_cons, hgap, List.nil_append, List.append_assoc]
          exact Shows.append (ih (by simp)) g.slice n
      | cons b gap =>
          refine .stop n _ fun c hc => hg.blank c ?_
          simp only [textOf_cons, List.cons_append, List.head?_cons, Option.mem_some_iff] at hc
          simp [hc]

theorem Regaps.head? {t : Token} {gs gs' : List Segment} (h : Regaps (some t) gs gs')
    (ht : t = text ['\'']) {tail : Text} (hb : ∀ c ∈ tail, isBlank c = true)
    (hg : ∀ g ∈ gs, (∀ c ∈ g.gap, isBlank c = true) ∧ g.slice ≠ [])
    (hn : nextIs Char.isAlphanum (textOf gs ++ tail) = true) (tail' : Text) :
    (textOf gs ++ tail).head? = (textOf gs' ++ tail').head? := by
  have not_alnum {c : Char} (hc : isBlank c = true) (cs : Text) :
      nextIs Char.isAlphanum (c :: cs) ≠ true := by
    simp [nextIs, isAlphanum_of_isBlank hc]
  cases h with
  | nil =>
      cases tail with
      | nil => simp [nextIs] at hn
      | cons c tail => exact absurd hn (not_alnum (hb c (by simp)) tail)
  | @cons _ g gap gs gs' hr hgs =>
      obtain ⟨hblank, hne⟩ := hg g (by simp)
      cases hgap : g.gap with
      | nil =>
          obtain ⟨c, w, hs⟩ := List.exists_cons_of_ne_nil hne
          simp [hgap, hs, hr.touching (by simp) hgap (.inl (by rw [ht]))]
      | cons c gap' =>
          rw [textOf_cons, hgap] at hn
          exact absurd hn (not_alnum (hblank c (by simp [hgap])) _)

theorem segments_spec (macroNames : Bool) (back : Lookback) (s : Text) :
    ∀ g ∈ segments macroNames back s, (∀ c ∈ g.gap, isBlank c = true) ∧ g.slice ≠ [] := by
  induction back, s using segments.induct macroNames with
  | case1 back s h => simp [segments_of_next?_none h]
  | case2 back s g rest h ih =>
      have hf := fits_of_next? h
      rw [segments_of_next?_some h, List.forall_mem_cons]
      exact ⟨⟨hf.gap, hf.slice_ne_nil⟩, ih⟩

theorem Segment.Fits.regap {macroNames : Bool} {back : Lookback} {before : Option Token}
    {rest rest' gap : Text} {g : Segment} (h : g.Fits macroNames back rest)
    (hb : before = none → back.char = none) (hg : MayReplace before g.token g.gap gap)
    (hs : Shows 2 rest rest') (hu : g.token.isUnterminated = true → rest' = [])
    (ha : g.token = text ['\''] → rest.head? = rest'.head?) :
    Segment.Fits { g with gap } macroNames back rest' := by
  have hold := past_char_any back h.gap
  have hnew := past_char_any back hg.blank
  refine ⟨hg.blank, h.slice, (h.reads.replace_rest hs hu ha).replace_back rfl ?_ ?_⟩
  · intro ht
    rw [hold, hnew]
    by_cases hbefore : before = none
    · simp [hb hbefore]
    · by_cases hgap : g.gap = []
      · rw [hgap, hg.touching hbefore hgap (.inr ht)]
      · simp [hgap, hg.apart hbefore hgap]
  · rw [hold, hnew]
    by_cases hbefore : before = none
    · simp [hb hbefore]
    · by_cases hgap : g.gap = []
      · simp [hgap]
      · simp [hgap, hg.apart hbefore hgap]

theorem segments_of_regaps {macroNames : Bool} {back : Lookback} {s : Text}
    {before : Option Token} {gs' : List Segment}
    (h : Regaps before (segments macroNames back s) gs')
    (hb : before = none → back.char = none) {tail' : Text} (ht : ∀ c ∈ tail', isBlank c = true)
    (hu : ∀ g ∈ (segments macroNames back s).getLast?, g.token.isUnterminated = true → tail' = []) :
    segments macroNames back (textOf gs' ++ tail') = gs' := by
  induction back, s using segments.induct macroNames generalizing before gs' with
  | case1 back s hn =>
      rw [segments_of_next?_none hn] at h
      cases h
      exact segments_of_next?_none (next?_eq_none_iff.mpr ht)
  | case2 back s g rest hn ih =>
      rw [segments_of_next?_some hn] at h hu
      have hf := fits_of_next? hn
      obtain ⟨tail, happ, htail⟩ := exists_tail macroNames g.lookback rest
      cases h with
      | @cons _ _ gap _ gs' hg hgs =>
          have hshows := hgs.shows (by simp) tail ht 2
          rw [happ] at hshows
          have hlast : g.token.isUnterminated = true → textOf gs' ++ tail' = [] := by
            intro hg
            rw [hf.rest_eq_nil hg, segments_nil] at hgs hu
            cases hgs
            exact hu g rfl hg
          have hhead : g.token = text ['\''] → rest.head? = (textOf gs' ++ tail').head? := by
            intro hg
            have hr := hf.reads
            rw [hg] at hr
            have hn := hr.nextIs_of_apostrophe
            rw [← happ] at hn ⊢
            exact hgs.head? hg htail (segments_spec _ _ _) hn tail'
          have hfits := hf.regap hb hg hshows hlast hhead
          have hi := ih hgs (by simp) fun x hx =>
            hu x (by simp [List.getLast?_cons, Option.mem_def.mp hx])
          have hn' := hfits.next?
          rw [textOf_cons, List.append_assoc, segments_of_next?_some hn']
          exact congrArg _ hi

/-- White space is free: with any blanks at the start and at the end, other blanks between tokens
that are apart, and blanks between tokens that touch, apostrophes in words left alone, the tokens
stay the same. Only behind a string without an end nothing may follow. -/
theorem tokenize_of_regaps {macroNames : Bool} {source : Text} {gs' : List Segment} {tail' : Text}
    (h : Regaps none (segments macroNames {} source) gs') (ht : ∀ c ∈ tail', isBlank c = true)
    (hu : ∀ t ∈ (tokenize macroNames source).getLast?, t.isUnterminated = true → tail' = []) :
    tokenize macroNames (textOf gs' ++ tail') = tokenize macroNames source ∧
      tokenize macroNames source = gs'.map Segment.token := by
  have hl : ∀ g ∈ (segments macroNames {} source).getLast?, g.token.isUnterminated = true →
      tail' = [] := by
    intro g hg
    refine hu g.token ?_
    rw [tokenize, List.getLast?_map, Option.mem_def.mp hg]
    rfl
  refine ⟨?_, h.map_token.symm⟩
  rw [tokenize, segments_of_regaps h (fun _ => rfl) ht hl, tokenize, h.map_token]

/-- The gap in the word `n't` stays, the other ones change. -/
theorem tokenize_of_regaps_contraction :
    Regaps none (segments false {} ['(', 'n', '\'', 't', ' ', 'a'])
        [⟨['\t'], paren '(', ['(']⟩, ⟨['\u2003'], text ['n'], ['n']⟩, ⟨[], text ['\''], ['\'']⟩,
          ⟨[], text ['t'], ['t']⟩, ⟨['\r', '\n'], text ['a'], ['a']⟩] ∧
      tokenize false ['\t', '(', '\u2003', 'n', '\'', 't', '\r', '\n', 'a', '\n'] =
        tokenize false ['(', 'n', '\'', 't', ' ', 'a'] ∧
      tokenize false ['(', 'n', '\'', 't', ' ', 'a'] =
        [paren '(', text ['n'], text ['\''], text ['t'], text ['a']] := by
  have hs : segments false {} ['(', 'n', '\'', 't', ' ', 'a'] =
      [⟨[], paren '(', ['(']⟩, ⟨[], text ['n'], ['n']⟩, ⟨[], text ['\''], ['\'']⟩,
        ⟨[], text ['t'], ['t']⟩, ⟨[' '], text ['a'], ['a']⟩] := by
    rw [← segmentsWithin_eq_segments (Nat.le_refl 6)]
    decide +kernel
  have hr : Regaps none (segments false {} ['(', 'n', '\'', 't', ' ', 'a'])
      [⟨['\t'], paren '(', ['(']⟩, ⟨['\u2003'], text ['n'], ['n']⟩, ⟨[], text ['\''], ['\'']⟩,
        ⟨[], text ['t'], ['t']⟩, ⟨['\r', '\n'], text ['a'], ['a']⟩] := by
    rw [hs]
    refine .cons ?_ (.cons ?_ (.cons ?_ (.cons ?_ (.cons ?_ (.nil _)))))
    all_goals decide
  refine ⟨hr, tokenize_of_regaps hr (List.forall_mem_singleton.mpr (by decide)) fun t ht hu => ?_⟩
  rw [tokenize, hs, Option.mem_def] at ht
  cases ht
  exact absurd hu (by decide)

end StoryText.Token
