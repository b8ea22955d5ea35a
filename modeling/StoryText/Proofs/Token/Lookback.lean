import StoryText.Proofs.Token.Gaps
import StoryText.Proofs.Token.Occurrence

namespace StoryText.Token

open Text (isBlank)

theorem behind_kind (back : Lookback) (gs : List Segment) :
    (back.behind gs).kind = (gs.getLast?.map fun g => g.token.kind).or back.kind := by
  rw [Lookback.behind]
  cases gs.getLast? <;> rfl

theorem behind_char (back : Lookback) {gs : List Segment} (h : ∀ g ∈ gs, g.slice ≠ []) :
    (back.behind gs).char = (textOf gs).getLast?.or back.char := by
  induction gs generalizing back with
  | nil => rfl
  | cons g gs ih =>
      rw [List.forall_mem_cons] at h
      obtain ⟨c, hc⟩ := Option.ne_none_iff_exists'.mp (mt List.getLast?_eq_none_iff.mp h.1)
      have hl : g.lookback.char = some c := hc
      rw [behind_cons, ih _ h.2, hl, textOf_cons, List.getLast?_append, List.getLast?_append, hc]
      cases (textOf gs).getLast? <;> rfl

def lastKind (ts : List Spanned) : Option Kind := ts.getLast?.map fun t => t.token.kind

theorem lastKind_spans (offset : Nat) (gs : List Segment) :
    lastKind (spans offset gs) = gs.getLast?.map fun g => g.token.kind := by
  have h := congrArg List.getLast? (map_token_spans offset gs)
  rw [List.getLast?_map, List.getLast?_map] at h
  have hk := congrArg (Option.map kind) h
  rwa [Option.map_map, Option.map_map] at hk

/-- A token at its place in a text: a rule reads it there, and sees of what is behind the kind of
the token before and the character in front. -/
structure Stands (macroNames : Bool) (source : Text) (before : Option Kind) (t : Spanned)
    (front slice rest : Text) : Prop where
  append : front ++ slice ++ rest = source
  start_eq : front.size = t.start
  stop_eq : (front ++ slice).size = t.stop
  head : ∀ c ∈ slice.head?, isBlank c = false
  reads : Reads macroNames ⟨before, front.getLast?⟩ t.token slice rest

theorem exists_stands {macroNames : Bool} {source : Text} {before after : List Spanned}
    {t : Spanned} (h : tokenizeSpans macroNames source = before ++ t :: after) :
    ∃ front slice rest, Stands macroNames source (lastKind before) t front slice rest := by
  obtain ⟨gs, g, rest, ho, hb, -⟩ := exists_occurs h
  have hslice : ∀ g ∈ gs, g.slice ≠ [] := by
    intro g' hg
    apply (segments_spec macroNames {} source g' _).2
    rw [ho.segments_eq]
    exact List.mem_append_left _ hg
  have hk : ((Lookback.behind {} gs).past g.gap).kind = lastKind before := by
    rw [past_kind, behind_kind, ← hb, lastKind_spans, Option.or_none]
  have hc : ((Lookback.behind {} gs).past g.gap).char = (textOf gs ++ g.gap).getLast? := by
    rw [Lookback.past, behind_char {} hslice, List.getLast?_append, Option.or_none]
  refine ⟨textOf gs ++ g.gap, g.slice, rest, ho.append, ?_, ?_, ho.fits.slice, ?_⟩
  · rw [ho.spanned]
  · rw [ho.spanned]
  · have hr := ho.fits.reads
    rw [ho.spanned, ← hk, ← hc]
    exact hr

theorem exists_stands_of_mem {macroNames : Bool} {source : Text} {t : Spanned}
    (h : t ∈ tokenizeSpans macroNames source) :
    ∃ before front slice rest, Stands macroNames source before t front slice rest := by
  obtain ⟨before, after, hs⟩ := List.append_of_mem h
  exact ⟨_, exists_stands hs⟩

namespace Stands

variable {macroNames : Bool} {source front slice rest : Text} {before : Option Kind} {t : Spanned}

theorem between? (h : Stands macroNames source before t front slice rest) :
    source.between? t.start t.stop = some slice := by
  rw [← h.append, ← h.start_eq, ← h.stop_eq]
  exact Text.between?_append front slice rest

theorem between?_rest (h : Stands macroNames source before t front slice rest) :
    source.between? t.stop source.size = some rest := by
  rw [← h.append, ← h.stop_eq]
  exact Text.between?_append_end (front ++ slice) rest

theorem scan_eq (h : Stands macroNames source before t front slice rest) {front' behind : Text}
    {c : Char} (hs : source = front' ++ c :: behind) (hf : front'.size = t.start) :
    scan macroNames ⟨before, front'.getLast?⟩ c behind = ⟨t.token, slice, rest⟩ := by
  have happ := h.append.trans hs
  rw [List.append_assoc] at happ
  obtain ⟨rfl, hc⟩ := Text.eq_of_size_eq happ (h.start_eq.trans hf.symm)
  obtain ⟨d, w, hw⟩ := h.reads.exists_cons
  rw [hw, List.cons_append] at hc
  obtain ⟨rfl, rfl⟩ := List.cons.inj hc
  have hr := h.reads
  rw [hw] at hr ⊢
  exact hr.scan_eq

end Stands

theorem kind_scan_apostrophe_iff (macroNames : Bool) (back : Lookback) (cs : Text) :
    (scan macroNames back '\'' cs).token.kind = .string ↔ ¬ InWord back cs := by
  by_cases h : InWord back cs
  · rw [scan_of_inWord macroNames h]
    exact iff_of_false (by simp [single, kind]) (not_not.mpr h)
  · rw [scan_of_opensString macroNames (.inl ⟨rfl, h⟩)]
    refine iff_of_true ?_ h
    unfold quoted
    split <;> rfl

theorem inWord_iff_of_blank {k : Option Kind} {front cs : Text}
    (hb : ∀ c ∈ front.getLast?, isBlank c = true) :
    InWord ⟨k, front.getLast?⟩ cs ↔ k = some .varName ∧ nextIs isLetter cs = true := by
  have hn : front.getLast?.any Char.isAlphanum = false := by
    cases hl : front.getLast? with
    | none => rfl
    | some c => exact isAlphanum_of_isBlank (hb c hl)
  simp [InWord, hn]

/-- At the start and behind white space an apostrophe opens a string, unless the token before it is
a variable name and a letter follows: a name owns the apostrophe across any white space. -/
theorem kind_eq_string_iff_of_blank {macroNames : Bool} {source : Text}
    {before after : List Spanned} {t : Spanned}
    (h : tokenizeSpans macroNames source = before ++ t :: after) {front behind : Text}
    (hs : source = front ++ '\'' :: behind) (hf : front.size = t.start)
    (hb : ∀ c ∈ front.getLast?, isBlank c = true) :
    t.token.kind = .string ↔ ¬ (lastKind before = some .varName ∧ nextIs isLetter behind = true) := by
  obtain ⟨front', slice, rest, ht⟩ := exists_stands h
  have hk := kind_scan_apostrophe_iff macroNames ⟨lastKind before, front.getLast?⟩ behind
  rw [ht.scan_eq hs hf] at hk
  rw [hk, inWord_iff_of_blank hb]

/-- Behind a name and a blank `'1'` is a string: no letter comes after the first apostrophe. -/
theorem kind_eq_string_iff_of_blank_digit :
    tokenizeSpans false ['$', 'a', '\t', '\'', '1', '\''] =
        [⟨varName ['$', 'a'], 0, 2⟩] ++ ⟨string ['1'] false, 3, 6⟩ :: [] ∧
      (∀ c ∈ ['$', 'a', '\t'].getLast?, isBlank c = true) ∧
      ((string ['1'] false).kind = .string ↔
        ¬ (lastKind [⟨varName ['$', 'a'], 0, 2⟩] = some .varName ∧
          nextIs isLetter ['1', '\''] = true)) := by
  have h : tokenizeSpans false ['$', 'a', '\t', '\'', '1', '\''] =
      [⟨varName ['$', 'a'], 0, 2⟩] ++ ⟨string ['1'] false, 3, 6⟩ :: [] := by
    rw [tokenizeSpans_eq_within]
    decide +kernel
  have hb : ∀ c ∈ ['$', 'a', '\t'].getLast?, isBlank c = true := by
    intro c hc
    obtain rfl := Option.mem_some_iff.mp hc
    decide
  exact ⟨h, hb, kind_eq_string_iff_of_blank h rfl rfl hb⟩

/-- White space in front does not make a string: in `$a 'b'` the first apostrophe is text, and the
second one opens a string without an end. -/
theorem not_forall_kind_eq_string_of_blank :
    ¬ ∀ (macroNames : Bool) (source : Text) (before after : List Spanned) (t : Spanned)
      (front behind : Text), tokenizeSpans macroNames source = before ++ t :: after →
      source = front ++ '\'' :: behind → front.size = t.start →
      (∀ c ∈ front.getLast?, isBlank c = true) → t.token.kind = .string := by
  intro hall
  have h : tokenizeSpans false ['$', 'a', ' ', '\'', 'b', '\''] =
      [⟨varName ['$', 'a'], 0, 2⟩] ++ ⟨text ['\''], 3, 4⟩ ::
        [⟨text ['b'], 4, 5⟩, ⟨string [] true, 5, 6⟩] := by
    rw [tokenizeSpans_eq_within]
    decide +kernel
  have hb : ∀ c ∈ ['$', 'a', ' '].getLast?, isBlank c = true := by
    intro c hc
    obtain rfl := Option.mem_some_iff.mp hc
    decide
  have hk := hall false _ _ _ _ ['$', 'a', ' '] ['b', '\''] h rfl rfl hb
  exact absurd hk (by decide)

theorem scan_question (macroNames : Bool) (back : Lookback) {cs : Text}
    (hn : nextIs isLetter cs = true) :
    (back.kind = some .colon →
        (scan macroNames back '?' cs).token = varName ('?' :: cs.takeWhile isWordChar)) ∧
      (back.kind ≠ some .colon → (scan macroNames back '?' cs).token = text ['?']) := by
  constructor
  · intro hk
    exact scan_question_of_colon macroNames hk hn
  · intro hk
    apply scan_question_of_not_variable
    simp [startsVariable, hk]

theorem lastKind_append_singleton (ts : List Spanned) (t : Spanned) :
    lastKind (ts ++ [t]) = some t.token.kind := by
  simp [lastKind]

/-- Before a letter, a question mark starts a name behind a colon and nowhere else, also not behind
the colon that a macro name has taken in. -/
theorem question_of_kind {macroNames : Bool} {source : Text} {before after : List Spanned}
    {t u : Spanned} (h : tokenizeSpans macroNames source = before ++ t :: u :: after)
    {front behind : Text} (hs : source = front ++ '?' :: behind) (hf : front.size = u.start)
    (hn : nextIs isLetter behind = true) :
    (t.token.kind = .colon → u.token = varName ('?' :: behind.takeWhile isWordChar)) ∧
      (t.token.kind ≠ .colon → u.token = text ['?']) := by
  have h' : tokenizeSpans macroNames source = (before ++ [t]) ++ u :: after := by
    rw [h, List.append_assoc, List.singleton_append]
  obtain ⟨front', slice, rest, hu⟩ := exists_stands h'
  have hq := scan_question macroNames ⟨lastKind (before ++ [t]), front.getLast?⟩ hn
  rw [hu.scan_eq hs hf, lastKind_append_singleton] at hq
  simpa using hq

/-- A blank keeps the colon apart from the word, and the name behind it is found. -/
theorem question_of_kind_apart :
    tokenizeSpans true ['x', ' ', ':', ' ', '?', 'y'] =
        [⟨text ['x'], 0, 1⟩] ++ ⟨colon, 2, 3⟩ :: ⟨varName ['?', 'y'], 4, 6⟩ :: [] ∧
      nextIs isLetter ['y'] = true ∧
      (colon.kind = .colon → varName ['?', 'y'] = varName ('?' :: ['y'].takeWhile isWordChar)) ∧
      (colon.kind ≠ .colon → varName ['?', 'y'] = text ['?']) := by
  have h : tokenizeSpans true ['x', ' ', ':', ' ', '?', 'y'] =
      [⟨text ['x'], 0, 1⟩] ++ ⟨colon, 2, 3⟩ :: ⟨varName ['?', 'y'], 4, 6⟩ :: [] := by
    rw [tokenizeSpans_eq_within]
    decide +kernel
  have hn : nextIs isLetter ['y'] = true := by decide
  have hs : ['x', ' ', ':', ' ', '?', 'y'] = ['x', ' ', ':', ' '] ++ '?' :: ['y'] := rfl
  exact ⟨h, hn, question_of_kind h hs rfl hn⟩

/-- Not every colon is seen: in `if: ?who` the macro name has taken it in. -/
theorem not_forall_question_of_colon :
    ¬ ∀ (macroNames : Bool) (source : Text) (before after : List Spanned) (t u : Spanned)
      (front behind : Text), tokenizeSpans macroNames source = before ++ t :: u :: after →
      t.token.kind = .colon ∨ t.token.kind = .macroName →
      source = front ++ '?' :: behind → front.size = u.start → nextIs isLetter behind = true →
      u.token = varName ('?' :: behind.takeWhile isWordChar) := by
  intro hall
  have h : tokenizeSpans true ['i', 'f', ':', ' ', '?', 'w', 'h', 'o'] =
      [] ++ ⟨macroName ['i', 'f'], 0, 3⟩ :: ⟨text ['?'], 4, 5⟩ ::
        [⟨text ['w', 'h', 'o'], 5, 8⟩] := by
    rw [tokenizeSpans_eq_within]
    decide +kernel
  have hs : ['i', 'f', ':', ' ', '?', 'w', 'h', 'o'] =
      ['i', 'f', ':', ' '] ++ '?' :: ['w', 'h', 'o'] := rfl
  have hu := hall true _ _ _ _ _ _ _ h (.inr rfl) hs rfl (by decide)
  exact absurd hu (by decide)

end StoryText.Token
