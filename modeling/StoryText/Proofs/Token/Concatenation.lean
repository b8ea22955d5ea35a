import StoryText.Proofs.Token.Stream
import StoryText.Token.Cursor

namespace StoryText.Token

open Text (isBlank)

def Spanned.shift (n : Nat) (t : Spanned) : Spanned := ⟨t.token, n + t.start, n + t.stop⟩

/-- A token takes part in what follows it behind white space: an open string goes on, a name owns an
apostrophe before a letter, and a colon asks for a name with a question mark. -/
def Crosses (t : Token) (v : Text) : Prop :=
  t.isUnterminated = true ∨ t.kind = .varName ∧ Begins '\'' v ∨ t.kind = .colon ∧ Begins '?' v

theorem spans_add (n offset : Nat) (gs : List Segment) :
    spans (n + offset) gs = (spans offset gs).map (Spanned.shift n) := by
  induction gs generalizing offset with
  | nil => rfl
  | cons g gs ih =>
      simp only [spans, List.map_cons, Spanned.shift, Nat.add_assoc]
      exact congrArg _ (ih _)

theorem spans_widen (offset : Nat) (b : Text) (gs : List Segment) :
    spans offset (widen b gs) = spans (offset + b.size) gs := by
  cases gs with
  | nil => rfl
  | cons g gs => simp only [widen, spans, Text.size_append, Nat.add_assoc]

theorem Shows.of_append {u x : Text} (hx : ∀ c ∈ x.head?, isBlank c = true) (n : Nat) :
    Shows n u (u ++ x) := by
  have h := Shows.append (fun n => .stop n [] hx) u n
  rwa [List.append_nil] at h

theorem next?_append_of_terminated {macroNames : Bool} {back : Lookback} {u x rest : Text}
    {g : Segment} (hx : ∀ c ∈ x.head?, isBlank c = true)
    (h : next? macroNames back u = some (g, rest)) (hg : g.token.isUnterminated = false) :
    next? macroNames back (u ++ x) = some (g, rest ++ x) :=
  next?_append_of_shows h (Shows.of_append hx 2) (by simp [hg])

theorem isBlank_of_mem_closers {q c : Char} (h : c ∈ closers q) : isBlank c = false := by
  have hall : ∀ c ∈ ['\'', '"', '”'], isBlank c = false :=
    List.all_iff_forall_prop.mp (by decide)
  refine hall c ?_
  unfold closers closingQuotes at h
  split at h
  · simp_all
  · split at h <;> simp_all [or_comm]

theorem quoted_value (q : Char) (cl : List Char) (cs : Text) :
    (quoted q cl cs).token.value = cs.takeWhile fun c => !cl.contains c := by
  unfold quoted
  split <;> rfl

theorem opensString_append {back : Lookback} {q : Char} {value x : Text}
    (hx : ∀ c ∈ x.head?, isBlank c = true) (h : OpensString back q value) :
    OpensString back q (value ++ x) := by
  cases value with
  | cons c value => exact (opensString_congr rfl).mp h
  | nil =>
      rcases h with ⟨rfl, -⟩ | hq
      · refine .inl ⟨rfl, fun hw => ?_⟩
        have hn := hw.nextIs
        cases x with
        | nil => simp [nextIs] at hn
        | cons c x => simp [nextIs, isAlphanum_of_isBlank (hx c rfl)] at hn
      · exact .inr hq

theorem next?_append_of_unterminated {macroNames : Bool} {back : Lookback} {u x rest : Text}
    {g : Segment} (hne : x ≠ []) (hx : ∀ c ∈ x.head?, isBlank c = true)
    (h : next? macroNames back u = some (g, rest)) (hg : g.token.isUnterminated = true) :
    ∃ g' rest', next? macroNames back (u ++ x) = some (g', rest') ∧ g'.token ≠ g.token := by
  obtain ⟨gap, token, slice⟩ := g
  obtain ⟨rfl, hf⟩ := next?_eq_some_iff.mp h
  obtain ⟨q, value, ht, hs, rfl, hq, hv⟩ := hf.reads.of_isUnterminated hg
  obtain rfl : token = string value true := ht
  obtain rfl : slice = q :: value := hs
  have hn : nextIs isBlank (q :: (value ++ x)) = false := hf.slice q rfl
  have hu : gap ++ q :: value ++ [] ++ x = gap ++ q :: (value ++ x) := by simp
  have hd : (gap ++ q :: (value ++ x)).dropWhile isBlank = q :: (value ++ x) :=
    dropWhile_append_of_nextIs hf.gap hn
  have hgap : (gap ++ q :: (value ++ x)).takeWhile isBlank = gap :=
    takeWhile_append_of_nextIs hf.gap hn
  obtain ⟨c, x, rfl⟩ := List.exists_cons_of_ne_nil hne
  have hw : ∀ d ∈ value, (!(closers q).contains d) = true := by simpa using hv
  have hc : c ∉ closers q := by
    intro hc
    simp [isBlank_of_mem_closers hc] at hx
  simp only [hu]
  refine ⟨_, _, next?_eq_of_dropWhile hd, fun he => ?_⟩
  have hval := congrArg Token.value he
  simp only [hgap, scan_of_opensString macroNames (opensString_append hx hq), quoted_value,
    List.takeWhile_append_of_pos hw] at hval
  exact hc (by simpa [Token.value] using hval)

theorem map_token_spans_congr {offset : Nat} {gs gs' : List Segment}
    (h : spans offset gs = spans offset gs') : gs.map Segment.token = gs'.map Segment.token := by
  rw [← map_token_spans offset, h, map_token_spans]

theorem spans_ne_of_crosses (macroNames : Bool) {back : Lookback} {v : Text} {t : Token}
    (hk : back.kind = some t.kind) (hl : t.isUnterminated = false) (ht : Crosses t v)
    (offset : Nat) :
    spans offset (segments macroNames back v) ≠ spans offset (segments macroNames {} v) := by
  intro h
  have hhead := congrArg List.head? (map_token_spans_congr h)
  have hgap : ∀ b ∈ v.takeWhile isBlank, isBlank b = true := fun b => List.mem_takeWhile_imp
  rcases ht with ht | ⟨ht, cs, hd, hn⟩ | ⟨ht, cs, hd, hn⟩
  · simp [hl] at ht
  · have hin : InWord (back.past (v.takeWhile isBlank)) cs := .inl ⟨by simp [hk, ht], hn⟩
    have hout : ¬ InWord (Lookback.past {} (v.takeWhile isBlank)) cs := by
      rintro (⟨h, -⟩ | ⟨h, -⟩)
      · simp at h
      · simp [past_char_any _ hgap] at h
    rw [head?_segments hd, head?_segments hd, scan_of_inWord macroNames hin,
      scan_of_opensString macroNames (.inl ⟨rfl, hout⟩), quoted] at hhead
    split at hhead <;> simp [single] at hhead
  · rw [head?_segments hd, head?_segments hd,
      scan_question_of_colon macroNames (by simp [hk, ht]) hn,
      scan_question_of_not_variable macroNames (by simp [startsVariable])] at hhead
    simp at hhead

/-- Behind white space, what was read shows in a text just where the last token takes part in it. -/
theorem spans_past_iff (macroNames : Bool) {back : Lookback} {v : Text} {last : Option Token}
    (hk : back.kind = last.map kind) (hl : ∀ t ∈ last, t.isUnterminated = false)
    (hc : back.char.any Char.isAlphanum = false) (offset : Nat) :
    spans offset (segments macroNames back v) = spans offset (segments macroNames {} v) ↔
      ∀ t ∈ last, ¬ Crosses t v := by
  constructor
  · intro h t ht hcr
    obtain rfl := Option.mem_def.mp ht
    exact spans_ne_of_crosses macroNames hk (hl t rfl) hcr offset h
  · intro h
    have hno {k : Kind} {q : Char} (hcr : ∀ t : Token, t.kind = k ∧ Begins q v → Crosses t v)
        (hb : Begins q v) : back.kind = some k ↔ (none : Option Kind) = some k := by
      refine iff_of_false (fun hb' => ?_) (by simp)
      rw [hk, Option.map_eq_some_iff] at hb'
      obtain ⟨t, ht, hkt⟩ := hb'
      exact h t ht (hcr t ⟨hkt, hb⟩)
    have hc : back.char.any Char.isAlphanum = (Lookback.char {}).any Char.isAlphanum := hc
    rw [segments_congr hc (hno fun _ h => .inr (.inl h))
      (hno fun _ h => .inr (.inr h)) macroNames]

theorem getLast?_cons_or {α : Type} (a : α) (l : List α) (o : Option α) :
    (a :: l).getLast?.or o = l.getLast?.or (some a) := by
  rw [List.getLast?_cons]
  cases l.getLast? <;> rfl

theorem spans_append_iff (macroNames : Bool) {w : Text} (hne : w ≠ [])
    (hw : ∀ c ∈ w, isBlank c = true) (v : Text) (back : Lookback) (u : Text) (last : Option Token)
    (hk : back.kind = last.map kind) (hl : ∀ t ∈ last, t.isUnterminated = false) (offset : Nat) :
    spans offset (segments macroNames back (u ++ (w ++ v))) =
        spans offset (segments macroNames back u) ++
          spans (offset + (u ++ w).size) (segments macroNames {} v) ↔
      ∀ t ∈ ((segments macroNames back u).map Segment.token).getLast?.or last, ¬ Crosses t v := by
  -- `last` is the token behind `back`: once `u` has none left, it is the one that may cross
  induction back, u using segments.induct macroNames generalizing last offset with
  | case1 back u hn =>
      have hu := next?_eq_none_iff.mp hn
      have hb : ∀ c ∈ u ++ w, isBlank c = true := fun c hc =>
        (List.mem_append.mp hc).elim (hu c) (hw c)
      have hc : (back.past (u ++ w)).char.any Char.isAlphanum = false := by
        simp [past_char_any _ hb, hne]
      rw [segments_of_next?_none hn, ← List.append_assoc, segments_append_of_isBlank _ _ hb,
        spans_widen]
      have hk : (back.past (u ++ w)).kind = last.map kind := hk
      exact spans_past_iff macroNames hk hl hc _
  | case2 back u g rest hn ih =>
      have hx : ∀ c ∈ (w ++ v).head?, isBlank c = true := by
        obtain ⟨c, w, rfl⟩ := List.exists_cons_of_ne_nil hne
        intro d hd
        exact hw d (by simp_all)
      rw [segments_of_next?_some hn]
      cases hg : g.token.isUnterminated with
      | true =>
          obtain ⟨g', rest', hn', hne'⟩ := next?_append_of_unterminated (by simp [hne]) hx hn hg
          rw [segments_of_next?_some hn', (fits_of_next? hn).rest_eq_nil hg, segments_nil]
          refine iff_of_false (fun h => ?_) fun h => h g.token rfl (.inl hg)
          simp only [spans, List.cons_append, List.cons.injEq, Spanned.mk.injEq] at h
          exact hne' h.1.1
      | false =>
          have hi := ih (some g.token) rfl (by simpa using hg)
            (offset + g.gap.size + g.slice.size)
          rw [segments_of_next?_some (next?_append_of_terminated hx hn hg)]
          have hsize : (u ++ w).size = g.gap.size + g.slice.size + (rest ++ w).size := by
            simp only [← next?_append hn, Text.size_append, Nat.add_assoc]
          simp only [spans, List.cons_append, List.cons_inj_right, hsize, ← Nat.add_assoc]
          rw [hi, List.map_cons, getLast?_cons_or]

/-- A text cut at white space scans as its two parts do, unless the last token of the first takes
part in the second. -/
theorem tokenizeSpans_append_iff (macroNames : Bool) {w : Text} (hne : w ≠ [])
    (hw : ∀ c ∈ w, isBlank c = true) (u v : Text) :
    tokenizeSpans macroNames (u ++ w ++ v) =
        tokenizeSpans macroNames u ++
          (tokenizeSpans macroNames v).map (Spanned.shift (u ++ w).size) ↔
      ¬ ∃ t ∈ (tokenize macroNames u).getLast?, Crosses t v := by
  have h := spans_append_iff macroNames hne hw v {} u none rfl (by simp) 0
  rw [Option.or_none, Nat.zero_add, ← Nat.add_zero (u ++ w).size, spans_add,
    ← List.append_assoc] at h
  simp only [not_exists, not_and]
  exact h

/-- A name owns the apostrophe of `'b` behind it, and has no part in `b`. -/
theorem tokenizeSpans_append_iff_name :
    tokenizeSpans false (['$', 'a'] ++ [' '] ++ ['\'', 'b']) ≠
        tokenizeSpans false ['$', 'a'] ++
          (tokenizeSpans false ['\'', 'b']).map (Spanned.shift 3) ∧
      tokenizeSpans false (['$', 'a'] ++ [' '] ++ ['b']) =
        tokenizeSpans false ['$', 'a'] ++ (tokenizeSpans false ['b']).map (Spanned.shift 3) := by
  have hu : tokenize false ['$', 'a'] = [varName ['$', 'a']] := by
    rw [tokenize, ← segmentsWithin_eq_segments (Nat.le_refl 2)]
    decide +kernel
  have law (v : Text) := tokenizeSpans_append_iff false (w := [' ']) (by simp)
    (List.forall_mem_singleton.mpr (by decide)) ['$', 'a'] v
  simp only [hu] at law
  constructor
  · refine mt (law _).mp (not_not.mpr ⟨_, rfl, .inr (.inl ⟨rfl, ['b'], ?_⟩)⟩)
    decide
  · refine (law _).mpr ?_
    rintro ⟨t, ht, hc⟩
    obtain rfl := Option.mem_some_iff.mp ht
    have hd : List.dropWhile isBlank ['b'] = ['b'] := by decide
    rcases hc with hc | ⟨-, cs, hc, -⟩ | ⟨hc, -⟩
    · exact absurd hc (by decide)
    · exact absurd (hd.symm.trans hc) (by simp)
    · exact absurd hc (by decide)

end StoryText.Token
