import StoryText.Proofs.Token.Occurrence

namespace StoryText.Token

theorem Shows.of_length {n : Nat} {cs : Text} (h : n ≤ cs.length) (x : Text) :
    Shows n cs (cs ++ x) := by
  induction cs generalizing n with
  | nil =>
      obtain rfl := Nat.le_zero.mp h
      exact .zero _ _
  | cons c cs ih =>
      cases n with
      | zero => exact .zero _ _
      | succ n => exact .next c (ih (Nat.le_of_succ_le_succ h))

/-- No rule looks further than two characters behind what it reads. -/
theorem next?_append_of_length {macroNames : Bool} {back : Lookback} {u rest : Text} {g : Segment}
    (h : next? macroNames back u = some (g, rest)) (hr : 2 ≤ rest.length) (x : Text) :
    next? macroNames back (u ++ x) = some (g, rest ++ x) := by
  refine next?_append_of_shows h (Shows.of_length hr x) fun hg => ?_
  rw [(fits_of_next? h).rest_eq_nil hg] at hr
  exact absurd hr (by decide)

theorem segments_append_of_length {macroNames : Bool} {back : Lookback} {u rest : Text}
    {before after : List Segment} {g : Segment}
    (h : segments macroNames back u = before ++ g :: after)
    (happ : textOf before ++ (g.gap ++ g.slice ++ rest) = u) (hr : 2 ≤ rest.length) (x : Text) :
    ∃ after', segments macroNames back (u ++ x) = before ++ g :: after' := by
  induction before generalizing back u with
  | nil =>
      obtain ⟨rest', hn, -⟩ := segments_eq_cons_iff.mp h
      obtain rfl : rest' = rest := List.append_cancel_left ((next?_append hn).trans happ.symm)
      exact ⟨_, segments_of_next?_some (next?_append_of_length hn hr x)⟩
  | cons g' before ih =>
      obtain ⟨rest', hn, hs⟩ := segments_eq_cons_iff.mp h
      have hrest : textOf before ++ (g.gap ++ g.slice ++ rest) = rest' := by
        rw [textOf_cons, List.append_assoc] at happ
        exact List.append_cancel_left (happ.trans (next?_append hn).symm)
      have hr' : 2 ≤ rest'.length := by
        rw [← hrest]
        simp only [List.length_append]
        omega
      obtain ⟨after', ha⟩ := ih hs hrest
      exact ⟨after', by rw [segments_of_next?_some (next?_append_of_length hn hr' x), ha]; rfl⟩

/-- Text that is added changes no token that ends two characters before. -/
theorem getElem?_tokenizeSpans_append (macroNames : Bool) {u : Text} {i : Nat} {t : Spanned}
    (h : (tokenizeSpans macroNames u)[i]? = some t)
    (hr : ∃ rest, u.between? t.stop u.size = some rest ∧ 2 ≤ rest.length) (v : Text) :
    (tokenizeSpans macroNames (u ++ v))[i]? = some t := by
  obtain ⟨hi, ht⟩ := List.getElem?_eq_some_iff.mp h
  have hsplit : tokenizeSpans macroNames u =
      (tokenizeSpans macroNames u).take i ++ t :: (tokenizeSpans macroNames u).drop (i + 1) := by
    rw [← ht, ← List.drop_eq_getElem_cons hi, List.take_append_drop]
  obtain ⟨gs, g, rest, ho, hb, -⟩ := exists_occurs hsplit
  obtain ⟨rest', hrest, hlen⟩ := hr
  obtain rfl : rest = rest' := Option.some.inj (ho.between?_rest.symm.trans hrest)
  have happ : textOf gs ++ (g.gap ++ g.slice ++ rest) = u := by
    simpa only [List.append_assoc] using ho.append
  obtain ⟨after', ha⟩ := segments_append_of_length ho.segments_eq happ hlen v
  have hlength : (spans 0 gs).length = i := by
    rw [hb, List.length_take]
    omega
  rw [tokenizeSpans_eq, ha, spans_append, List.getElem?_append_right hlength.le, hlength,
    Nat.sub_self, ho.spanned]
  simp [spans, Nat.add_assoc]

theorem getElem?_tokenizeSpans_append_ellipsis :
    (tokenizeSpans false ['a', '.', '.', '.', 'b', 'c'])[1]? = some ⟨text ['.', '.', '.'], 1, 4⟩ ∧
      (∃ rest, Text.between? ['a', '.', '.', '.', 'b', 'c'] 4 6 = some rest ∧ 2 ≤ rest.length) ∧
      (tokenizeSpans false ['a', '.', '.', '.', 'b', 'c', '\'', 'd'])[1]? =
        some ⟨text ['.', '.', '.'], 1, 4⟩ := by
  have h : (tokenizeSpans false ['a', '.', '.', '.', 'b', 'c'])[1]? =
      some ⟨text ['.', '.', '.'], 1, 4⟩ := by
    rw [tokenizeSpans_eq_within]
    decide +kernel
  have hr : ∃ rest, Text.between? ['a', '.', '.', '.', 'b', 'c'] 4 6 = some rest ∧
      2 ≤ rest.length := ⟨['b', 'c'], by decide, by decide⟩
  exact ⟨h, hr, getElem?_tokenizeSpans_append false h hr ['\'', 'd']⟩

example : (tokenizeSpans false ['.', '.'])[0]? = some ⟨text ['.'], 0, 1⟩ ∧
    (tokenizeSpans false ['.', '.', '.'])[0]? = some ⟨text ['.', '.', '.'], 0, 3⟩ := by
  cbv

end StoryText.Token
