import StoryText.Proofs.Passage.Layout
import StoryText.Proofs.Token.Concatenation
import StoryText.Proofs.Token.Payload

namespace StoryText.Token

open Text (isBlank trim)

def Spanned.trimEnd (t : Spanned) : Spanned :=
  match t.token with
  | string value true =>
    ⟨string (Text.trimEnd value) true, t.start, t.stop - (value.size - (Text.trimEnd value).size)⟩
  | _ => t

theorem trimEnd_of_value {t : Spanned}
    (h : t.token.isUnterminated = true → Text.trimEnd t.token.value = t.token.value) :
    t.trimEnd = t := by
  obtain ⟨token, start, stop⟩ := t
  unfold Spanned.trimEnd
  split
  · next v ht =>
      obtain rfl : token = string v true := ht
      have hv : Text.trimEnd v = v := h rfl
      simp [hv]
  · rfl

section

variable {e : Text} (he : ∀ c ∈ e, isBlank c = true)
include he

theorem trimEnd_open_append (value : Text) (start n : Nat) :
    Spanned.trimEnd ⟨string (value ++ e) true, start, start + (n + (value ++ e).size)⟩ =
      Spanned.trimEnd ⟨string value true, start, start + (n + value.size)⟩ := by
  have hle := Text.size_trimEnd_le value
  simp only [Spanned.trimEnd, Text.trimEnd_append_right he, Text.size_append, Spanned.mk.injEq,
    true_and]
  omega

theorem next?_append_of_open {macroNames : Bool} {back : Lookback} {u rest : Text} {g : Segment}
    (h : next? macroNames back u = some (g, rest)) (hg : g.token.isUnterminated = true) :
    ∃ q value, g = ⟨g.gap, string value true, q :: value⟩ ∧ rest = [] ∧
      next? macroNames back (u ++ e) =
        some (⟨g.gap, string (value ++ e) true, q :: (value ++ e)⟩, []) := by
  obtain ⟨gap, token, slice⟩ := g
  obtain ⟨rfl, hf⟩ := next?_eq_some_iff.mp h
  obtain ⟨q, value, ht, hs, rfl, hq, hv⟩ := hf.reads.of_isUnterminated hg
  obtain rfl : token = string value true := ht
  obtain rfl : slice = q :: value := hs
  have hx : ∀ c ∈ e.head?, isBlank c = true := fun c hc => he c (List.mem_of_mem_head? hc)
  have hve : ∀ d ∈ value ++ e, d ∉ closers q := by
    intro d hd
    rcases List.mem_append.mp hd with hd | hd
    · exact hv d hd
    · intro hc
      exact absurd (he d hd) (by simp [isBlank_of_mem_closers hc])
  refine ⟨q, value, rfl, rfl, next?_eq_some_iff.mpr ⟨by simp, hf.gap, hf.slice, ?_⟩⟩
  exact .unclosed (opensString_append hx hq) hve

theorem map_trimEnd_spans_append (macroNames : Bool) (back : Lookback) (u : Text) (offset : Nat) :
    (spans offset (segments macroNames back (u ++ e))).map Spanned.trimEnd =
      (spans offset (segments macroNames back u)).map Spanned.trimEnd := by
  induction back, u using segments.induct macroNames generalizing offset with
  | case1 back u hn =>
      have hb : next? macroNames back (u ++ e) = none := by
        rw [next?_eq_none_iff] at hn ⊢
        exact fun c hc => (List.mem_append.mp hc).elim (hn c) (he c)
      rw [segments_of_next?_none hn, segments_of_next?_none hb]
  | case2 back u g rest hn ih =>
      rw [segments_of_next?_some hn]
      cases hg : g.token.isUnterminated with
      | true =>
          obtain ⟨q, value, hgv, rfl, hn'⟩ := next?_append_of_open he hn hg
          rw [segments_of_next?_some hn', segments_nil, segments_nil, hgv]
          simp only [spans, List.map_cons, List.map_nil, Text.size_cons,
            trimEnd_open_append he]
      | false =>
          have hx : ∀ c ∈ e.head?, isBlank c = true := fun c hc => he c (List.mem_of_mem_head? hc)
          rw [segments_of_next?_some (next?_append_of_terminated hx hn hg)]
          simp only [spans, List.map_cons, ih]

end

theorem map_shift_tokenizeSpans (macroNames : Bool) (n : Nat) (s : Text) :
    (tokenizeSpans macroNames s).map (Spanned.shift n) = spans n (segments macroNames {} s) := by
  rw [tokenizeSpans_eq, ← spans_add, Nat.add_zero]

theorem tokenizeSpans_append_of_isBlank (macroNames : Bool) {b : Text}
    (hb : ∀ c ∈ b, isBlank c = true) (s : Text) :
    tokenizeSpans macroNames (b ++ s) = spans b.size (segments macroNames {} s) := by
  have hc : ((Lookback.past {} b).char.any Char.isAlphanum) =
      (Lookback.char {}).any Char.isAlphanum := by
    simp [past_char_any {} hb]
  rw [tokenizeSpans_eq, segments_append_of_isBlank _ _ hb, spans_widen, Nat.zero_add,
    segments_congr hc (fun _ => Iff.rfl) (fun _ => Iff.rfl)]

theorem trimEnd_value_of_mem {macroNames : Bool} {s : Text} {t : Spanned}
    (hs : ∀ c ∈ s.getLast?, isBlank c = false) (ht : t ∈ tokenizeSpans macroNames s)
    (hu : t.token.isUnterminated = true) : Text.trimEnd t.token.value = t.token.value := by
  obtain ⟨gs, g, rest, ho⟩ := exists_occurs_of_mem ht
  have htg : t.token = g.token := by rw [ho.spanned]
  obtain ⟨q, v, hg, hslice, rfl, -, -⟩ := ho.fits.reads.of_isUnterminated (htg ▸ hu)
  rw [htg, hg]
  refine Text.trimEnd_eq_self fun c hc => hs c ?_
  rw [Option.mem_def, value] at hc
  simp [← ho.append, hslice, List.getLast?_append, List.getLast?_cons, hc]

theorem map_trimEnd_tokenizeSpans (macroNames : Bool) (s : Text) :
    (tokenizeSpans macroNames s).map Spanned.trimEnd =
      (tokenizeSpans macroNames s).modifyLast Spanned.trimEnd := by
  rcases List.eq_nil_or_concat' (tokenizeSpans macroNames s) with h | ⟨ts, t, h⟩
  · rw [h]
    rfl
  · have hts : ∀ u ∈ ts, u.trimEnd = id u := by
      intro u hu
      refine trimEnd_of_value fun hopen => ?_
      obtain ⟨before, after, rfl⟩ := List.append_of_mem hu
      rw [List.append_assoc, List.cons_append] at h
      exact absurd (tokenizeSpans_unterminated_last h hopen) (by simp)
    rw [h, List.map_append, List.map_singleton, List.modifyLast_concat, List.map_congr_left hts,
      List.map_id]

/-- The tokens of the content are those of the raw text, as far in front as its first blanks are
long, and its last blanks are gone from an open string. -/
def Trims (macroNames : Bool) (raw content : Text) : Prop :=
  (tokenizeSpans macroNames content).map (Spanned.shift (Text.size (raw.takeWhile isBlank))) =
    (tokenizeSpans macroNames raw).modifyLast Spanned.trimEnd

theorem trims_trim (macroNames : Bool) (s : Text) : Trims macroNames s (trim s) := by
  have hb : ∀ c ∈ s.takeWhile isBlank, isBlank c = true := fun c => List.mem_takeWhile_imp
  obtain ⟨e, he, hs⟩ := Text.exists_trimEnd (Text.trimStart s)
  have hsplit : s.takeWhile isBlank ++ (trim s ++ e) = s := by
    rw [trim, hs, Text.trimStart, List.takeWhile_append_dropWhile]
  have hlast : ∀ t ∈ (tokenizeSpans macroNames (trim s)).map
      (Spanned.shift (Text.size (s.takeWhile isBlank))), t.trimEnd = id t := by
    rw [List.forall_mem_map]
    intro t ht
    have hv := trimEnd_value_of_mem (fun c => Text.isBlank_of_getLast?_trim) ht
    exact trimEnd_of_value hv
  calc (tokenizeSpans macroNames (trim s)).map (Spanned.shift (Text.size (s.takeWhile isBlank)))
      = ((tokenizeSpans macroNames (trim s)).map
          (Spanned.shift (Text.size (s.takeWhile isBlank)))).map Spanned.trimEnd := by
        rw [List.map_congr_left hlast, List.map_id]
    _ = (spans (Text.size (s.takeWhile isBlank))
          (segments macroNames {} (trim s ++ e))).map Spanned.trimEnd := by
        rw [map_shift_tokenizeSpans, map_trimEnd_spans_append he]
    _ = (tokenizeSpans macroNames s).map Spanned.trimEnd := by
        rw [← tokenizeSpans_append_of_isBlank macroNames hb, hsplit]
    _ = (tokenizeSpans macroNames s).modifyLast Spanned.trimEnd :=
        map_trimEnd_tokenizeSpans macroNames s

/-- Blanks around a text are not seen, but for those at the end of an open string. So it is with
the content and the raw text of every passage. -/
theorem tokenizeSpans_trim (macroNames : Bool) :
    (∀ s, Trims macroNames s (trim s)) ∧
      ∀ source, ∀ p ∈ Passage.split source, Trims macroNames p.raw p.content := by
  refine ⟨trims_trim macroNames, fun source p hp => ?_⟩
  rw [Passage.content_of_mem_split hp]
  exact trims_trim macroNames p.raw

theorem tokenizeSpans_trim_open :
    let source : Text := [':', ':', ' ', 'A', '\n', '\n', ' ', '\'', 'a', ' ', 'b', ' ', '\t', '\n']
    let p : Passage := ⟨['A'], [], [], ['\'', 'a', ' ', 'b'],
      ['\n', ' ', '\'', 'a', ' ', 'b', ' ', '\t', '\n']⟩
    p ∈ Passage.split source ∧ Trims false p.raw p.content := by
  intro source p
  have h : p ∈ Passage.split source := by decide +kernel
  exact ⟨h, (tokenizeSpans_trim false).2 source p h⟩

end StoryText.Token
