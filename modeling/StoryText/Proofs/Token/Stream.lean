import StoryText.Proofs.Token.Context
import StoryText.Token.Segment

namespace StoryText.Token

open Text (isBlank)

theorem Lexeme.Covers.head? {l : Lexeme} {c : Char} {cs : Text} (h : l.Covers c cs) :
    l.slice.head? = some c := by
  obtain ⟨d, w, hs⟩ := List.exists_cons_of_ne_nil h.ne_nil
  have happ := h.append
  rw [hs, List.cons_append] at happ
  rw [hs, (List.cons.inj happ).1, List.head?_cons]

/-- The segment is what the rules read before a rest: blanks, then the slice of a rule. -/
structure Segment.Fits (g : Segment) (macroNames : Bool) (back : Lookback) (rest : Text) :
    Prop where
  gap : ∀ b ∈ g.gap, isBlank b = true
  slice : ∀ c ∈ g.slice.head?, isBlank c = false
  reads : Reads macroNames (back.past g.gap) g.token g.slice rest

theorem Segment.Fits.slice_ne_nil {macroNames : Bool} {back : Lookback} {rest : Text} {g : Segment}
    (h : g.Fits macroNames back rest) : g.slice ≠ [] := by
  obtain ⟨c, w, hs⟩ := h.reads.exists_cons
  simp [hs]

theorem next?_eq_none_iff {macroNames : Bool} {back : Lookback} {s : Text} :
    next? macroNames back s = none ↔ ∀ c ∈ s, isBlank c = true := by
  rw [← List.dropWhile_eq_nil_iff, next?]
  split <;> simp_all

theorem segments_nil (macroNames : Bool) (back : Lookback) : segments macroNames back [] = [] :=
  segments_of_next?_none (next?_eq_none_iff.mpr (by simp))

theorem Segment.Fits.rest_eq_nil {macroNames : Bool} {back : Lookback} {rest : Text} {g : Segment}
    (h : g.Fits macroNames back rest) (hg : g.token.isUnterminated = true) : rest = [] := by
  obtain ⟨-, -, -, -, hr, -⟩ := h.reads.of_isUnterminated hg
  exact hr

theorem Segment.Fits.next? {macroNames : Bool} {back : Lookback} {rest : Text} {g : Segment}
    (h : g.Fits macroNames back rest) :
    next? macroNames back (g.gap ++ g.slice ++ rest) = some (g, rest) := by
  obtain ⟨gap, token, slice⟩ := g
  obtain ⟨c, w, rfl⟩ := h.reads.exists_cons
  have hn : nextIs isBlank (c :: w ++ rest) = false := h.slice c rfl
  have hd := dropWhile_append_of_nextIs h.gap hn
  have ht := takeWhile_append_of_nextIs h.gap hn
  rw [List.append_assoc]
  simp only [List.cons_append] at hd ht ⊢
  simp only [Token.next?, hd, ht, h.reads.scan_eq]

theorem fits_of_next? {macroNames : Bool} {back : Lookback} {s rest : Text} {g : Segment}
    (h : next? macroNames back s = some (g, rest)) : g.Fits macroNames back rest := by
  unfold next? at h
  split at h
  · simp at h
  · next c cs hd =>
      obtain ⟨rfl, rfl⟩ := Prod.mk.inj (Option.some.inj h)
      refine ⟨fun b hb => List.mem_takeWhile_imp hb, ?_, scan_reads _ _ _ _⟩
      intro d hs
      have hb := nextIs_dropWhile isBlank s
      rw [(scan_covers _ _ _ _).head?, Option.mem_some_iff] at hs
      rw [hd, hs] at hb
      exact hb

theorem next?_eq_some_iff {macroNames : Bool} {back : Lookback} {s rest : Text} {g : Segment} :
    next? macroNames back s = some (g, rest) ↔
      g.gap ++ g.slice ++ rest = s ∧ g.Fits macroNames back rest := by
  constructor
  · exact fun h => ⟨next?_append h, fits_of_next? h⟩
  · rintro ⟨rfl, h⟩
    exact h.next?

theorem next?_append_of_shows {macroNames : Bool} {back : Lookback} {u x rest : Text} {g : Segment}
    (h : next? macroNames back u = some (g, rest)) (hs : Shows 2 rest (rest ++ x))
    (hu : g.token.isUnterminated = true → x = []) :
    next? macroNames back (u ++ x) = some (g, rest ++ x) := by
  obtain ⟨happ, hf⟩ := next?_eq_some_iff.mp h
  have hhead : g.token = text ['\''] → rest.head? = (rest ++ x).head? := by
    intro ht
    have hr := hf.reads
    rw [ht] at hr
    cases rest with
    | nil => exact absurd hr.nextIs_of_apostrophe (by simp [nextIs])
    | cons c rest => rfl
  have hend : g.token.isUnterminated = true → rest ++ x = [] := by
    intro hg
    rw [hf.rest_eq_nil hg, hu hg, List.append_nil]
  refine next?_eq_some_iff.mpr ⟨by rw [← List.append_assoc, happ], hf.gap, hf.slice, ?_⟩
  exact hf.reads.replace_rest hs hend hhead

/-- The segments of a text, `n` of them at most. It computes where `segments` does not. -/
def segmentsWithin (macroNames : Bool) (back : Lookback) (s : Text) : Nat → List Segment
  | 0 => []
  | n + 1 =>
    match next? macroNames back s with
    | none => []
    | some (g, rest) => g :: segmentsWithin macroNames g.lookback rest n

theorem segmentsWithin_eq_segments {macroNames : Bool} {n : Nat} {back : Lookback} {s : Text}
    (h : s.length ≤ n) : segmentsWithin macroNames back s n = segments macroNames back s := by
  induction n generalizing back s with
  | zero =>
      obtain rfl := List.length_eq_zero_iff.mp (Nat.le_zero.mp h)
      rw [segmentsWithin, segments_nil]
  | succ n ih =>
      cases hn : next? macroNames back s with
      | none => rw [segments_of_next?_none hn, segmentsWithin, hn]
      | some p =>
          obtain ⟨g, rest⟩ := p
          have hlt := next?_length_lt hn
          have hle : rest.length ≤ n := by omega
          simp only [segments_of_next?_some hn, segmentsWithin, hn, ih hle]

def textOf (gs : List Segment) : Text := gs.flatMap fun g => g.gap ++ g.slice

@[simp]
theorem textOf_nil : textOf [] = [] := rfl

@[simp]
theorem textOf_cons (g : Segment) (gs : List Segment) :
    textOf (g :: gs) = g.gap ++ g.slice ++ textOf gs := rfl

theorem exists_tail (macroNames : Bool) (back : Lookback) (s : Text) :
    ∃ tail, textOf (segments macroNames back s) ++ tail = s ∧ ∀ c ∈ tail, isBlank c = true := by
  induction back, s using segments.induct macroNames with
  | case1 back s h =>
      rw [segments_of_next?_none h]
      exact ⟨s, rfl, next?_eq_none_iff.mp h⟩
  | case2 back s g rest h ih =>
      obtain ⟨tail, ht, hb⟩ := ih
      refine ⟨tail, ?_, hb⟩
      rw [segments_of_next?_some h, textOf_cons, List.append_assoc, ht, next?_append h]

theorem past_past (back : Lookback) (b s : Text) : (back.past b).past s = back.past (b ++ s) := by
  simp [Lookback.past, List.getLast?_append, Option.or_assoc]

def widen (b : Text) : List Segment → List Segment
  | [] => []
  | g :: gs => { g with gap := b ++ g.gap } :: gs

theorem segments_append_of_isBlank (macroNames : Bool) (back : Lookback) {b : Text}
    (hb : ∀ c ∈ b, isBlank c = true) (s : Text) :
    segments macroNames back (b ++ s) = widen b (segments macroNames (back.past b) s) := by
  cases h : next? macroNames (back.past b) s with
  | none =>
      have hn : next? macroNames back (b ++ s) = none := by
        rw [next?_eq_none_iff] at h ⊢
        intro c hc
        exact (List.mem_append.mp hc).elim (hb c) (h c)
      rw [segments_of_next?_none h, segments_of_next?_none hn, widen]
  | some p =>
      obtain ⟨g, rest⟩ := p
      obtain ⟨happ, hf⟩ := next?_eq_some_iff.mp h
      have hn : next? macroNames back (b ++ s) = some ({ g with gap := b ++ g.gap }, rest) := by
        refine next?_eq_some_iff.mpr ⟨by simp [← happ], ?_, hf.slice, ?_⟩
        · intro c hc
          exact (List.mem_append.mp hc).elim (hb c) (hf.gap c)
        · rw [← past_past]
          exact hf.reads
      rw [segments_of_next?_some h, segments_of_next?_some hn, widen, Segment.lookback,
        Segment.lookback]

@[simp]
theorem past_kind (back : Lookback) (gap : Text) : (back.past gap).kind = back.kind := rfl

theorem next?_eq_of_dropWhile {macroNames : Bool} {back : Lookback} {s : Text} {c : Char}
    {cs : Text} (h : s.dropWhile isBlank = c :: cs) :
    next? macroNames back s =
      some (⟨s.takeWhile isBlank, (scan macroNames (back.past (s.takeWhile isBlank)) c cs).token,
        (scan macroNames (back.past (s.takeWhile isBlank)) c cs).slice⟩,
        (scan macroNames (back.past (s.takeWhile isBlank)) c cs).rest) := by
  simp only [next?, h]

theorem past_char_any (back : Lookback) {gap : Text} (hb : ∀ b ∈ gap, isBlank b = true) :
    (back.past gap).char.any Char.isAlphanum =
      (decide (gap = []) && back.char.any Char.isAlphanum) := by
  cases hl : gap.getLast? with
  | none =>
      rw [List.getLast?_eq_none_iff] at hl
      subst hl
      rfl
  | some b =>
      have hmem := List.mem_of_getLast? hl
      have hne := List.ne_nil_of_mem hmem
      simp [Lookback.past, hl, hne, isAlphanum_of_isBlank (hb b hmem)]

def Begins (q : Char) (s : Text) : Prop :=
  ∃ cs, s.dropWhile isBlank = q :: cs ∧ nextIs isLetter cs = true

theorem segments_congr {back back' : Lookback} {s : Text}
    (hc : back.char.any Char.isAlphanum = back'.char.any Char.isAlphanum)
    (hv : Begins '\'' s → (back.kind = some .varName ↔ back'.kind = some .varName))
    (hq : Begins '?' s → (back.kind = some .colon ↔ back'.kind = some .colon)) (macroNames : Bool) :
    segments macroNames back s = segments macroNames back' s := by
  cases hd : s.dropWhile isBlank with
  | nil =>
      have hb := List.dropWhile_eq_nil_iff.mp hd
      rw [segments_of_next?_none (next?_eq_none_iff.mpr hb),
        segments_of_next?_none (next?_eq_none_iff.mpr hb)]
  | cons c cs =>
      have hgap : ∀ b ∈ s.takeWhile isBlank, isBlank b = true := fun b => List.mem_takeWhile_imp
      have ha : c = '\'' → (InWord (back.past (s.takeWhile isBlank)) cs ↔
          InWord (back'.past (s.takeWhile isBlank)) cs) := by
        rintro rfl
        have hk : back.kind = some .varName ∧ nextIs isLetter cs = true ↔
            back'.kind = some .varName ∧ nextIs isLetter cs = true :=
          and_congr_left fun hn => hv ⟨cs, hd, hn⟩
        simp only [InWord, past_kind, past_char_any _ hgap, hc, hk]
      have hs := scan_congr ha (fun h hn => hq ⟨cs, h ▸ hd, hn⟩) macroNames
      rw [segments_of_next?_some (next?_eq_of_dropWhile hd),
        segments_of_next?_some (next?_eq_of_dropWhile hd), hs]

theorem head?_segments {macroNames : Bool} {back : Lookback} {s : Text} {c : Char} {cs : Text}
    (h : s.dropWhile isBlank = c :: cs) :
    ((segments macroNames back s).map Segment.token).head? =
      some (scan macroNames (back.past (s.takeWhile isBlank)) c cs).token := by
  rw [segments_of_next?_some (next?_eq_of_dropWhile h), List.map_cons, List.head?_cons]

end StoryText.Token
