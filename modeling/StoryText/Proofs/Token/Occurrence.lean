import StoryText.Proofs.Text.Between
import StoryText.Proofs.Token.Stream
import StoryText.Token.Cursor

namespace StoryText.Token

def Lookback.behind (back : Lookback) (gs : List Segment) : Lookback :=
  (gs.getLast?.map Segment.lookback).getD back

@[simp]
theorem behind_nil (back : Lookback) : back.behind [] = back := rfl

@[simp]
theorem behind_cons (back : Lookback) (g : Segment) (gs : List Segment) :
    back.behind (g :: gs) = g.lookback.behind gs := by
  simp [Lookback.behind, List.getLast?_cons, Option.getD_map]

theorem segments_eq_cons_iff {macroNames : Bool} {back : Lookback} {s : Text} {g : Segment}
    {gs : List Segment} :
    segments macroNames back s = g :: gs ↔
      ∃ rest, next? macroNames back s = some (g, rest) ∧
        segments macroNames g.lookback rest = gs := by
  cases h : next? macroNames back s with
  | none => simp [segments_of_next?_none h]
  | some p =>
      obtain ⟨g', rest⟩ := p
      rw [segments_of_next?_some h, List.cons.injEq]
      constructor
      · rintro ⟨rfl, rfl⟩
        exact ⟨rest, rfl, rfl⟩
      · rintro ⟨rest, hs, rfl⟩
        obtain ⟨rfl, rfl⟩ := Prod.mk.inj (Option.some.inj hs)
        exact ⟨rfl, rfl⟩

theorem exists_rest {macroNames : Bool} {back : Lookback} {s : Text} {before after : List Segment}
    {g : Segment} (h : segments macroNames back s = before ++ g :: after) :
    ∃ rest, textOf before ++ (g.gap ++ g.slice ++ rest) = s ∧
      g.Fits macroNames (back.behind before) rest ∧
      segments macroNames g.lookback rest = after := by
  induction before generalizing back s with
  | nil =>
      obtain ⟨rest, hn, hr⟩ := segments_eq_cons_iff.mp h
      obtain ⟨happ, hf⟩ := next?_eq_some_iff.mp hn
      exact ⟨rest, happ, hf, hr⟩
  | cons g' before ih =>
      obtain ⟨rest', hn, hr⟩ := segments_eq_cons_iff.mp h
      obtain ⟨rest, happ, hf, ha⟩ := ih hr
      refine ⟨rest, ?_, by rwa [behind_cons], ha⟩
      rw [textOf_cons, List.append_assoc, happ, next?_append hn]

theorem spans_append (offset : Nat) (gs hs : List Segment) :
    spans offset (gs ++ hs) = spans offset gs ++ spans (offset + (textOf gs).size) hs := by
  induction gs generalizing offset with
  | nil => rfl
  | cons g gs ih =>
      simp only [List.cons_append, spans, ih, textOf_cons, Text.size_append, Nat.add_assoc]

theorem spans_eq_append_cons {offset : Nat} {gs : List Segment} {before after : List Spanned}
    {t : Spanned} (h : spans offset gs = before ++ t :: after) :
    ∃ gs₁ g gs₂, gs = gs₁ ++ g :: gs₂ ∧ spans offset gs₁ = before ∧
      t = ⟨g.token, offset + (textOf gs₁ ++ g.gap).size,
        offset + (textOf gs₁ ++ g.gap ++ g.slice).size⟩ ∧ spans t.stop gs₂ = after := by
  induction before generalizing offset gs with
  | nil =>
      cases gs with
      | nil => simp [spans] at h
      | cons g gs =>
          simp only [spans, List.nil_append, List.cons.injEq] at h
          obtain ⟨rfl, rfl⟩ := h
          exact ⟨[], g, gs, rfl, rfl, by simp [Nat.add_assoc], rfl⟩
  | cons u before ih =>
      cases gs with
      | nil => simp [spans] at h
      | cons g gs =>
          simp only [spans, List.cons_append, List.cons.injEq] at h
          obtain ⟨rfl, h⟩ := h
          obtain ⟨gs₁, g', gs₂, rfl, rfl, rfl, ha⟩ := ih h
          refine ⟨g :: gs₁, g', gs₂, rfl, rfl, ?_, ha⟩
          simp [Nat.add_assoc]

/-- A spanned token is read from a slice of the text, behind the segments before it. -/
structure Occurs (macroNames : Bool) (source : Text) (t : Spanned) (gs : List Segment) (g : Segment)
    (rest : Text) : Prop where
  segments_eq : segments macroNames {} source = gs ++ g :: segments macroNames g.lookback rest
  append : textOf gs ++ g.gap ++ g.slice ++ rest = source
  fits : g.Fits macroNames (Lookback.behind {} gs) rest
  spanned : t = ⟨g.token, (textOf gs ++ g.gap).size, (textOf gs ++ g.gap ++ g.slice).size⟩

namespace Occurs

variable {macroNames : Bool} {source rest : Text} {t : Spanned} {gs : List Segment} {g : Segment}

theorem between? (h : Occurs macroNames source t gs g rest) :
    source.between? t.start t.stop = some g.slice := by
  rw [← h.append, h.spanned]
  exact Text.between?_append (textOf gs ++ g.gap) g.slice rest

theorem between?_rest (h : Occurs macroNames source t gs g rest) :
    source.between? t.stop source.size = some rest := by
  rw [← h.append, h.spanned]
  exact Text.between?_append_end (textOf gs ++ g.gap ++ g.slice) rest

end Occurs

theorem tokenizeSpans_eq (macroNames : Bool) (source : Text) :
    tokenizeSpans macroNames source = spans 0 (segments macroNames {} source) := rfl

/-- It computes where `tokenizeSpans` does not. -/
theorem tokenizeSpans_eq_within (macroNames : Bool) (source : Text) :
    tokenizeSpans macroNames source =
      spans 0 (segmentsWithin macroNames {} source source.length) := by
  rw [tokenizeSpans_eq, segmentsWithin_eq_segments le_rfl]

theorem exists_occurs {macroNames : Bool} {source : Text} {before after : List Spanned}
    {t : Spanned} (h : tokenizeSpans macroNames source = before ++ t :: after) :
    ∃ gs g rest, Occurs macroNames source t gs g rest ∧ spans 0 gs = before ∧
      spans t.stop (segments macroNames g.lookback rest) = after := by
  rw [tokenizeSpans_eq] at h
  obtain ⟨gs, g, gs', hg, hb, ht, ha⟩ := spans_eq_append_cons h
  obtain ⟨rest, happ, hf, hr⟩ := exists_rest hg
  refine ⟨gs, g, rest, ⟨by rw [hg, hr], ?_, hf, ?_⟩, hb, by rwa [hr]⟩
  · simpa only [List.append_assoc] using happ
  · simpa only [Nat.zero_add] using ht

theorem exists_occurs_of_mem {macroNames : Bool} {source : Text} {t : Spanned}
    (h : t ∈ tokenizeSpans macroNames source) :
    ∃ gs g rest, Occurs macroNames source t gs g rest := by
  obtain ⟨before, after, hs⟩ := List.append_of_mem h
  obtain ⟨gs, g, rest, ho, -⟩ := exists_occurs hs
  exact ⟨gs, g, rest, ho⟩

end StoryText.Token
