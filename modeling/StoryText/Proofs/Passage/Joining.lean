import StoryText.Proofs.Passage.Layout

namespace StoryText.Passage

open Header (isHeaderLine)
open Text (IsBreakBehind)

/-- The header on the last line, if it has a title. No line of a body follows it. -/
def dangling? (ls : List Text) : Option Header := ls.getLast?.bind titled?

def bare (h : Header) : Passage := ⟨h.title, h.tags, h.config, [], []⟩

theorem dangling?_cons {ls : List Text} (h : ls ≠ []) (l : Text) :
    dangling? (l :: ls) = dangling? ls := by
  obtain ⟨m, ls, rfl⟩ := List.exists_cons_of_ne_nil h
  rw [dangling?, List.getLast?_cons_cons, dangling?]

section

variable {ms : List Text} (hne : ms ≠ []) (hm : ∀ m ∈ ms.head?, isHeaderLine m = true)
include hne hm

theorem takeWhile_append_header (ls : List Text) :
    (ls ++ ms).takeWhile (fun l => !isHeaderLine l) = ls.takeWhile fun l => !isHeaderLine l := by
  obtain ⟨m, ms, rfl⟩ := List.exists_cons_of_ne_nil hne
  have hm : isHeaderLine m = true := hm m rfl
  rw [List.takeWhile_append]
  split
  · next h =>
      rw [List.takeWhile_cons_of_neg (by simp [hm]), List.append_nil]
      exact ((List.takeWhile_prefix _).eq_of_length h).symm
  · rfl

theorem ofLines_append (ls : List Text) :
    ofLines (ls ++ ms) = ofLines ls ++ ((dangling? ls).toList.map bare ++ ofLines ms) := by
  induction ls with
  | nil => rfl
  | cons l ls ih =>
      rw [List.cons_append, ofLines, ofLines, takeWhile_append_header hne hm, ih,
        if_neg (by simp [hne]), List.append_assoc]
      by_cases hls : ls = []
      · subst hls
        rfl
      · rw [dangling?_cons hls, if_neg hls]

end

theorem isHeaderLine_of_head?_lines {b : Text} (hb : [':', ':'] <+: b) :
    ∀ l ∈ (Text.lines b).head?, isHeaderLine l = true := by
  obtain ⟨b, rfl⟩ := hb
  intro l hl
  have hcons (t : Text) : Text.lines (':' :: t) = Text.consHead ':' (Text.lines t) :=
    Text.lines_cons (by decide) fun h => absurd h (by decide)
  obtain ⟨m, ms, hb⟩ := List.exists_cons_of_ne_nil (Text.lines_ne_nil b)
  rw [List.cons_append, List.singleton_append, hcons, hcons, hb] at hl
  obtain rfl : ':' :: ':' :: m = l := Option.some.inj hl
  exact Header.isHeaderLine_iff.mpr ⟨m, rfl⟩

/-- Two files put together have the passages of both, and between them an empty one if the first file
ends in a header. -/
theorem split_append_break {a b brk : Text} (hb : [':', ':'] <+: b) (hk : IsBreakBehind a brk) :
    split (a ++ (brk ++ b)) =
      split a ++ ((dangling? (Text.lines a)).toList.map bare ++ split b) := by
  simp only [split_eq_ofLines, Text.lines_append hk]
  exact ofLines_append (Text.lines_ne_nil b) (isHeaderLine_of_head?_lines hb) _

theorem split_append_break_dangling :
    [':', ':'] <+: [':', ':'] ∧ IsBreakBehind ":: A [t]".toList ['\n'] ∧
      split ":: A [t]".toList = [] ∧ split [':', ':'] = [] ∧
      split ":: A [t]\n::".toList = [⟨['A'], [['t']], [], [], []⟩] := by
  have hb : [':', ':'] <+: [':', ':'] := List.prefix_rfl
  have hk : IsBreakBehind ":: A [t]".toList ['\n'] := .inr ⟨rfl, by decide⟩
  refine ⟨hb, hk, by decide, by decide, ?_⟩
  exact (split_append_break hb hk).trans (by decide)

end StoryText.Passage
