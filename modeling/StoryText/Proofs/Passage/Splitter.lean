import StoryText.Passage.Basic
import StoryText.Proofs.Passage.Header

namespace StoryText.Passage

open Header (isHeaderLine ofText)

def titled? (l : Text) : Option Header := (Header.ofLine? l).filter fun h => !h.title.isEmpty

theorem titled?_eq_some_iff {l : Text} {h : Header} :
    titled? l = some h ↔ (∃ r, l = ':' :: ':' :: r ∧ ofText r = h) ∧ h.title ≠ [] := by
  rw [titled?, Option.filter_eq_some_iff, Header.ofLine?, Option.map_eq_some_iff]
  refine and_congr (exists_congr fun r => and_congr_left' Text.after?_eq_some_iff) ?_
  simp

/-- The passages of lines, each told by its header line and what follows it. -/
def ofLines : List Text → List Passage
  | [] => []
  | l :: ls =>
    (if ls = [] then [] else (titled? l).toList.map fun h =>
      ofBody h (ls.takeWhile fun m => !isHeaderLine m)) ++ ofLines ls

theorem ofLines_of_none {l : Text} (h : Header.ofLine? l = none) (ls : List Text) :
    ofLines (l :: ls) = ofLines ls := by
  simp [ofLines, titled?, h]

namespace Splitter

variable {l : Text} {h : Header}

theorem toList_flush (s : Splitter) :
    s.flush.toList = s.done.toList ++ s.header?.toList.map fun h => ofBody h s.buffer.toList := by
  rw [flush]
  cases s.header? <;> simp

def opened (s : Splitter) (ls : List Text) : List Passage :=
  if s.buffer.toList = [] ∧ ls = [] then [] else
    s.header?.toList.map fun h => ofBody h (s.buffer.toList ++ ls.takeWhile fun m => !isHeaderLine m)

/-- All passages of a file that is read up to these lines. -/
def yields (s : Splitter) (ls : List Text) : List Passage :=
  s.done.toList ++ (s.opened ls ++ ofLines ls)

theorem yields_of_header (s : Splitter) (ls : List Text) (hl : Header.ofLine? l = some h) :
    (s.step l).yields ls = s.yields (l :: ls) := by
  have hopened : s.opened (l :: ls) =
      s.header?.toList.map fun h => ofBody h s.buffer.toList := by
    simp [opened, isHeaderLine, hl]
  have hnew : (s.step l).opened ls ++ ofLines ls = ofLines (l :: ls) := by
    simp [step, hl, opened, ofLines, titled?]
  have hdone : (s.step l).done = s.flush := by rw [step, hl]
  rw [yields, hnew, hdone, toList_flush, yields, hopened, List.append_assoc]

theorem yields_of_body (s : Splitter) (ls : List Text) (hl : Header.ofLine? l = none) :
    (s.step l).yields ls = s.yields (l :: ls) := by
  have hopened : (s.step l).opened ls = s.opened (l :: ls) := by
    simp [step, hl, opened, isHeaderLine]
  have hdone : (s.step l).done = s.done := by rw [step, hl]
  rw [yields, yields, ofLines_of_none hl, hopened, hdone]

theorem yields_step (s : Splitter) (l : Text) (ls : List Text) :
    (s.step l).yields ls = s.yields (l :: ls) := by
  cases hl : Header.ofLine? l with
  | none => exact s.yields_of_body ls hl
  | some h => exact s.yields_of_header ls hl

theorem toList_finish (s : Splitter) : s.finish.toList = s.yields [] := by
  by_cases hb : s.buffer = #[] <;> simp [finish, yields, opened, ofLines, toList_flush, hb]

theorem foldl_step (s : Splitter) (ls : List Text) :
    (ls.foldl step s).finish.toList = s.yields ls := by
  induction ls generalizing s with
  | nil => exact s.toList_finish
  | cons l ls ih => rw [List.foldl_cons, ih, yields_step]

end Splitter

/-- The loop finds at each header line what stands below it. -/
theorem split_eq_ofLines (source : Text) : split source = ofLines (Text.lines source) := by
  rw [split, Splitter.foldl_step]
  simp [Splitter.yields, Splitter.opened]

end StoryText.Passage
