import StoryText.Token.Scan

namespace StoryText.Token

open Text (isBlank)

/-- One step of the scan: the blanks skipped, the token and the text it was read from. -/
structure Segment where
  gap : Text
  token : Token
  slice : Text
  deriving DecidableEq, Repr

def Lookback.past (back : Lookback) (gap : Text) : Lookback :=
  { back with char := gap.getLast?.or back.char }

def Segment.lookback (g : Segment) : Lookback := ⟨some g.token.kind, g.slice.getLast?⟩

def next? (macroNames : Bool) (back : Lookback) (s : Text) : Option (Segment × Text) :=
  match s.dropWhile isBlank with
  | [] => none
  | c :: cs =>
    let gap := s.takeWhile isBlank
    let l := scan macroNames (back.past gap) c cs
    some (⟨gap, l.token, l.slice⟩, l.rest)

theorem next?_append {macroNames : Bool} {back : Lookback} {s rest : Text} {g : Segment}
    (h : next? macroNames back s = some (g, rest)) : g.gap ++ g.slice ++ rest = s := by
  unfold next? at h
  split at h
  · simp at h
  · next c cs hd =>
      obtain ⟨rfl, rfl⟩ := Prod.mk.inj (Option.some.inj h)
      rw [List.append_assoc, (scan_covers _ _ _ _).append, ← hd, List.takeWhile_append_dropWhile]

theorem next?_slice_ne_nil {macroNames : Bool} {back : Lookback} {s rest : Text} {g : Segment}
    (h : next? macroNames back s = some (g, rest)) : g.slice ≠ [] := by
  unfold next? at h
  split at h
  · simp at h
  · obtain ⟨rfl, rfl⟩ := Prod.mk.inj (Option.some.inj h)
    exact (scan_covers _ _ _ _).ne_nil

theorem next?_length_lt {macroNames : Bool} {back : Lookback} {s rest : Text} {g : Segment}
    (h : next? macroNames back s = some (g, rest)) : rest.length < s.length := by
  have happ := next?_append h
  have hpos := List.length_pos_iff.mpr (next?_slice_ne_nil h)
  rw [← happ]
  simp only [List.length_append]
  omega

def segments (macroNames : Bool) (back : Lookback) (s : Text) : List Segment :=
  match _h : next? macroNames back s with
  | none => []
  | some (g, rest) => g :: segments macroNames g.lookback rest
termination_by s.length
decreasing_by exact next?_length_lt _h

theorem segments_of_next?_none {macroNames : Bool} {back : Lookback} {s : Text}
    (h : next? macroNames back s = none) : segments macroNames back s = [] := by
  rw [segments]; split <;> simp_all

theorem segments_of_next?_some {macroNames : Bool} {back : Lookback} {s rest : Text} {g : Segment}
    (h : next? macroNames back s = some (g, rest)) :
    segments macroNames back s = g :: segments macroNames g.lookback rest := by
  rw [segments]; split <;> simp_all

end StoryText.Token
