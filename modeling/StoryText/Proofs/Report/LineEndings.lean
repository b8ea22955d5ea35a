import StoryText.Proofs.Text.Lines
import StoryText.Report.Basic

namespace StoryText

namespace Text

def IsBareFeed (s : Text) (i : Nat) : Prop :=
  s[i]? = some '\n' ∧ (s.take i).getLast? ≠ some '\r'
  deriving Decidable

def marked (chosen : Finset Nat) (p : Char × Nat) : Text :=
  if p.2 ∈ chosen then ['\r', p.1] else [p.1]

def withReturns (chosen : Finset Nat) (s : Text) : Text := s.zipIdx.flatMap (marked chosen)

variable {chosen : Finset Nat} {s : Text} {c : Char}

theorem IsBareFeed.tail {i : Nat} (h : IsBareFeed (c :: s) (i + 1)) : IsBareFeed s i := by
  refine ⟨by simpa using h.1, fun hr => h.2 ?_⟩
  rw [List.take_succ_cons, List.getLast?_cons, hr]
  rfl

theorem flatMap_marked_cons (n : Nat) :
    ((c :: s).zipIdx n).flatMap (marked chosen) =
      marked chosen (c, n) ++ (s.zipIdx (n + 1)).flatMap (marked chosen) := by
  rw [List.zipIdx_cons, List.flatMap_cons]

theorem marked_of_notMem {n : Nat} (h : n ∉ chosen) : marked chosen (c, n) = [c] := if_neg h

theorem head?_flatMap_marked {n : Nat}
    (h : '\n' ∈ ((s.zipIdx n).flatMap (marked chosen)).head?) : '\n' ∈ s.head? := by
  cases s with
  | nil => simp at h
  | cons c s =>
      rw [flatMap_marked_cons, marked] at h
      split at h
      · simp at h
      · simpa using h

theorem lines_flatMap_marked {n : Nat} (h : ∀ i, n + i ∈ chosen → IsBareFeed s i) :
    lines ((s.zipIdx n).flatMap (marked chosen)) = lines s := by
  have htail {c : Char} {s : Text} {n : Nat} (h : ∀ i, n + i ∈ chosen → IsBareFeed (c :: s) i)
      (i : Nat) (hi : n + 1 + i ∈ chosen) : IsBareFeed s i :=
    (h (i + 1) (by rwa [Nat.add_right_comm] at hi)).tail
  fun_induction lines s generalizing n with
  | case1 => rfl
  | case2 t ih =>
      have hreturn : n ∉ chosen := fun hn => by simpa using (h 0 hn).1
      have hfeed : n + 1 ∉ chosen := fun hn => (h 1 hn).2 rfl
      rw [flatMap_marked_cons, flatMap_marked_cons, marked_of_notMem hreturn,
        marked_of_notMem hfeed]
      exact congrArg ([] :: ·) (ih (htail (htail h)))
  | case3 t _ ih =>
      rw [flatMap_marked_cons, marked]
      split
      · exact congrArg ([] :: ·) (ih (htail h))
      · exact congrArg ([] :: ·) (ih (htail h))
  | case4 c t hr hc ih =>
      have hn : n ∉ chosen := fun hn => hc (by simpa using (h 0 hn).1)
      have hhead (hcr : c = '\r') :
          '\n' ∉ ((t.zipIdx (n + 1)).flatMap (marked chosen)).head? := by
        intro hd
        obtain ⟨t, rfl⟩ := List.head?_eq_some_iff.mp (head?_flatMap_marked hd)
        exact hr t hcr rfl
      rw [flatMap_marked_cons, marked_of_notMem hn, List.singleton_append, lines_cons hc hhead,
        ih (htail h)]

theorem lines_withReturns (h : ∀ i ∈ chosen, IsBareFeed s i) :
    lines (withReturns chosen s) = lines s := by
  apply lines_flatMap_marked
  intro i hi
  rw [Nat.zero_add] at hi
  exact h i hi

end Text

namespace Report

open Text (IsBareFeed withReturns)

theorem ofSource_congr {s t : Text} (h : Passage.split s = Passage.split t) (r : Report) :
    r.ofSource s = r.ofSource t := by
  rw [ofSource, ofSource, h]

/-- Carriage returns in front of line feeds that have none change neither the passages nor, in its
text, its error or its events, any report. -/
theorem ofSource_withReturns {chosen : Finset Nat} {source : Text}
    (h : ∀ i ∈ chosen, IsBareFeed source i) :
    Passage.split (withReturns chosen source) = Passage.split source ∧
      ∀ r : Report, r.ofSource (withReturns chosen source) = r.ofSource source := by
  have hsplit : Passage.split (withReturns chosen source) = Passage.split source := by
    rw [Passage.split, Text.lines_withReturns h, Passage.split]
  exact ⟨hsplit, ofSource_congr hsplit⟩

theorem ofSource_withReturns_mixed :
    (∀ i ∈ ({4, 8} : Finset Nat), IsBareFeed ":: A\n\r\nb\n\r\r\nc".toList i) ∧
      withReturns {4, 8} ":: A\n\r\nb\n\r\r\nc".toList = ":: A\r\n\r\nb\r\n\r\r\nc".toList ∧
      Passage.split ":: A\r\n\r\nb\r\n\r\r\nc".toList =
        [⟨['A'], [], [], "b\n\r\nc".toList, "\nb\n\r\nc".toList⟩] ∧
      ∀ r : Report, r.ofSource ":: A\r\n\r\nb\r\n\r\r\nc".toList =
        r.ofSource ":: A\n\r\nb\n\r\r\nc".toList := by
  have h : ∀ i ∈ ({4, 8} : Finset Nat), IsBareFeed ":: A\n\r\nb\n\r\r\nc".toList i := by decide
  obtain ⟨hsplit, hreport⟩ := ofSource_withReturns h
  have hreturns : withReturns {4, 8} ":: A\n\r\nb\n\r\r\nc".toList =
      ":: A\r\n\r\nb\r\n\r\r\nc".toList := by decide
  rw [hreturns] at hsplit hreport
  refine ⟨h, hreturns, ?_, hreport⟩
  rw [hsplit]
  decide +kernel

end Report

end StoryText
