import StoryText.Proofs.Passage.Splitter
import StoryText.Proofs.Text.Breaks

namespace StoryText.Passage

open Header (isHeaderLine ofText)
open Text (join trim)

structure Place where
  line : Nat
  stop : Nat
  header : Header

def Place.passage (ls : List Text) (x : Place) : Passage :=
  let raw := join ['\n'] ((ls.take x.stop).drop (x.line + 1))
  ⟨x.header.title, x.header.tags, x.header.config, trim raw, raw⟩

structure Starts (ls : List Text) (i : Nat) (h : Header) : Prop where
  header : ∃ r, ls[i]? = some (':' :: ':' :: r) ∧ ofText r = h
  titled : h.title ≠ []
  notLast : i + 1 < ls.length

/-- The next line with a header, whether it has a title or not, or the end of the file. -/
structure Ends (ls : List Text) (i j : Nat) : Prop where
  lt : i < j
  le : j ≤ ls.length
  body : ∀ l ∈ (ls.take j).drop (i + 1), ¬ [':', ':'] <+: l
  next : ∀ l ∈ ls[j]?, [':', ':'] <+: l

/-- The places are those of all lines that start a passage, in order and apart from one another. -/
structure Layout (ls : List Text) (places : List Place) : Prop where
  starts : ∀ x ∈ places, Starts ls x.line x.header
  ends : ∀ x ∈ places, Ends ls x.line x.stop
  complete : ∀ i h, Starts ls i h → ∃ x ∈ places, x.line = i
  ordered : places.Pairwise fun x y => x.stop ≤ y.line

def Place.down (x : Place) : Place := ⟨x.line + 1, x.stop + 1, x.header⟩

variable {l : Text} {ls : List Text} {places : List Place}

theorem starts_succ_iff {i : Nat} {h : Header} : Starts (l :: ls) (i + 1) h ↔ Starts ls i h := by
  constructor
  · rintro ⟨hr, ht, hn⟩
    exact ⟨by simpa using hr, ht, by simpa using hn⟩
  · rintro ⟨hr, ht, hn⟩
    exact ⟨by simpa using hr, ht, by simpa using hn⟩

theorem Ends.succ {i j : Nat} (h : Ends ls i j) : Ends (l :: ls) (i + 1) (j + 1) :=
  ⟨Nat.succ_lt_succ h.lt, Nat.succ_le_succ h.le, h.body, by simpa using h.next⟩

theorem starts_zero_iff {h : Header} :
    Starts (l :: ls) 0 h ↔ titled? l = some h ∧ ls ≠ [] := by
  rw [titled?_eq_some_iff]
  constructor
  · rintro ⟨⟨r, hr, he⟩, ht, hn⟩
    exact ⟨⟨⟨r, by simpa using hr, he⟩, ht⟩, by rintro rfl; simp at hn⟩
  · rintro ⟨⟨⟨r, hr, he⟩, ht⟩, hn⟩
    have := List.length_pos_iff.mpr hn
    exact ⟨⟨r, by simpa using hr, he⟩, ht, by simpa using this⟩

theorem takeWhile_eq_take (ls : List Text) :
    (ls.takeWhile fun m => !isHeaderLine m) = ls.take (ls.findIdx isHeaderLine) := by
  simp only [List.takeWhile_eq_take_findIdx_not, Bool.not_not]

theorem ends_zero : Ends (l :: ls) 0 (ls.findIdx isHeaderLine + 1) := by
  refine ⟨Nat.succ_pos _, Nat.succ_le_succ List.findIdx_le_length, ?_, ?_⟩
  · intro m hm
    rw [List.take_succ_cons, List.drop_one, List.tail_cons, ← takeWhile_eq_take] at hm
    rw [← Header.isHeaderLine_iff]
    simpa using List.mem_takeWhile_imp hm
  · intro m hm
    obtain ⟨hlt, rfl⟩ := List.getElem?_eq_some_iff.mp (Option.mem_def.mp hm)
    rw [← Header.isHeaderLine_iff]
    exact List.findIdx_getElem

theorem Ends.le_of_starts {i j k : Nat} {h : Header} (he : Ends ls i j) (hs : Starts ls k h)
    (hik : i < k) : j ≤ k := by
  obtain ⟨r, hr, -⟩ := hs.header
  by_contra hkj
  refine he.body _ ?_ ⟨r, rfl⟩
  rw [List.mem_iff_getElem?]
  refine ⟨k - (i + 1), ?_⟩
  rw [List.getElem?_drop, List.getElem?_take_of_lt (by omega), Nat.add_sub_cancel' hik]
  exact hr

theorem Layout.down (hl : Layout ls places) (h0 : ∀ h, ¬ Starts (l :: ls) 0 h) :
    Layout (l :: ls) (places.map Place.down) where
  starts := by
    rw [List.forall_mem_map]
    exact fun x hx => starts_succ_iff.mpr (hl.starts x hx)
  ends := by
    rw [List.forall_mem_map]
    exact fun x hx => (hl.ends x hx).succ
  complete := by
    intro i h hs
    cases i with
    | zero => exact absurd hs (h0 h)
    | succ i =>
        obtain ⟨x, hx, rfl⟩ := hl.complete i h (starts_succ_iff.mp hs)
        exact ⟨x.down, List.mem_map_of_mem hx, rfl⟩
  ordered := hl.ordered.map _ fun _ _ => Nat.succ_le_succ

theorem Layout.cons {j : Nat} {h : Header} (hl : Layout ls places) (hs : Starts (l :: ls) 0 h)
    (he : Ends (l :: ls) 0 j) : Layout (l :: ls) (⟨0, j, h⟩ :: places.map Place.down) where
  starts := by
    rw [List.forall_mem_cons, List.forall_mem_map]
    exact ⟨hs, fun x hx => starts_succ_iff.mpr (hl.starts x hx)⟩
  ends := by
    rw [List.forall_mem_cons, List.forall_mem_map]
    exact ⟨he, fun x hx => (hl.ends x hx).succ⟩
  complete := by
    intro i h' hs'
    cases i with
    | zero => exact ⟨_, List.mem_cons_self, rfl⟩
    | succ i =>
        obtain ⟨x, hx, rfl⟩ := hl.complete i h' (starts_succ_iff.mp hs')
        exact ⟨x.down, List.mem_cons_of_mem _ (List.mem_map_of_mem hx), rfl⟩
  ordered := by
    rw [List.pairwise_cons, List.forall_mem_map]
    refine ⟨fun x hx => ?_, hl.ordered.map _ fun _ _ => Nat.succ_le_succ⟩
    exact he.le_of_starts (starts_succ_iff.mpr (hl.starts x hx)) (Nat.succ_pos _)

theorem exists_layout (ls : List Text) :
    ∃ places, Layout ls places ∧ ofLines ls = places.map (Place.passage ls) := by
  induction ls with
  | nil => exact ⟨[], ⟨by simp, by simp, fun _ _ hs => absurd hs.notLast (by simp), .nil⟩, rfl⟩
  | cons l ls ih =>
      obtain ⟨places, hl, he⟩ := ih
      have hmap : (places.map Place.down).map (Place.passage (l :: ls)) = ofLines ls := by
        rw [he, List.map_map]
        rfl
      rw [ofLines]
      by_cases h0 : ∃ h, Starts (l :: ls) 0 h
      · obtain ⟨h, h0⟩ := h0
        obtain ⟨ht, hne⟩ := starts_zero_iff.mp h0
        refine ⟨_, hl.cons h0 ends_zero, ?_⟩
        rw [List.map_cons, hmap, if_neg hne, ht, takeWhile_eq_take]
        rfl
      · refine ⟨_, hl.down (not_exists.mp h0), ?_⟩
        simp only [starts_zero_iff, not_exists, not_and, not_not] at h0
        rw [hmap]
        cases ht : titled? l with
        | none => simp
        | some h => simp [h0 h ht]

theorem content_of_mem_split {source : Text} {p : Passage} (h : p ∈ split source) :
    p.content = Text.trim p.raw := by
  obtain ⟨places, -, he⟩ := exists_layout (Text.lines source)
  rw [split_eq_ofLines, he] at h
  obtain ⟨x, -, rfl⟩ := List.mem_map.mp h
  rfl

/-- The passages of a file stand at its titled header lines, the last line left out. Each owns the
lines between its header and the next one. -/
theorem split_eq_map_places (source : Text) :
    ∃ ls places, Text.IsLines source ls ∧ (∀ ms, Text.IsLines source ms → ms = ls) ∧
      Layout ls places ∧ split source = places.map (Place.passage ls) := by
  obtain ⟨places, hl, he⟩ := exists_layout (Text.lines source)
  refine ⟨Text.lines source, places, Text.isLines_lines source, fun ms hms => ?_, hl, ?_⟩
  · exact (Text.isLines_iff.mp hms).symm
  · rw [split_eq_ofLines, he]

end StoryText.Passage
