import StoryText.Passage.Header
import StoryText.Proofs.Text.Lines
import StoryText.Proofs.Text.Runs

namespace StoryText.Header

open Text (isBlank trim join)

def BracketFree (t : Text) : Prop := ∀ c ∈ t, isBracket c = false

theorem isBracket_iff {c : Char} : isBracket c = true ↔ c = '[' ∨ c = ']' := by
  simp [isBracket]

theorem isBracket_of_isBlank {c : Char} (h : isBlank c = true) : isBracket c = false := by
  rw [Bool.eq_false_iff]
  intro hc
  rcases isBracket_iff.mp hc with rfl | rfl <;> exact absurd h (by decide)

theorem eq_of_isBracket_head? {s : Text} (hs : ∀ c ∈ s.head?, isBracket c = true) :
    s = [] ∨ (∃ v, s = '[' :: v) ∨ ∃ v, s = ']' :: v := by
  cases s with
  | nil => exact .inl rfl
  | cons c s =>
      rcases isBracket_iff.mp (hs c rfl) with rfl | rfl
      · exact .inr (.inl ⟨s, rfl⟩)
      · exact .inr (.inr ⟨s, rfl⟩)

theorem BracketFree.append {s t : Text} (hs : BracketFree s) (ht : BracketFree t) :
    BracketFree (s ++ t) := fun c hc => (List.mem_append.mp hc).elim (hs c) (ht c)

theorem bracketFree_of_isBlank {w : Text} (hw : ∀ c ∈ w, isBlank c = true) : BracketFree w :=
  fun c hc => isBracket_of_isBlank (hw c hc)

theorem bracketFree_takeWhile (s : Text) : BracketFree (s.takeWhile fun c => !isBracket c) := by
  intro c hc
  simpa using List.mem_takeWhile_imp hc

theorem exists_run (s : Text) :
    ∃ t u, s = t ++ u ∧ BracketFree t ∧ ∀ c ∈ u.head?, isBracket c = true := by
  refine ⟨_, _, List.takeWhile_append_dropWhile.symm, bracketFree_takeWhile s, fun c hc => ?_⟩
  simpa using Text.eq_false_of_mem_head?_dropWhile hc

section

variable {t s : Text} (ht : BracketFree t) (hs : ∀ c ∈ s.head?, isBracket c = true)
include ht hs

theorem takeWhile_of_bracketFree : (t ++ s).takeWhile (fun c => !isBracket c) = t := by
  apply Text.takeWhile_append_of_head?
  · simpa [BracketFree] using ht
  · simpa using hs

theorem dropWhile_of_bracketFree : (t ++ s).dropWhile (fun c => !isBracket c) = s := by
  apply Text.dropWhile_append_of_head?
  · simpa [BracketFree] using ht
  · simpa using hs

end

theorem group?_append {a : Text} (ha : BracketFree a) (rest : Text) :
    group? (a ++ ']' :: rest) = some (a, rest) := by
  have hs : ∀ c ∈ (']' :: rest).head?, isBracket c = true := by simp [isBracket]
  simp only [group?, takeWhile_of_bracketFree ha hs, dropWhile_of_bracketFree ha hs]

theorem group?_end {a : Text} (ha : BracketFree a) : group? a = none := by
  have hd := dropWhile_of_bracketFree ha (s := []) (by simp)
  rw [List.append_nil] at hd
  rw [group?, hd]

theorem group?_nested {a : Text} (ha : BracketFree a) (s : Text) :
    group? (a ++ '[' :: s) = none := by
  have hs : ∀ c ∈ ('[' :: s).head?, isBracket c = true := by simp [isBracket]
  rw [group?, dropWhile_of_bracketFree ha hs]
  rfl

theorem lists?_single {a w : Text} (ha : BracketFree a) (hw : ∀ c ∈ w, isBlank c = true) :
    lists? ('[' :: (a ++ ']' :: w)) = some (items a, []) := by
  simp [lists?, group?_append ha, List.dropWhile_eq_nil_iff.mpr hw]

theorem lists?_pair {a b w x : Text} (ha : BracketFree a) (hw : ∀ c ∈ w, isBlank c = true)
    (hb : BracketFree b) (hx : ∀ c ∈ x, isBlank c = true) :
    lists? ('[' :: (a ++ ']' :: (w ++ '[' :: (b ++ ']' :: x)))) = some (items a, items b) := by
  have hd : (w ++ '[' :: (b ++ ']' :: x)).dropWhile isBlank = '[' :: (b ++ ']' :: x) := by
    rw [List.dropWhile_append_of_pos hw, List.dropWhile_cons_of_neg (by decide)]
  simp only [lists?, group?_append ha, group?_append hb, hd, List.all_eq_true.mpr hx,
    Option.bind_eq_bind, Option.bind_some, if_true]

theorem wellFormed?_append {t s : Text} (ht : BracketFree t) (hb : trim t ≠ [])
    (hs : ∀ c ∈ s.head?, isBracket c = true) :
    wellFormed? (t ++ s) = (lists? s).map fun l => ⟨trim t, l.1, l.2⟩ := by
  have hn : t.all isBlank = false := by
    rw [Bool.eq_false_iff]
    exact fun h => hb (Text.trim_eq_nil_iff.mpr (List.all_eq_true.mp h))
  rw [wellFormed?, takeWhile_of_bracketFree ht hs, dropWhile_of_bracketFree ht hs, hn]
  cases lists? s <;> rfl

theorem ofText_append_left {w : Text} (hw : ∀ c ∈ w, isBlank c = true) (r : Text) :
    ofText (w ++ r) = ofText r := by
  have hall : w.all isBlank = true := List.all_eq_true.mpr hw
  have htrim (t : Text) : trim (w ++ t) = trim t := Text.trim_append_left hw t
  have hp : ∀ c ∈ w, (!isBracket c) = true := by
    simpa [BracketFree] using bracketFree_of_isBlank hw
  have hwf : wellFormed? (w ++ r) = wellFormed? r := by
    simp only [wellFormed?, List.takeWhile_append_of_pos hp, List.dropWhile_append_of_pos hp,
      List.all_append, hall, Bool.true_and, htrim]
  rw [ofText, ofText, hwf, htrim]

theorem ofText_of_bracketFree {r : Text} (hr : BracketFree r) : ofText r = { title := trim r } := by
  by_cases hb : trim r = []
  · have hall : r.all isBlank = true := List.all_eq_true.mpr (Text.trim_eq_nil_iff.mp hb)
    have ht := takeWhile_of_bracketFree hr (s := []) (by simp)
    rw [List.append_nil] at ht
    rw [ofText, wellFormed?, ht, hall]
    rfl
  · have h := wellFormed?_append hr hb (s := []) (by simp)
    rw [List.append_nil] at h
    rw [ofText, h]
    rfl

section

variable {w : Text} (hw : ∀ c ∈ w, isBlank c = true)
include hw

theorem group?_append_right (s : Text) :
    group? (s ++ w) = (group? s).map fun p => (p.1, p.2 ++ w) := by
  obtain ⟨t, u, rfl, ht, hu⟩ := exists_run s
  rw [List.append_assoc]
  rcases eq_of_isBracket_head? hu with rfl | ⟨v, rfl⟩ | ⟨v, rfl⟩
  · rw [List.nil_append, List.append_nil, group?_end ht,
      group?_end (ht.append (bracketFree_of_isBlank hw))]
    rfl
  · rw [List.cons_append, group?_nested ht, group?_nested ht]
    rfl
  · rw [List.cons_append, group?_append ht, group?_append ht]
    rfl

theorem lists?_append_right {s : Text} (hs : s ≠ []) : lists? (s ++ w) = lists? s := by
  have hall : w.all isBlank = true := List.all_eq_true.mpr hw
  obtain ⟨c, s, rfl⟩ := List.exists_cons_of_ne_nil hs
  by_cases hc : c = '['
  · subst hc
    simp only [List.cons_append, lists?, group?_append_right hw s]
    cases group? s with
    | none => rfl
    | some p =>
        obtain ⟨tags, u⟩ := p
        simp only [Option.map_some, Option.bind_eq_bind, Option.bind_some, List.dropWhile_append]
        cases hd : u.dropWhile isBlank with
        | nil => simp [List.dropWhile_eq_nil_iff.mpr hw]
        | cons d v =>
            simp only [List.isEmpty_cons, Bool.false_eq_true, if_false, List.cons_append]
            by_cases hc : d = '['
            · subst hc
              simp only [group?_append_right hw v]
              cases group? v with
              | none => rfl
              | some q =>
                  simp only [Option.map_some, Option.bind_some, List.all_append, hall,
                    Bool.and_true]
            · simp [hc]
  · simp [lists?, hc]

theorem ofText_append_right (r : Text) : ofText (r ++ w) = ofText r := by
  obtain ⟨t, u, rfl, ht, hu⟩ := exists_run r
  by_cases hn : u = []
  · subst hn
    rw [List.append_nil, ofText_of_bracketFree (ht.append (bracketFree_of_isBlank hw)),
      ofText_of_bracketFree ht, Text.trim_append_right hw]
  · have hu' : ∀ c ∈ (u ++ w).head?, isBracket c = true := by
      rwa [List.head?_append_of_ne_nil _ hn]
    have hwf : wellFormed? (t ++ u ++ w) = wellFormed? (t ++ u) := by
      rw [List.append_assoc, wellFormed?, wellFormed?, takeWhile_of_bracketFree ht hu',
        takeWhile_of_bracketFree ht hu, dropWhile_of_bracketFree ht hu',
        dropWhile_of_bracketFree ht hu, lists?_append_right hw hn]
    rw [ofText, ofText, hwf, Text.trim_append_right hw]

end

theorem ofText_trim (r : Text) : ofText (trim r) = ofText r := by
  obtain ⟨b, e, hb, he, hr⟩ := Text.exists_trim r
  conv_rhs => rw [← hr, ofText_append_left hb, ofText_append_right he]

theorem items_join {ts : List Text} (h : ∀ t ∈ ts, t ≠ [] ∧ ' ' ∉ t) :
    items (join [' '] ts) = ts := by
  cases ts with
  | nil => rfl
  | cons t ts =>
      rw [items, Text.pieces_join (by simp) fun u hu => (h u hu).2, List.filter_eq_self]
      intro u hu
      simp [(h u hu).1]

def isHeaderLine (line : Text) : Bool := (ofLine? line).isSome

theorem isHeaderLine_iff {l : Text} : isHeaderLine l = true ↔ [':', ':'] <+: l := by
  rw [isHeaderLine, ofLine?, Option.isSome_map, Option.isSome_iff_exists]
  constructor
  · rintro ⟨r, hr⟩
    exact ⟨r, (Text.after?_eq_some_iff.mp hr).symm⟩
  · rintro ⟨r, hr⟩
    exact ⟨r, Text.after?_eq_some_iff.mpr hr.symm⟩

end StoryText.Header
