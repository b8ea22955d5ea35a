import StoryText.Proofs.Passage.Header

namespace StoryText.Header

open Text (isBlank trim)

/-- What may follow a title, with the two lists it stands for: nothing, a group, or two groups with
blanks between and behind them. -/
inductive IsLists : Text → List Text → List Text → Prop
  | none : IsLists [] [] []
  | tags {a w : Text} (ha : BracketFree a) (hw : ∀ c ∈ w, isBlank c = true) :
      IsLists ('[' :: (a ++ ']' :: w)) (items a) []
  | config {a w b x : Text} (ha : BracketFree a) (hw : ∀ c ∈ w, isBlank c = true)
      (hb : BracketFree b) (hx : ∀ c ∈ x, isBlank c = true) :
      IsLists ('[' :: (a ++ ']' :: (w ++ '[' :: (b ++ ']' :: x)))) (items a) (items b)

inductive IsHeader : Text → Header → Prop
  | mk {t s : Text} {tags config : List Text} (ht : BracketFree t) (hne : trim t ≠ [])
      (hs : IsLists s tags config) : IsHeader (t ++ s) ⟨trim t, tags, config⟩

theorem group?_eq_some {s a rest : Text} (h : group? s = some (a, rest)) :
    BracketFree a ∧ s = a ++ ']' :: rest := by
  have hs := List.takeWhile_append_dropWhile (p := fun c => !isBracket c) (l := s)
  rw [group?] at h
  split at h
  · next hd =>
      rw [hd] at hs
      obtain ⟨rfl, rfl⟩ := Prod.mk.inj (Option.some.inj h)
      exact ⟨bracketFree_takeWhile s, hs.symm⟩
  · simp at h

theorem IsLists.head? {s : Text} {tags config : List Text} (h : IsLists s tags config) :
    ∀ c ∈ s.head?, isBracket c = true := by
  cases h <;> simp [isBracket]

theorem IsLists.lists?_eq {s : Text} {tags config : List Text} (h : IsLists s tags config) :
    lists? s = some (tags, config) := by
  cases h with
  | none => rfl
  | tags ha hw => exact lists?_single ha hw
  | config ha hw hb hx => exact lists?_pair ha hw hb hx

theorem isLists_of_lists? {s : Text} {tags config : List Text}
    (h : lists? s = some (tags, config)) : IsLists s tags config := by
  unfold lists? at h
  split at h
  · obtain ⟨rfl, rfl⟩ := Prod.mk.inj (Option.some.inj h)
    exact .none
  · next s =>
      obtain ⟨⟨a, rest⟩, hg, hrest⟩ := Option.bind_eq_some_iff.mp h
      obtain ⟨ha, rfl⟩ := group?_eq_some hg
      dsimp only at hrest
      split at hrest
      · next hd =>
          obtain ⟨rfl, rfl⟩ := Prod.mk.inj (Option.some.inj hrest)
          exact .tags ha (List.dropWhile_eq_nil_iff.mp hd)
      · next s hd =>
          obtain ⟨⟨b, x⟩, hg, hx⟩ := Option.bind_eq_some_iff.mp hrest
          obtain ⟨hb, rfl⟩ := group?_eq_some hg
          dsimp only at hx
          split at hx
          · next hall =>
              obtain ⟨rfl, rfl⟩ := Prod.mk.inj (Option.some.inj hx)
              rw [← List.takeWhile_append_dropWhile (p := isBlank) (l := rest), hd]
              exact .config ha (fun c hc => List.mem_takeWhile_imp hc) hb (List.all_eq_true.mp hall)
          · simp at hx
      · simp at hrest
  · simp at h

/-- The reader takes exactly the headers of the grammar. -/
theorem wellFormed?_eq_some_iff {r : Text} {h : Header} : wellFormed? r = some h ↔ IsHeader r h := by
  constructor
  · intro hr
    rw [wellFormed?] at hr
    split at hr
    · simp at hr
    · next hb =>
        obtain ⟨⟨tags, config⟩, hl, hr⟩ := Option.bind_eq_some_iff.mp hr
        obtain rfl := Option.some.inj hr
        have hne : trim (r.takeWhile fun c => !isBracket c) ≠ [] := fun hn =>
          hb (List.all_eq_true.mpr (Text.trim_eq_nil_iff.mp hn))
        have hm := IsHeader.mk (bracketFree_takeWhile r) hne (isLists_of_lists? hl)
        rwa [List.takeWhile_append_dropWhile] at hm
  · rintro ⟨ht, hne, hs⟩
    rw [wellFormed?_append ht hne hs.head?, hs.lists?_eq]
    rfl

theorem isHeader_ofText_or (r : Text) :
    IsHeader r (ofText r) ∨ (∀ h, ¬ IsHeader r h) ∧ ofText r = { title := trim r } := by
  cases hr : wellFormed? r with
  | some h =>
      rw [ofText, hr]
      exact .inl (wellFormed?_eq_some_iff.mp hr)
  | none =>
      refine .inr ⟨fun h hh => ?_, by rw [ofText, hr, Option.getD_none]⟩
      rw [wellFormed?_eq_some_iff.mpr hh] at hr
      simp at hr

theorem exists_title (r : Text) : ∃ t, t <+: r ∧ (ofText r).title = trim t := by
  rcases isHeader_ofText_or r with hr | ⟨-, hr⟩
  · generalize ofText r = h at hr
    obtain @⟨t, s, tags, config, -, -, -⟩ := hr
    exact ⟨t, List.prefix_append t s, rfl⟩
  · exact ⟨r, List.prefix_rfl, by rw [hr]⟩

theorem bracketFree_title {r : Text} (h : (ofText r).tags ≠ [] ∨ (ofText r).config ≠ []) :
    BracketFree (ofText r).title := by
  rcases isHeader_ofText_or r with hr | ⟨-, hr⟩
  · generalize ofText r = h at hr
    obtain ⟨ht, -, -⟩ := hr
    exact fun c hc => ht c (Text.mem_of_mem_trim hc)
  · simp [hr] at h

theorem IsLists.mem_items {s t : Text} {tags config : List Text} (h : IsLists s tags config)
    (ht : t ∈ tags ++ config) : ∃ a, BracketFree a ∧ a ⊆ s ∧ t ∈ items a := by
  cases h with
  | none => simp at ht
  | @tags a w ha _ => exact ⟨a, ha, fun c hc => by simp [hc], by simpa using ht⟩
  | @config a w b x ha _ hb _ =>
      rcases List.mem_append.mp ht with ht | ht
      · exact ⟨a, ha, fun c hc => by simp [hc], ht⟩
      · exact ⟨b, hb, fun c hc => by simp [hc], ht⟩

theorem exists_group {r t : Text} (h : t ∈ (ofText r).tags ++ (ofText r).config) :
    ∃ a, BracketFree a ∧ a ⊆ r ∧ t ∈ items a := by
  rcases isHeader_ofText_or r with hr | ⟨-, hr⟩
  · generalize ofText r = h' at hr h
    obtain ⟨-, -, hs⟩ := hr
    obtain ⟨a, ha, hsub, ht⟩ := hs.mem_items h
    exact ⟨a, ha, List.subset_append_of_subset_right _ hsub, ht⟩
  · simp [hr] at h

theorem ofText_title (r : Text) : ofText (ofText r).title = { title := (ofText r).title } := by
  rcases isHeader_ofText_or r with hr | ⟨hr, hof⟩
  · generalize ofText r = h at hr
    obtain ⟨ht, -, -⟩ := hr
    rw [ofText_of_bracketFree fun c hc => ht c (Text.mem_of_mem_trim hc), Text.trim_trim]
  · rw [hof, ofText_trim, hof]

/-- White space around a header is not seen, and a title says nothing else when it is read as a
header. -/
theorem ofText_pad_and_title {w₁ w₂ : Text} (h₁ : ∀ c ∈ w₁, isBlank c = true)
    (h₂ : ∀ c ∈ w₂, isBlank c = true) (r : Text) :
    ofText (w₁ ++ r ++ w₂) = ofText r ∧
      ofText (ofText r).title = { title := (ofText r).title } := by
  refine ⟨?_, ofText_title r⟩
  rw [ofText_append_right h₂, ofText_append_left h₁]

theorem ofText_pad_and_title_open :
    let w₁ : Text := ['\t']
    let w₂ : Text := ['\u3000', '\n']
    let r : Text := ['[', 'a', ']', ' ', '[', 'b']
    ((∀ c ∈ w₁, isBlank c = true) ∧ ∀ c ∈ w₂, isBlank c = true) ∧
      ofText (w₁ ++ r ++ w₂) = ofText r ∧
        ofText (ofText r).title = { title := (ofText r).title } := by
  intro w₁ w₂ r
  have h₁ : ∀ c ∈ w₁, isBlank c = true := List.all_iff_forall_prop.mp (by decide)
  have h₂ : ∀ c ∈ w₂, isBlank c = true := List.all_iff_forall_prop.mp (by decide)
  exact ⟨⟨h₁, h₂⟩, ofText_pad_and_title h₁ h₂ r⟩

end StoryText.Header
