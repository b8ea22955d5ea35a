import StoryText.Proofs.Passage.Grammar
import StoryText.Proofs.Passage.Layout
import StoryText.Proofs.Passage.RoundTrip

namespace StoryText.Passage

open Header (BracketFree ofText)
open Text (isBlank join pieces trim)

theorem isItem_of_mem_items {a t : Text} (ha : BracketFree a) (hn : '\n' ∉ a)
    (ht : t ∈ Header.items a) : IsItem t := by
  obtain ⟨hp, hne⟩ := List.mem_filter.mp ht
  refine ⟨by simpa using hne, fun c hc hbad => ?_⟩
  have hca := Text.mem_of_mem_pieces hp hc
  have hfree := ha c hca
  simp only [List.mem_cons, List.not_mem_nil, or_false] at hbad
  rcases hbad with rfl | rfl | rfl | rfl
  · exact Text.not_mem_of_mem_pieces hp hc
  · simp [Header.isBracket] at hfree
  · simp [Header.isBracket] at hfree
  · exact hn hca

theorem mem_pieces_join {ls : List Text} (hn : ∀ l ∈ ls, '\n' ∉ l) {l : Text}
    (h : l ∈ pieces '\n' (join ['\n'] ls)) : l = [] ∨ l ∈ ls := by
  by_cases hls : ls = []
  · subst hls
    exact .inl (List.mem_singleton.mp h)
  · rw [Text.pieces_join hls hn] at h
    exact .inr h

theorem wellFormed_of_place {ls : List Text} {x : Place} (hn : ∀ l ∈ ls, '\n' ∉ l)
    (hs : Starts ls x.line x.header) (he : Ends ls x.line x.stop) : (x.passage ls).WellFormed := by
  obtain ⟨line, stop, header⟩ := x
  obtain ⟨⟨r, hr, rfl⟩, ht, -⟩ := hs
  have hr : '\n' ∉ r := by
    have := hn _ (List.mem_of_getElem? hr)
    simp_all
  obtain ⟨t, htr, htitle⟩ := Header.exists_title r
  have hbody : ∀ l ∈ (ls.take stop).drop (line + 1), l ∈ ls := fun l hl =>
    List.mem_of_mem_take (List.mem_of_mem_drop hl)
  constructor
  case title_ne_nil => exact ht
  case title_line =>
      intro hc
      change '\n' ∈ (ofText r).title at hc
      rw [htitle] at hc
      exact hr (htr.subset (Text.mem_of_mem_trim hc))
  case title_stable => exact Header.ofText_title r
  case title_bare =>
      intro hl c hc
      have := Header.bracketFree_title hl c hc
      simpa [Header.isBracket] using this
  case items =>
      intro i hi
      obtain ⟨a, ha, hsub, hi⟩ := Header.exists_group hi
      exact isItem_of_mem_items ha (fun hc => hr (hsub hc)) hi
  case body =>
      intro l hl
      rcases mem_pieces_join (fun l hl => hn l (hbody l hl)) hl with rfl | hl
      · simp
      · exact he.body l hl
  case content_eq => rfl

/-- What holds of every passage of a file, whatever the file looks like. -/
theorem wellFormed_of_mem_split {source : Text} {p : Passage} (h : p ∈ split source) :
    p.WellFormed ∧ (∀ c ∈ p.title.head?, isBlank c = false) ∧
      ∀ c ∈ p.title.getLast?, isBlank c = false := by
  obtain ⟨places, hl, he⟩ := exists_layout (Text.lines source)
  rw [split_eq_ofLines, he] at h
  obtain ⟨x, hx, rfl⟩ := List.mem_map.mp h
  obtain ⟨r, -, hr⟩ := (hl.starts x hx).header
  obtain ⟨t, -, ht⟩ := Header.exists_title r
  have htitle : (x.passage (Text.lines source)).title = trim t := by
    rw [← ht, hr]
    rfl
  refine ⟨wellFormed_of_place (fun l hl => Text.not_mem_of_mem_lines hl) (hl.starts x hx)
    (hl.ends x hx), ?_, ?_⟩
  · rw [htitle]
    exact fun c hc => Text.isBlank_of_head?_trim hc
  · rw [htitle]
    exact fun c hc => Text.isBlank_of_getLast?_trim hc

/-- A title that only the fallback keeps, and a body with stray carriage returns. -/
theorem wellFormed_of_mem_split_stray :
    let body : Text := ['x', '\r', '\r', '\n', ':']
    let p : Passage := ⟨"[a] b".toList, [], [], body, body⟩
    p ∈ split "::\u3000[a] b\u00a0\r\nx\r\r\r\n:".toList ∧ p.WellFormed ∧
      (∀ c ∈ p.title.head?, isBlank c = false) ∧ ∀ c ∈ p.title.getLast?, isBlank c = false := by
  intro body p
  have h : p ∈ split "::\u3000[a] b\u00a0\r\nx\r\r\r\n:".toList := by decide +kernel
  exact ⟨h, wellFormed_of_mem_split h⟩

end StoryText.Passage
