import StoryText.Proofs.Passage.Splitter

namespace StoryText.Passage

open Header (BracketFree isHeaderLine ofText)
open Text (isBlank join pieces trim)

def IsItem (t : Text) : Prop := t ≠ [] ∧ ∀ c ∈ t, c ∉ [' ', '[', ']', '\n']

/-- What a passage of a file has to be. Its header says what it says again once it is written, and
no line of its body is a header. -/
structure WellFormed (p : Passage) : Prop where
  title_ne_nil : p.title ≠ []
  title_line : '\n' ∉ p.title
  title_stable : ofText p.title = { title := p.title }
  title_bare : p.tags ≠ [] ∨ p.config ≠ [] → ∀ c ∈ p.title, c ≠ '[' ∧ c ≠ ']'
  items : ∀ t ∈ p.tags ++ p.config, IsItem t
  body : ∀ l ∈ pieces '\n' p.raw, ¬ [':', ':'] <+: l
  content_eq : p.content = trim p.raw

def bracketed (ts : List Text) : Text := '[' :: (join [' '] ts ++ [']'])

def groups (p : Passage) : Text :=
  (if p.tags = [] ∧ p.config = [] then [] else ' ' :: bracketed p.tags) ++
    if p.config = [] then [] else ' ' :: bracketed p.config

def headerLine (p : Passage) : Text := ':' :: ':' :: ' ' :: (p.title ++ p.groups)

def written (p : Passage) : List Text := p.headerLine :: pieces '\n' p.raw

def render (ps : List Passage) : Text := join ['\r', '\n'] (ps.flatMap written)

theorem isBlank_of_mem_space : ∀ c ∈ [' '], isBlank c = true :=
  List.forall_mem_singleton.mpr (by decide)

theorem ofLines_append_of_body {body : List Text} (hb : ∀ l ∈ body, isHeaderLine l = false)
    (rest : List Text) : ofLines (body ++ rest) = ofLines rest := by
  induction body with
  | nil => rfl
  | cons l body ih =>
      rw [List.forall_mem_cons] at hb
      have hn : Header.ofLine? l = none :=
        Option.isNone_iff_eq_none.mp (Option.isSome_eq_false_iff.mp hb.1)
      rw [List.cons_append, ofLines_of_none hn, ih hb.2]

theorem ofLines_section {line : Text} {body rest : List Text} {h : Header}
    (hl : Header.ofLine? line = some h) (ht : h.title ≠ []) (hne : body ++ rest ≠ [])
    (hb : ∀ l ∈ body, isHeaderLine l = false) (hr : ∀ l ∈ rest.head?, isHeaderLine l = true) :
    ofLines (line :: (body ++ rest)) = ofBody h body :: ofLines rest := by
  have htake : (body ++ rest).takeWhile (fun l => !isHeaderLine l) = body := by
    apply Text.takeWhile_append_of_head?
    · simpa using hb
    · simpa using hr
  have htitled : titled? line = some h := by simp [titled?, hl, ht]
  rw [ofLines, if_neg hne, htitled, htake, ofLines_append_of_body hb]
  rfl

section Items

variable {ts : List Text} (h : ∀ t ∈ ts, IsItem t)
include h

theorem items_join : Header.items (join [' '] ts) = ts :=
  Header.items_join fun t ht => ⟨(h t ht).1, fun hc => (h t ht).2 _ hc (by simp)⟩

theorem notMem_join {c : Char} (hc : c ∈ ['[', ']', '\n']) : c ∉ join [' '] ts := by
  intro hj
  rcases Text.mem_join hj with hs | ⟨t, ht, hct⟩
  · obtain rfl : c = ' ' := by simpa using hs
    simp at hc
  · exact (h t ht).2 c hct (by simp_all)

theorem bracketFree_join : BracketFree (join [' '] ts) := by
  intro c hc
  rw [Bool.eq_false_iff]
  intro hb
  have hmem : c ∈ ['[', ']', '\n'] := by
    rcases Header.isBracket_iff.mp hb with rfl | rfl <;> simp
  exact notMem_join h hmem hc

theorem newline_notMem_bracketed : '\n' ∉ bracketed ts := by
  simp [bracketed, notMem_join h]

end Items

namespace WellFormed

variable {p : Passage}

theorem tags (h : p.WellFormed) : ∀ t ∈ p.tags, IsItem t :=
  fun t ht => h.items t (List.mem_append_left _ ht)

theorem config (h : p.WellFormed) : ∀ t ∈ p.config, IsItem t :=
  fun t ht => h.items t (List.mem_append_right _ ht)

theorem trim_title (h : p.WellFormed) (hb : BracketFree p.title) : trim p.title = p.title := by
  have hs := h.title_stable
  rw [Header.ofText_of_bracketFree hb] at hs
  exact congrArg Header.title hs

theorem lists?_groups (h : p.WellFormed) (hg : ¬ (p.tags = [] ∧ p.config = [])) :
    ∃ s, p.groups = ' ' :: '[' :: s ∧ Header.lists? ('[' :: s) = some (p.tags, p.config) := by
  have htags := bracketFree_join h.tags
  by_cases hc : p.config = []
  · have ht : p.tags ≠ [] := fun ht => hg ⟨ht, hc⟩
    refine ⟨join [' '] p.tags ++ ']' :: [], by simp [groups, ht, hc, bracketed], ?_⟩
    rw [Header.lists?_single htags (by simp), items_join h.tags, hc]
  · refine ⟨join [' '] p.tags ++ ']' :: ([' '] ++ '[' :: (join [' '] p.config ++ ']' :: [])),
      by simp [groups, hc, bracketed], ?_⟩
    rw [Header.lists?_pair htags isBlank_of_mem_space (bracketFree_join h.config) (by simp),
      items_join h.tags, items_join h.config]

theorem ofText_header (h : p.WellFormed) :
    ofText (p.title ++ p.groups) = ⟨p.title, p.tags, p.config⟩ := by
  by_cases hg : p.tags = [] ∧ p.config = []
  · simpa [groups, hg] using h.title_stable
  · have hbare : BracketFree p.title := by
      intro c hc
      have := h.title_bare (by tauto) c hc
      simp [Header.isBracket, this]
    have hfree := hbare.append (Header.bracketFree_of_isBlank isBlank_of_mem_space)
    have htrim : trim (p.title ++ [' ']) = p.title := by
      rw [Text.trim_append_right isBlank_of_mem_space, h.trim_title hbare]
    obtain ⟨s, hs, hl⟩ := h.lists?_groups hg
    have hwf := Header.wellFormed?_append hfree (by rw [htrim]; exact h.title_ne_nil)
      (s := '[' :: s) (by simp [Header.isBracket])
    rw [List.append_assoc, List.singleton_append, ← hs, htrim, hl] at hwf
    rw [ofText, hwf]
    rfl

theorem ofLine?_headerLine (h : p.WellFormed) :
    Header.ofLine? p.headerLine = some ⟨p.title, p.tags, p.config⟩ := by
  have hm : Text.after? Header.marker p.headerLine = some ([' '] ++ (p.title ++ p.groups)) :=
    Text.after?_eq_some_iff.mpr rfl
  rw [Header.ofLine?, hm, Option.map_some,
    Header.ofText_append_left isBlank_of_mem_space, h.ofText_header]

theorem newline_notMem_groups (h : p.WellFormed) : '\n' ∉ p.groups := by
  rw [groups, List.mem_append, not_or]
  constructor
  · split
    · simp
    · simp [newline_notMem_bracketed h.tags]
  · split
    · simp
    · simp [newline_notMem_bracketed h.config]

theorem newline_notMem_headerLine (h : p.WellFormed) : '\n' ∉ p.headerLine := by
  simp [headerLine, h.title_line, h.newline_notMem_groups]

theorem isHeaderLine_of_body (h : p.WellFormed) :
    ∀ l ∈ pieces '\n' p.raw, isHeaderLine l = false := by
  intro l hl
  rw [Bool.eq_false_iff, Ne, Header.isHeaderLine_iff]
  exact h.body l hl

end WellFormed

theorem isHeaderLine_of_head?_flatMap_written (ps : List Passage) :
    ∀ l ∈ (ps.flatMap written).head?, isHeaderLine l = true := by
  intro l hl
  cases ps with
  | nil => simp at hl
  | cons p ps =>
      obtain rfl : p.headerLine = l := by simpa [written] using hl
      exact Header.isHeaderLine_iff.mpr ⟨_, rfl⟩

theorem ofLines_flatMap_written {ps : List Passage} (h : ∀ p ∈ ps, p.WellFormed) :
    ofLines (ps.flatMap written) = ps := by
  induction ps with
  | nil => rfl
  | cons p ps ih =>
      rw [List.forall_mem_cons] at h
      obtain ⟨hp, hps⟩ := h
      have hne : pieces '\n' p.raw ++ ps.flatMap written ≠ [] := by
        simp [Text.pieces_ne_nil]
      rw [List.flatMap_cons, written, List.cons_append,
        ofLines_section hp.ofLine?_headerLine hp.title_ne_nil hne hp.isHeaderLine_of_body
          (isHeaderLine_of_head?_flatMap_written ps),
        ih hps, ofBody, Text.join_pieces, ← hp.content_eq]

/-- What is rendered reads back as it was. -/
theorem split_render {ps : List Passage} (h : ∀ p ∈ ps, p.WellFormed) :
    split (render ps) = ps := by
  cases ps with
  | nil => rfl
  | cons p ps =>
      have hline : ∀ l ∈ (p :: ps).flatMap written, '\n' ∉ l := by
        intro l hl
        obtain ⟨q, hq, hl⟩ := List.mem_flatMap.mp hl
        rcases List.mem_cons.mp hl with rfl | hl
        · exact (h q hq).newline_notMem_headerLine
        · exact Text.not_mem_of_mem_pieces hl
      rw [split_eq_ofLines, render, Text.lines_join (by simp [written]) hline, ofLines_flatMap_written h]

/-- A title that is no header of its own, carriage returns in a body, and a second group alone. -/
theorem split_render_stray :
    let ps : List Passage := [⟨"A [b".toList, [], [], ['x', '\r', 'y'], "x\ry\r\n".toList⟩,
      ⟨['B'], [], [['n'], ['o', '\t']], [], []⟩]
    (∀ p ∈ ps, p.WellFormed) ∧ split (render ps) = ps := by
  intro ps
  have hw : ∀ p ∈ ps, p.WellFormed := by
    intro p hp
    rcases List.mem_cons.mp hp with rfl | hp
    · exact ⟨by decide, by decide, by decide, by simp, by simp, by simp [pieces, Text.consHead],
        by decide⟩
    · obtain rfl := List.mem_singleton.mp hp
      exact ⟨by decide, by decide, by decide, by simp, by simp [IsItem], by simp [pieces],
        by decide⟩
  exact ⟨hw, split_render hw⟩

end StoryText.Passage
