import StoryText.Proofs.Passage.Grammar

namespace StoryText.Header

open Text (isBlank trim)

inductive Part
  | opening
  | closing
  | run (t : Text)
  deriving DecidableEq, Repr

def consRun (c : Char) : List Part → List Part
  | .run t :: ps => .run (c :: t) :: ps
  | ps => .run [c] :: ps

def parts : Text → List Part
  | [] => []
  | c :: s =>
    if c = '[' then .opening :: parts s
    else if c = ']' then .closing :: parts s
    else consRun c (parts s)

inductive State
  | title | between | inGroup
  deriving DecidableEq, Repr

/-- A walk over the parts of a header. How many groups there are it asks at the end only. -/
structure Walk where
  state : State := .title
  title : Text := []
  group : Text := []
  groups : List Text := []
  deriving DecidableEq, Repr

namespace Walk

def step (w : Walk) (p : Part) : Option Walk :=
  match w.state, p with
  | .title, .run t => some { w with state := .between, title := t }
  | .between, .run t => if trim t = [] then some w else none
  | .title, .opening => some { w with state := .inGroup, group := [] }
  | .between, .opening => some { w with state := .inGroup, group := [] }
  | .inGroup, .run t => some { w with group := t }
  | .inGroup, .closing => some { w with state := .between, groups := w.groups ++ [w.group] }
  | .title, .closing => none
  | .between, .closing => none
  | .inGroup, .opening => none

def accept? (w : Walk) : Option Header :=
  if w.state = .inGroup ∨ trim w.title = [] ∨ 2 < w.groups.length then none
  else
    let lists := w.groups.map items
    some ⟨trim w.title, lists.headD [], lists.tail.headD []⟩

def over? (w : Walk) (s : Text) : Option Header := ((parts s).foldlM step w).bind accept?

end Walk

theorem parts_opening (s : Text) : parts ('[' :: s) = .opening :: parts s := rfl

theorem parts_closing (s : Text) : parts (']' :: s) = .closing :: parts s := rfl

theorem consRun_parts {s : Text} (hs : ∀ c ∈ s.head?, isBracket c = true) (c : Char) :
    consRun c (parts s) = .run [c] :: parts s := by
  rcases eq_of_isBracket_head? hs with rfl | ⟨v, rfl⟩ | ⟨v, rfl⟩
  · rfl
  · rw [parts_opening, consRun]
    simp
  · rw [parts_closing, consRun]
    simp

theorem parts_append {t s : Text} (ht : BracketFree t) (hne : t ≠ [])
    (hs : ∀ c ∈ s.head?, isBracket c = true) : parts (t ++ s) = .run t :: parts s := by
  induction t with
  | nil => exact absurd rfl hne
  | cons c t ih =>
      have hc := ht c (by simp)
      simp only [isBracket, Bool.or_eq_false_iff, beq_eq_false_iff_ne] at hc
      rw [List.cons_append, parts, if_neg hc.1, if_neg hc.2]
      by_cases htn : t = []
      · subst htn
        exact consRun_parts hs c
      · rw [ih (fun d hd => ht d (by simp [hd])) htn, consRun]

namespace Walk

variable {w w' : Walk} {p : Part}

theorem over?_nil (w : Walk) : w.over? [] = w.accept? := rfl

theorem over?_opening (w : Walk) (s : Text) :
    w.over? ('[' :: s) = (w.step .opening).bind fun w => w.over? s := by
  rw [over?, parts_opening]
  exact Option.bind_assoc _ _ _

theorem over?_closing (w : Walk) (s : Text) :
    w.over? (']' :: s) = (w.step .closing).bind fun w => w.over? s := by
  rw [over?, parts_closing]
  exact Option.bind_assoc _ _ _

theorem over?_run (w : Walk) {t s : Text} (ht : BracketFree t) (hne : t ≠ [])
    (hs : ∀ c ∈ s.head?, isBracket c = true) :
    w.over? (t ++ s) = (w.step (.run t)).bind fun w => w.over? s := by
  rw [over?, parts_append ht hne hs]
  exact Option.bind_assoc _ _ _

/-- Nothing that comes can make a header of it: the title is read and blank, or there is one group
too many. -/
def Dead (w : Walk) : Prop :=
  w.state ≠ .title ∧
    (trim w.title = [] ∨ 2 < w.groups.length + if w.state = .inGroup then 1 else 0)

theorem Dead.step (hd : w.Dead) (h : w.step p = some w') : w'.Dead := by
  obtain ⟨state, title, group, groups⟩ := w
  obtain ⟨hs, hd⟩ := hd
  cases state with
  | title => exact absurd rfl hs
  | between =>
      cases p with
      | opening =>
          obtain rfl := Option.some.inj h
          refine ⟨by simp, hd.imp_right fun hd => ?_⟩
          simp only [reduceCtorEq, if_false, if_true] at hd ⊢
          omega
      | closing => simp [Walk.step] at h
      | run t =>
          simp only [Walk.step, Option.ite_none_right_eq_some, Option.some.injEq] at h
          obtain ⟨-, rfl⟩ := h
          exact ⟨hs, hd⟩
  | inGroup =>
      cases p with
      | opening => simp [Walk.step] at h
      | closing =>
          obtain rfl := Option.some.inj h
          refine ⟨by simp, hd.imp_right fun hd => ?_⟩
          simp only [reduceCtorEq, if_false, if_true, List.length_append,
            List.length_singleton] at hd ⊢
          omega
      | run t =>
          obtain rfl := Option.some.inj h
          exact ⟨hs, hd⟩

theorem Dead.accept? (hd : w.Dead) : w.accept? = none := by
  rw [Walk.accept?, if_pos]
  obtain ⟨-, ht | hg⟩ := hd
  · exact .inr (.inl ht)
  · by_cases hs : w.state = .inGroup
    · exact .inl hs
    · exact .inr (.inr (by simpa [hs] using hg))

theorem Dead.run (hd : w.Dead) (ps : List Part) :
    (ps.foldlM Walk.step w).bind Walk.accept? = none := by
  induction ps generalizing w with
  | nil => exact hd.accept?
  | cons p ps ih =>
      cases h : w.step p with
      | none => simp [h]
      | some w' => simpa [h] using ih (hd.step h)

theorem Dead.over? (hd : w.Dead) (s : Text) : w.over? s = none := hd.run (parts s)

end Walk

namespace Walk

theorem over?_inGroup (title : Text) (groups : List Text) {t s : Text} (ht : BracketFree t)
    (hs : ∀ c ∈ s.head?, isBracket c = true) :
    over? ⟨.inGroup, title, [], groups⟩ (t ++ s) = over? ⟨.inGroup, title, t, groups⟩ s := by
  by_cases hne : t = []
  · rw [hne, List.nil_append]
  · rw [over?_run _ ht hne hs]
    rfl

theorem over?_group (title : Text) (groups : List Text) (s : Text) :
    over? ⟨.inGroup, title, [], groups⟩ s = (group? s).bind fun q =>
      over? ⟨.between, title, q.1, groups ++ [q.1]⟩ q.2 := by
  obtain ⟨t, u, rfl, ht, hu⟩ := exists_run s
  rw [over?_inGroup title groups ht hu]
  rcases eq_of_isBracket_head? hu with rfl | ⟨v, rfl⟩ | ⟨v, rfl⟩
  · rw [List.append_nil, group?_end ht]
    simp [over?_nil, accept?]
  · rw [group?_nested ht, over?_opening]
    rfl
  · rw [group?_append ht, over?_closing]
    rfl

section

variable (title group : Text) (groups : List Text) {v : Text} (hv : ∀ c ∈ v, isBlank c = true)
include hv

theorem over?_between {s : Text} (hs : ∀ c ∈ s.head?, isBracket c = true) :
    over? ⟨.between, title, group, groups⟩ (v ++ s) =
      over? ⟨.between, title, group, groups⟩ s := by
  by_cases hne : v = []
  · rw [hne, List.nil_append]
  · have hstep : step ⟨.between, title, group, groups⟩ (.run v) =
        some ⟨.between, title, group, groups⟩ := if_pos (Text.trim_eq_nil_iff.mpr hv)
    rw [over?_run _ (bracketFree_of_isBlank hv) hne hs, hstep, Option.bind_some]

theorem over?_between_end : over? ⟨.between, title, group, groups⟩ v =
    accept? ⟨.between, title, group, groups⟩ := by
  have h := over?_between title group groups hv (s := []) (by simp)
  rwa [List.append_nil] at h

theorem over?_between_opening (s : Text) :
    over? ⟨.between, title, group, groups⟩ (v ++ '[' :: s) =
      over? ⟨.inGroup, title, [], groups⟩ s := by
  rw [over?_between title group groups hv (by simp [isBracket]), over?_opening]
  rfl

end

theorem over?_between_of_dropWhile (title group : Text) (groups : List Text) {c : Char}
    {s s' : Text} (hd : s.dropWhile isBlank = c :: s') (hc : c ≠ '[') :
    over? ⟨.between, title, group, groups⟩ s = none := by
  obtain ⟨t, u, rfl, ht, hu⟩ := exists_run s
  by_cases hv : ∀ c ∈ t, isBlank c = true
  · rw [List.dropWhile_append_of_pos hv] at hd
    rw [over?_between _ _ _ hv hu]
    rcases eq_of_isBracket_head? hu with rfl | ⟨v, rfl⟩ | ⟨v, rfl⟩
    · simp at hd
    · rw [List.dropWhile_cons_of_neg (by decide)] at hd
      exact absurd (List.cons.inj hd).1.symm hc
    · rw [over?_closing]
      rfl
  · have hne : t ≠ [] := by
      rintro rfl
      simp at hv
    have hstep : step ⟨.between, title, group, groups⟩ (.run t) = none :=
      if_neg (mt Text.trim_eq_nil_iff.mp hv)
    rw [over?_run _ ht hne hu, hstep, Option.bind_none]

end Walk

def walk? (r : Text) : Option Header := Walk.over? {} r

theorem walk?_of_isBlank {t s : Text} (ht : ∀ c ∈ t, isBlank c = true)
    (hs : ∀ c ∈ s.head?, isBracket c = true) : walk? (t ++ s) = none := by
  -- the walk goes on without a title, and refuses the header at its end
  by_cases hne : t = []
  · subst hne
    rcases eq_of_isBracket_head? hs with rfl | ⟨v, rfl⟩ | ⟨v, rfl⟩
    · rfl
    · rw [List.nil_append, walk?, Walk.over?_opening]
      exact Walk.Dead.over? ⟨by simp, .inl rfl⟩ v
    · rw [List.nil_append, walk?, Walk.over?_closing]
      rfl
  · rw [walk?, Walk.over?_run _ (bracketFree_of_isBlank ht) hne hs]
    exact Walk.Dead.over? ⟨by simp, .inl (Text.trim_eq_nil_iff.mpr ht)⟩ s

theorem over?_two (t a b : Text) (ht : trim t ≠ []) (s : Text) :
    Walk.over? ⟨.between, t, b, [a, b]⟩ s =
      if s.all isBlank then some ⟨trim t, items a, items b⟩ else none := by
  split
  · next hs =>
      rw [Walk.over?_between_end t b [a, b] (List.all_eq_true.mp hs)]
      simp [Walk.accept?, ht]
  · next hs =>
      cases hd : s.dropWhile isBlank with
      | nil => exact absurd (List.all_eq_true.mpr (List.dropWhile_eq_nil_iff.mp hd)) hs
      | cons c s' =>
          by_cases hc : c = '['
          · subst hc
            rw [← List.takeWhile_append_dropWhile (p := isBlank) (l := s), hd,
              Walk.over?_between_opening t b [a, b] fun c hc => List.mem_takeWhile_imp hc]
            exact Walk.Dead.over? ⟨by simp, .inr (by simp)⟩ s'
          · exact Walk.over?_between_of_dropWhile t b [a, b] hd hc

def second? (a s : Text) : Option (List Text × List Text) :=
  match s.dropWhile isBlank with
  | [] => some (items a, [])
  | '[' :: s => (group? s).bind fun q =>
      if q.2.all isBlank then some (items a, items q.1) else none
  | _ => none

theorem lists?_opening (s : Text) :
    lists? ('[' :: s) = (group? s).bind fun q => second? q.1 q.2 := rfl

theorem over?_one (t a : Text) (ht : trim t ≠ []) (s : Text) :
    Walk.over? ⟨.between, t, a, [a]⟩ s = (second? a s).map fun l => ⟨trim t, l.1, l.2⟩ := by
  cases hd : s.dropWhile isBlank with
  | nil =>
      rw [Walk.over?_between_end t a [a] (List.dropWhile_eq_nil_iff.mp hd)]
      simp [Walk.accept?, second?, hd, ht]
  | cons c s' =>
      by_cases hc : c = '['
      · subst hc
        rw [second?, hd, ← List.takeWhile_append_dropWhile (p := isBlank) (l := s), hd,
          Walk.over?_between_opening t a [a] fun c hc => List.mem_takeWhile_imp hc,
          Walk.over?_group]
        cases hg : group? s' with
        | none => simp [hg]
        | some q =>
            simp only [Option.bind_some, List.singleton_append, over?_two t a q.1 ht q.2, hg]
            split <;> rfl
      · rw [Walk.over?_between_of_dropWhile t a [a] hd hc, second?, hd]
        split <;> simp_all

theorem over?_lists (t g : Text) (ht : trim t ≠ []) {s : Text}
    (hs : ∀ c ∈ s.head?, isBracket c = true) :
    Walk.over? ⟨.between, t, g, []⟩ s = (lists? s).map fun l => ⟨trim t, l.1, l.2⟩ := by
  rcases eq_of_isBracket_head? hs with rfl | ⟨v, rfl⟩ | ⟨v, rfl⟩
  · simp [Walk.over?_nil, Walk.accept?, lists?, ht]
  · have hopen : Walk.over? ⟨.between, t, g, []⟩ ('[' :: v) =
        Walk.over? ⟨.inGroup, t, [], []⟩ v := Walk.over?_opening _ v
    rw [hopen, Walk.over?_group, lists?_opening]
    cases group? v with
    | none => rfl
    | some q => exact over?_one t q.1 ht q.2
  · rw [Walk.over?_closing]
    rfl

theorem walk?_eq (r : Text) : walk? r = wellFormed? r := by
  obtain ⟨t, s, rfl, ht, hb⟩ := exists_run r
  by_cases hblank : ∀ c ∈ t, isBlank c = true
  · rw [walk?_of_isBlank hblank hb, wellFormed?, takeWhile_of_bracketFree ht hb,
      List.all_eq_true.mpr hblank]
    rfl
  · have hn : trim t ≠ [] := mt Text.trim_eq_nil_iff.mp hblank
    have hne : t ≠ [] := by
      rintro rfl
      simp at hblank
    rw [wellFormed?_append ht hn hb, ← over?_lists t [] hn hb, walk?, Walk.over?_run _ ht hne hb]
    rfl

/-- A header of the form `t`, `t[a]w` or `t[a]w[b]x` says what stands there, and any other text is a
title as a whole. The walk over its parts tells the two apart. -/
theorem ofText_grammar (r : Text) :
    (∀ h, IsHeader r h → ofText r = h) ∧
      ((∀ h, ¬ IsHeader r h) → ofText r = { title := trim r }) ∧
      ofText r = (walk? r).getD { title := trim r } := by
  refine ⟨fun h hr => ?_, fun hn => ?_, ?_⟩
  · rw [ofText, wellFormed?_eq_some_iff.mpr hr, Option.getD_some]
  · rcases isHeader_ofText_or r with hr | ⟨-, hr⟩
    · exact absurd hr (hn _)
    · exact hr
  · rw [walk?_eq, ofText]

example : ofText "A [b] [c] [d]".toList = { title := "A [b] [c] [d]".toList } := by decide +kernel

end StoryText.Header
