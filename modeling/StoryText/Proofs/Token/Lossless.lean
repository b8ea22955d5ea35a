import StoryText.Proofs.Text.Between
import StoryText.Proofs.Token.Stream
import StoryText.Token.Scanner

namespace StoryText.Token

open Text (isBlank between?)

/-- Spans of a text from an offset on, one behind the other: each covers whole characters, at least
one, and nothing but blanks is left out in front of it. -/
inductive Tiles (source : Text) : Nat → List Spanned → Prop
  | nil (offset : Nat) : Tiles source offset []
  | cons {offset : Nat} {t : Spanned} {ts : List Spanned} {gap slice : Text}
      (ordered : offset ≤ t.start ∧ t.start < t.stop ∧ t.stop ≤ source.size)
      (hgap : source.between? offset t.start = some gap) (hblank : ∀ c ∈ gap, isBlank c = true)
      (hslice : source.between? t.start t.stop = some slice) (hne : slice ≠ [])
      (hts : Tiles source t.stop ts) : Tiles source offset (t :: ts)

def endOf (offset : Nat) (ts : List Spanned) : Nat := (ts.getLast?.map Spanned.stop).getD offset

/-- The pieces into which spans cut a text from an offset on: before each span what it leaves out,
then what it covers, and at last what follows. -/
def cuts (source : Text) (offset : Nat) : List Spanned → List (Option Text)
  | [] => [source.between? offset source.size]
  | t :: ts =>
    source.between? offset t.start :: source.between? t.start t.stop :: cuts source t.stop ts

theorem endOf_cons (offset : Nat) (t : Spanned) (ts : List Spanned) :
    endOf offset (t :: ts) = endOf t.stop ts := by
  simp [endOf, List.getLast?_cons]

theorem Tiles.cons_of_append {source front gap slice rest : Text} {t : Spanned} {ts : List Spanned}
    (hs : front ++ gap ++ slice ++ rest = source) (hblank : ∀ c ∈ gap, isBlank c = true)
    (hne : slice ≠ []) (hstart : t.start = (front ++ gap).size)
    (hstop : t.stop = (front ++ gap ++ slice).size)
    (hts : Tiles source (front ++ gap ++ slice).size ts) : Tiles source front.size (t :: ts) := by
  subst hs
  have hpos := Text.size_pos hne
  have hgap : Text.between? (front ++ gap ++ slice ++ rest) front.size t.start = some gap := by
    rw [hstart, List.append_assoc (front ++ gap)]
    exact Text.between?_append front gap (slice ++ rest)
  have hslice : Text.between? (front ++ gap ++ slice ++ rest) t.start t.stop = some slice := by
    rw [hstart, hstop]
    exact Text.between?_append (front ++ gap) slice rest
  refine .cons ?_ hgap hblank hslice hne (hstop ▸ hts)
  simp only [hstart, hstop, Text.size_append]
  omega

theorem Tiles.length_le {source : Text} {offset : Nat} {ts : List Spanned}
    (h : Tiles source offset ts) (ho : offset ≤ source.size) :
    offset + ts.length ≤ source.size := by
  induction h with
  | nil offset => exact ho
  | cons ordered _ _ _ _ _ ih =>
      have := ih ordered.2.2
      rw [List.length_cons]
      omega

theorem Tiles.exists_pieces {source front rest : Text} {ts : List Spanned}
    (h : Tiles source front.size ts) (hs : front ++ rest = source) :
    ∃ pieces : List Text, cuts source front.size ts = pieces.map some ∧ pieces.flatten = rest := by
  generalize ho : front.size = offset at h
  induction h generalizing front rest with
  | nil offset =>
      refine ⟨[rest], ?_, by simp⟩
      have hb := Text.between?_append_end front rest
      rw [hs, ho] at hb
      rw [cuts, hb]
      rfl
  | @cons offset t ts gap slice ordered hgap hblank hslice hne hts ih =>
      subst hs ho
      obtain ⟨behind, rfl, hstart⟩ := Text.exists_append_of_between? hgap
      have hs := hslice
      rw [← hstart, ← List.append_assoc] at hs
      obtain ⟨behind, rfl, hstop⟩ := Text.exists_append_of_between? hs
      have hs : front ++ gap ++ slice ++ behind = front ++ (gap ++ (slice ++ behind)) := by
        simp only [List.append_assoc]
      obtain ⟨pieces, hp, hf⟩ := ih hs hstop
      refine ⟨gap :: slice :: pieces, ?_, by simp [hf]⟩
      simp only [cuts, hgap, hslice, hp, List.map_cons]

namespace Scanner

structure Behind (s : Scanner) (source front : Text) : Prop where
  offset : s.cursor.offset = front.size
  append : front ++ s.cursor.rest = source

theorem atStart_behind (macroNames : Bool) (source : Text) :
    Behind ⟨.atStart source, macroNames⟩ source [] := ⟨rfl, rfl⟩

theorem next_of_some {s s' : Scanner} {source front : Text} {t : Spanned}
    (h : s.Behind source front) (hn : s.next = (some t, s')) :
    ∃ gap slice, (∀ c ∈ gap, isBlank c = true) ∧ slice ≠ [] ∧
      t.start = (front ++ gap).size ∧ t.stop = (front ++ gap ++ slice).size ∧
      s'.Behind source (front ++ gap ++ slice) := by
  cases hc : Token.next? s.macroNames s.cursor.back s.cursor.rest with
  | none => simp [next, Cursor.next?, hc] at hn
  | some p =>
      obtain ⟨g, rest⟩ := p
      obtain ⟨happ, hf⟩ := next?_eq_some_iff.mp hc
      simp only [next, Cursor.next?, hc, Option.map_some, Prod.mk.injEq, Option.some.injEq] at hn
      obtain ⟨rfl, rfl⟩ := hn
      have hsize : s.cursor.offset + g.gap.size + g.slice.size =
          (front ++ g.gap ++ g.slice).size := by
        simp only [Text.size_append, h.offset]
      refine ⟨g.gap, g.slice, hf.gap, hf.slice_ne_nil, ?_, hsize, hsize, ?_⟩
      · simp only [Text.size_append, h.offset]
      · rw [← h.append, ← happ]
        simp only [List.append_assoc]

theorem next_of_none {s s' : Scanner} (hn : s.next = (none, s')) :
    (∀ c ∈ s.cursor.rest, isBlank c = true) ∧ s'.cursor.rest = [] := by
  cases hc : Token.next? s.macroNames s.cursor.back s.cursor.rest with
  | none =>
      simp only [next, Cursor.next?, hc, Option.map_none, Prod.mk.injEq, true_and] at hn
      exact ⟨next?_eq_none_iff.mp hc, hn ▸ rfl⟩
  | some p => simp [next, Cursor.next?, hc] at hn

theorem answers_of_rest_nil {s : Scanner} (hs : s.cursor.rest = []) (calls : List Call) :
    ∀ a ∈ s.answers calls, a = none := by
  induction calls generalizing s with
  | nil => simp [answers]
  | cons call calls ih =>
      cases call with
      | recognise macroNames => exact ih (s := { s with macroNames }) hs
      | next =>
          have hc : Token.next? s.macroNames s.cursor.back s.cursor.rest = none := by
            rw [next?_eq_none_iff, hs]
            simp
          have hn : s.next = (none, { s with cursor := s.cursor.atEnd }) := by
            simp [next, Cursor.next?, hc]
          simp only [answers, hn, List.forall_mem_cons, true_and]
          exact ih rfl

theorem answers_tiles {s : Scanner} {source front : Text} (h : s.Behind source front)
    (calls : List Call) : Tiles source front.size ((s.answers calls).filterMap id) := by
  induction calls generalizing s front with
  | nil => exact .nil _
  | cons call calls ih =>
      cases call with
      | recognise macroNames => exact ih (s := { s with macroNames }) ⟨h.offset, h.append⟩
      | next =>
          obtain ⟨a, s', hn⟩ : ∃ a s', s.next = (a, s') := ⟨_, _, rfl⟩
          cases a with
          | none =>
              have hr := answers_of_rest_nil (next_of_none hn).2 calls
              have he : (s'.answers calls).filterMap id = [] :=
                List.filterMap_eq_nil_iff.mpr hr
              rw [answers, hn, List.filterMap_cons_none rfl, he]
              exact .nil _
          | some t =>
              obtain ⟨gap, slice, hblank, hne, hstart, hstop, h'⟩ := next_of_some h hn
              have hts := (ih h').cons_of_append h'.append hblank hne hstart hstop
              simpa [answers, hn] using hts

theorem blank_of_none {s : Scanner} {source front : Text} (h : s.Behind source front)
    {calls : List Call} {before after : List (Option Spanned)}
    (ha : s.answers calls = before ++ none :: after) :
    (∃ tail, source.between? (endOf front.size ((s.answers calls).filterMap id)) source.size =
        some tail ∧ ∀ c ∈ tail, isBlank c = true) ∧
      ∀ a ∈ after, a = none := by
  induction calls generalizing s front before with
  | nil => simp [answers] at ha
  | cons call calls ih =>
      cases call with
      | recognise macroNames => exact ih (s := { s with macroNames }) ⟨h.offset, h.append⟩ ha
      | next =>
          obtain ⟨a, s', hn⟩ : ∃ a s', s.next = (a, s') := ⟨_, _, rfl⟩
          simp only [answers, hn] at ha
          cases a with
          | none =>
              obtain ⟨hblank, hr⟩ := next_of_none hn
              have hnone := answers_of_rest_nil hr calls
              have he : (s'.answers calls).filterMap id = [] :=
                List.filterMap_eq_nil_iff.mpr hnone
              refine ⟨⟨s.cursor.rest, ?_, hblank⟩, ?_⟩
              · have hb := Text.between?_append_end front s.cursor.rest
                rw [h.append] at hb
                rw [answers, hn, List.filterMap_cons_none rfl, he]
                exact hb
              · intro a hmem
                cases before with
                | nil =>
                    obtain ⟨-, rfl⟩ := List.cons.inj ha
                    exact hnone a hmem
                | cons b before =>
                    obtain ⟨-, ha⟩ := List.cons.inj ha
                    exact hnone a (by simp [ha, hmem])
          | some t =>
              obtain ⟨gap, slice, -, -, -, hstop, h'⟩ := next_of_some h hn
              cases before with
              | nil => simp at ha
              | cons b before =>
                  obtain ⟨-, ha⟩ := List.cons.inj ha
                  have hi := ih h' ha
                  rw [← hstop] at hi
                  simpa [answers, hn, endOf_cons] using hi

theorem length_answers (s : Scanner) (calls : List Call) :
    (s.answers calls).length = calls.count .next := by
  induction calls generalizing s with
  | nil => rfl
  | cons call calls ih =>
      cases call with
      | recognise macroNames => rw [answers, ih, List.count_cons_of_ne (by simp)]
      | next => rw [answers, List.length_cons, ih, List.count_cons_self]

theorem answers_next (s : Scanner) (n : Nat) :
    let ts := s.cursor.remaining s.macroNames
    s.answers (List.replicate n .next) =
      (ts.take n).map some ++ List.replicate (n - ts.length) none := by
  induction n generalizing s with
  | zero => simp [answers]
  | succ n ih =>
      rw [List.replicate_succ, answers, Cursor.remaining_eq]
      cases h : s.cursor.next? s.macroNames with
      | none =>
          have hn := ih { s with cursor := s.cursor.atEnd }
          rw [Cursor.remaining_eq, Cursor.next?_atEnd] at hn
          simpa [next, h, List.replicate_succ] using hn
      | some p => simpa [next, h] using ih { s with cursor := p.2 }

theorem none_mem_answers {s : Scanner} {source front : Text} (hs : s.Behind source front)
    {calls : List Call} (h : source.size < calls.count .next) : none ∈ s.answers calls := by
  by_contra hnone
  have hsome : ∀ a ∈ s.answers calls, (id a).isSome = true := by
    intro a ha
    rw [id, Option.isSome_iff_ne_none]
    rintro rfl
    exact hnone ha
  have hfront : front.size ≤ source.size := by
    rw [← hs.append, Text.size_append]
    exact Nat.le_add_right _ _
  have hlength := (answers_tiles hs calls).length_le hfront
  rw [List.filterMap_length_eq_length.mpr hsome, length_answers] at hlength
  omega

theorem answers_tokenizeSpans (macroNames : Bool) (source : Text) (n : Nat) :
    let spans := tokenizeSpans macroNames source
    answers ⟨.atStart source, macroNames⟩ (List.replicate n .next) =
      (spans.take n).map some ++ List.replicate (n - spans.length) none :=
  answers_next _ n

theorem blank_behind_tokenizeSpans (macroNames : Bool) (source : Text) :
    ∃ tail, source.between? (endOf 0 (tokenizeSpans macroNames source)) source.size = some tail ∧
      ∀ c ∈ tail, isBlank c = true := by
  have ha := answers_tokenizeSpans macroNames source
    ((tokenizeSpans macroNames source).length + 1)
  simp only at ha
  rw [List.take_of_length_le (Nat.le_succ _), Nat.add_sub_cancel_left] at ha
  obtain ⟨hblank, -⟩ := blank_of_none (atStart_behind macroNames source) ha
  rw [ha] at hblank
  simpa using hblank

/-- Each call for a token is answered. Whatever a scan is asked for and in whatever order, its
tokens tile the text; once there is no token left there is none for any later call and nothing but
blanks behind the last one. So what is left out and what is covered make up the text. No scan finds
more tokens than there are bytes, and one that nothing switches finds the tokens of the text. -/
theorem answers_lossless (source : Text) (calls : List Call) :
    let answers := (atStart source).answers calls
    let tokens := answers.filterMap id
    answers.length = calls.count .next ∧
      Tiles source 0 tokens ∧
      (∀ before after, answers = before ++ none :: after →
        (∃ tail, source.between? (endOf 0 tokens) source.size = some tail ∧
          ∀ c ∈ tail, isBlank c = true) ∧ ∀ a ∈ after, a = none) ∧
      (∃ pieces : List Text, cuts source 0 tokens = pieces.map some ∧ pieces.flatten = source) ∧
      (source.size < calls.count .next → none ∈ answers) ∧
      ∀ macroNames n,
        let spans := tokenizeSpans macroNames source
        (atStart source).answers (.recognise macroNames :: List.replicate n .next) =
          (spans.take n).map some ++ List.replicate (n - spans.length) none ∧
        ∃ tail, source.between? (endOf 0 spans) source.size = some tail ∧
          ∀ c ∈ tail, isBlank c = true := by
  have hs := atStart_behind false source
  have ht := answers_tiles hs calls
  refine ⟨length_answers _ calls, ht, fun _ _ ha => blank_of_none hs ha, ht.exists_pieces rfl,
    none_mem_answers hs, fun macroNames n => ⟨?_, blank_behind_tokenizeSpans macroNames source⟩⟩
  exact answers_tokenizeSpans macroNames source n

end Scanner

end StoryText.Token
