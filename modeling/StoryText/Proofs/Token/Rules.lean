import StoryText.Proofs.Text.Runs
import StoryText.Proofs.Token.Alphabet
import StoryText.Token.Scan

namespace StoryText.Token

open Text (isBlank isEmoji)

def IsDigraph (c d : Char) : Prop :=
  (c = '[' ∨ c = '{') ∧ d = '=' ∨ c = '=' ∧ (d = ']' ∨ d = '}')

def InWord (back : Lookback) (cs : Text) : Prop :=
  back.kind = some .varName ∧ nextIs isLetter cs ∨
    back.char.any Char.isAlphanum ∧ nextIs Char.isAlphanum cs

def OpensString (back : Lookback) (q : Char) (cs : Text) : Prop :=
  q = '\'' ∧ ¬ InWord back cs ∨ isDoubleQuote q = true

def closers (q : Char) : List Char := if q = '\'' then ['\''] else closingQuotes q

/-- What the rules read at a place in a text, said once for all rules: a token, the slice it is read
from and the text behind. Each case holds the whole condition under which the rule applies, that no
earlier one does included. -/
inductive Reads (macroNames : Bool) (back : Lookback) : Token → Text → Text → Prop
  | digraph {c d : Char} {rest : Text} (h : IsDigraph c d) :
      Reads macroNames back (bracket [c, d]) [c, d] rest
  | punctuation {c : Char} {t : Token} {rest : Text} (h : punctuation? c = some t)
      (hr : ∀ d ∈ rest.head?, ¬ IsDigraph c d) : Reads macroNames back t [c] rest
  | ellipsis {rest : Text} : Reads macroNames back (text ['.', '.', '.']) ['.', '.', '.'] rest
  | period {rest : Text} (hr : ¬ ['.', '.'] <+: rest) :
      Reads macroNames back (text ['.']) ['.'] rest
  | varName {c : Char} {w rest : Text} (hc : startsVariable back c w = true)
      (hw : ∀ d ∈ w, isWordChar d = true) (hr : nextIs isWordChar rest = false) :
      Reads macroNames back (varName (c :: w)) (c :: w) rest
  | inWord {rest : Text} (h : InWord back rest) : Reads macroNames back (text ['\'']) ['\''] rest
  | closed {q k : Char} {value rest : Text} (hq : OpensString back q (value ++ [k]))
      (hv : ∀ d ∈ value, d ∉ closers q) (hk : k ∈ closers q) :
      Reads macroNames back (string value false) (q :: (value ++ [k])) rest
  | unclosed {q : Char} {value : Text} (hq : OpensString back q value)
      (hv : ∀ d ∈ value, d ∉ closers q) : Reads macroNames back (string value true) (q :: value) []
  | number {c : Char} {w rest : Text} (hc : c.isDigit = true) (hw : ∀ d ∈ w, d.isDigit = true)
      (hr : nextIs Char.isDigit rest = false) :
      Reads macroNames back (number (c :: w)) (c :: w) rest
  | emoji {c : Char} {rest : Text} (hc : isEmoji c = true) (hd : c.isDigit = false) :
      Reads macroNames back (emoji c) [c] rest
  | assignment {c : Char} {rest : Text} (hc : isOperatorChar c = true) (he : isEmoji c = false) :
      Reads macroNames back (operator [c, '=']) [c, '='] rest
  | operator {c : Char} {rest : Text} (hc : isOperatorChar c = true) (he : isEmoji c = false)
      (hr : ∀ d ∈ rest.head?, d ≠ '=' ∧ ¬ IsDigraph c d) :
      Reads macroNames back (operator [c]) [c] rest
  | macroName {c : Char} {w rest : Text} (hm : macroNames = true) (hc : isLetter c = true)
      (hw : ∀ d ∈ w, isWordChar d = true) :
      Reads macroNames back (macroName (c :: w)) (c :: (w ++ [':'])) rest
  | word {c : Char} {w rest : Text} (hc : isLetter c = true) (hw : ∀ d ∈ w, isWordChar d = true)
      (hr : nextIs isWordChar rest = false) (hm : macroNames = true → ':' ∉ rest.head?) :
      Reads macroNames back (text (c :: w)) (c :: w) rest
  | other {c : Char} {rest : Text} (hc : c ∉ marks) (hq : startsVariable back c rest = false)
      (hd : c.isDigit = false) (he : isEmoji c = false) (ho : isOperatorChar c = false)
      (hl : isLetter c = false) : Reads macroNames back (text [c]) [c] rest

theorem nextIs_eq_false_iff {p : Char → Bool} {cs : Text} :
    nextIs p cs = false ↔ ∀ c ∈ cs.head?, p c = false := by
  cases cs <;> simp [nextIs]

theorem takeWhile_append_of_nextIs {p : Char → Bool} {w rest : Text} (hw : ∀ d ∈ w, p d = true)
    (hr : nextIs p rest = false) : (w ++ rest).takeWhile p = w :=
  Text.takeWhile_append_of_head? hw (nextIs_eq_false_iff.mp hr)

theorem dropWhile_append_of_nextIs {p : Char → Bool} {w rest : Text} (hw : ∀ d ∈ w, p d = true)
    (hr : nextIs p rest = false) : (w ++ rest).dropWhile p = rest :=
  Text.dropWhile_append_of_head? hw (nextIs_eq_false_iff.mp hr)

theorem nextIs_dropWhile (p : Char → Bool) (s : Text) : nextIs p (s.dropWhile p) = false :=
  nextIs_eq_false_iff.mpr fun _ hc => Text.eq_false_of_mem_head?_dropWhile hc

theorem value_of_punctuation? {c : Char} {t : Token} (h : punctuation? c = some t) :
    t.value = [c] := by
  unfold punctuation? at h
  split at h <;> cases h <;> rfl

theorem kind_of_punctuation? {c : Char} {t : Token} (h : punctuation? c = some t) :
    t.kind ∈ [Kind.paren, .bracket, .brace, .colon, .semicolon, .comma] := by
  unfold punctuation? at h
  split at h <;> cases h <;> decide

theorem Reads.exists_cons {macroNames : Bool} {back : Lookback} {t : Token} {s rest : Text}
    (h : Reads macroNames back t s rest) : ∃ c w, s = c :: w := by
  cases h <;> exact ⟨_, _, rfl⟩

theorem Reads.slice_eq_value {macroNames : Bool} {back : Lookback} {t : Token} {s rest : Text}
    (h : Reads macroNames back t s rest) (hs : t.kind ≠ .string) (hm : t.kind ≠ .macroName) :
    s = t.value := by
  cases h with
  | punctuation h hr => exact (value_of_punctuation? h).symm
  | closed | unclosed => exact absurd rfl hs
  | macroName => exact absurd rfl hm
  | _ => rfl

theorem digraph?_eq_none_iff {c : Char} {cs : Text} :
    digraph? c cs = none ↔ ∀ d ∈ cs.head?, ¬ IsDigraph c d := by
  cases cs with
  | nil => simp [digraph?]
  | cons d rest => simp [digraph?, IsDigraph]

theorem not_isDigraph_of_not_mem {c : Char} (h : c ∉ ['[', '{', '=']) (d : Char) :
    ¬ IsDigraph c d := by
  rintro (⟨rfl | rfl, -⟩ | ⟨rfl, -⟩) <;> simp at h

theorem digraph?_of_not_mem {c : Char} (h : c ∉ ['[', '{', '=']) (cs : Text) :
    digraph? c cs = none :=
  digraph?_eq_none_iff.mpr fun d _ => not_isDigraph_of_not_mem h d

theorem digraph?_of_isDigraph {c d : Char} (h : IsDigraph c d) (rest : Text) :
    digraph? c (d :: rest) = some ⟨bracket [c, d], [c, d], rest⟩ :=
  if_pos h

theorem apostrophe_of_inWord {back : Lookback} {cs : Text} (h : InWord back cs) :
    apostrophe back cs = single (text ['\'']) '\'' cs :=
  if_pos h

theorem apostrophe_of_not_inWord {back : Lookback} {cs : Text} (h : ¬ InWord back cs) :
    apostrophe back cs = quoted '\'' ['\''] cs :=
  if_neg h

theorem not_isDigraph_of_not_mark {c : Char} (hc : c ∉ marks) (he : c ≠ '=') (d : Char) :
    ¬ IsDigraph c d := by
  rintro (⟨rfl | rfl, -⟩ | ⟨rfl, -⟩)
  · exact hc (by decide)
  · exact hc (by decide)
  · exact he rfl

theorem startsVariable_of_not_mark {c : Char} (hc : c ∉ marks) (hq : c ≠ '?') (back : Lookback)
    (cs : Text) : startsVariable back c cs = false := by
  have h₁ : c ≠ '$' := by rintro rfl; exact hc (by decide)
  have h₂ : c ≠ '_' := by rintro rfl; exact hc (by decide)
  simp [startsVariable, h₁, h₂, hq]

theorem punctuation?_of_not_mark {c : Char} (hc : c ∉ marks) : punctuation? c = none := by
  unfold punctuation?
  split
  all_goals first
    | rfl
    | exact absurd (by decide) hc

def byClass (macroNames : Bool) (c : Char) (cs : Text) : Lexeme :=
  if c.isDigit then run number Char.isDigit c cs
  else if isEmoji c then single (emoji c) c cs
  else if isOperatorChar c then operatorRun c cs
  else if isWordChar c then word macroNames c cs
  else single (text [c]) c cs

theorem scan_of_not_mark (macroNames : Bool) {back : Lookback} {c : Char} {cs : Text}
    (hc : c ∉ marks) (hd : ∀ d ∈ cs.head?, ¬ IsDigraph c d)
    (hq : startsVariable back c cs = false) :
    scan macroNames back c cs = byClass macroNames c cs := by
  have h₁ : c ≠ '.' := by rintro rfl; exact hc (by decide)
  have h₂ : c ≠ '\'' := by rintro rfl; exact hc (by decide)
  have h₃ : isDoubleQuote c = false := by
    rw [Bool.eq_false_iff]
    intro h
    simp only [isDoubleQuote, List.contains_iff_mem, List.mem_cons, List.not_mem_nil, or_false] at h
    rcases h with rfl | rfl | rfl <;> exact hc (by decide)
  simp [scan, byClass, digraph?_eq_none_iff.mpr hd, punctuation?_of_not_mark hc, hq, h₁, h₂, h₃]

theorem not_mark_of_class {c : Char}
    (h : c.isDigit = true ∨ isLetter c = true ∨ isEmoji c = true ∨ isOperatorChar c = true) :
    c ∉ marks := by
  intro hc
  obtain ⟨hd, hl, he, ho⟩ := marks_classes c hc
  simp [hd, hl, he, ho] at h

theorem scan_of_class (macroNames : Bool) (back : Lookback) {c : Char} {cs : Text}
    (h : c.isDigit = true ∨ isLetter c = true ∨ isEmoji c = true ∨ isOperatorChar c = true)
    (hd : ∀ d ∈ cs.head?, ¬ IsDigraph c d) :
    scan macroNames back c cs = byClass macroNames c cs := by
  have hm := not_mark_of_class h
  have hq : c ≠ '?' := by rintro rfl; exact absurd h (by decide)
  exact scan_of_not_mark macroNames hm hd (startsVariable_of_not_mark hm hq back cs)

theorem not_isDigraph_of_class {c : Char}
    (h : c.isDigit = true ∨ isLetter c = true ∨ isEmoji c = true) (d : Char) :
    ¬ IsDigraph c d := by
  rintro (⟨rfl | rfl, -⟩ | ⟨rfl, -⟩) <;> exact absurd h (by decide)

theorem run_eq {f : Text → Token} {p : Char → Bool} {c : Char} {w rest : Text}
    (hw : ∀ d ∈ w, p d = true) (hr : nextIs p rest = false) :
    run f p c (w ++ rest) = ⟨f (c :: w), c :: w, rest⟩ := by
  rw [run, takeWhile_append_of_nextIs hw hr, dropWhile_append_of_nextIs hw hr]

theorem quoted_of_closed {q k : Char} {cl : List Char} {value rest : Text}
    (hv : ∀ d ∈ value, d ∉ cl) (hk : k ∈ cl) :
    quoted q cl (value ++ k :: rest) = ⟨string value false, q :: (value ++ [k]), rest⟩ := by
  have hw : ∀ d ∈ value, (!cl.contains d) = true := by simpa using hv
  have hr : nextIs (fun d => !cl.contains d) (k :: rest) = false := by simpa [nextIs] using hk
  simp only [quoted, takeWhile_append_of_nextIs hw hr, dropWhile_append_of_nextIs hw hr,
    List.cons_append]

theorem quoted_of_unclosed {q : Char} {cl : List Char} {value : Text} (hv : ∀ d ∈ value, d ∉ cl) :
    quoted q cl value = ⟨string value true, q :: value, []⟩ := by
  have hw : ∀ d ∈ value, (!cl.contains d) = true := by simpa using hv
  have hn : nextIs (fun d => !cl.contains d) [] = false := rfl
  have ht := takeWhile_append_of_nextIs hw hn
  have hd := dropWhile_append_of_nextIs hw hn
  rw [List.append_nil] at ht hd
  simp only [quoted, ht, hd]

theorem inWord_congr {back : Lookback} {cs ds : Text} (h : cs.head? = ds.head?) :
    InWord back cs ↔ InWord back ds := by
  simp only [InWord, nextIs, h]

theorem opensString_congr {back : Lookback} {q : Char} {cs ds : Text} (h : cs.head? = ds.head?) :
    OpensString back q cs ↔ OpensString back q ds := by
  simp only [OpensString, inWord_congr h]

theorem scan_of_opensString (macroNames : Bool) {back : Lookback} {q : Char} {cs : Text}
    (h : OpensString back q cs) : scan macroNames back q cs = quoted q (closers q) cs := by
  rcases h with ⟨rfl, hw⟩ | hq
  · have hd : digraph? '\'' cs = none := digraph?_of_not_mem (by decide) cs
    simp [scan, hd, punctuation?, startsVariable, apostrophe_of_not_inWord hw, closers]
  · have hm : q = '"' ∨ q = '“' ∨ q = '”' := by simpa [isDoubleQuote] using hq
    have hd : digraph? q cs = none := by
      refine digraph?_of_not_mem ?_ cs
      rcases hm with rfl | rfl | rfl <;> decide
    rcases hm with rfl | rfl | rfl <;>
      simp [scan, hd, punctuation?, startsVariable, hq, closers]

theorem scan_of_startsVariable (macroNames : Bool) {back : Lookback} {c : Char} {cs : Text}
    (h : startsVariable back c cs = true) :
    scan macroNames back c cs = run varName isWordChar c cs := by
  have hm : c = '$' ∨ c = '_' ∨ c = '?' := by
    simp only [startsVariable, Bool.or_eq_true, beq_iff_eq, Bool.and_eq_true] at h
    tauto
  have hd : digraph? c cs = none := by
    refine digraph?_of_not_mem ?_ cs
    rcases hm with rfl | rfl | rfl <;> decide
  rcases hm with rfl | rfl | rfl <;> simp [scan, hd, punctuation?, h]

theorem scan_of_isOperatorChar (macroNames : Bool) (back : Lookback) {c : Char} {cs : Text}
    (hc : isOperatorChar c = true) (he : isEmoji c = false)
    (hd : ∀ d ∈ cs.head?, ¬ IsDigraph c d) : scan macroNames back c cs = operatorRun c cs := by
  have hg : c.isDigit = false := by
    have hall : ∀ c ∈ "+-*/=<>&!%|".toList, c.isDigit = false :=
      List.all_iff_forall_prop.mp (by decide)
    exact hall c (isOperatorChar_iff.mp hc)
  rw [scan_of_class macroNames back (.inr (.inr (.inr hc))) hd]
  simp [byClass, hc, he, hg]

theorem scan_of_isLetter (macroNames : Bool) (back : Lookback) {c : Char} (cs : Text)
    (hc : isLetter c = true) : scan macroNames back c cs = word macroNames c cs := by
  have ho : isOperatorChar c = false := by
    rw [Bool.eq_false_iff]
    intro ho
    simp [isLetter_of_isOperatorChar ho] at hc
  rw [scan_of_class macroNames back (.inr (.inl hc)) fun d _ =>
    not_isDigraph_of_class (.inr (.inl hc)) d]
  simp [byClass, isDigit_of_isLetter hc, isEmoji_of_isLetter hc, ho, isWordChar_of_isLetter hc]

theorem word_of_text {macroNames : Bool} {c : Char} {w rest : Text}
    (hw : ∀ d ∈ w, isWordChar d = true) (hr : nextIs isWordChar rest = false)
    (hm : macroNames = true → ':' ∉ rest.head?) :
    word macroNames c (w ++ rest) = ⟨text (c :: w), c :: w, rest⟩ := by
  simp only [word, takeWhile_append_of_nextIs hw hr, dropWhile_append_of_nextIs hw hr]
  split
  · exact absurd rfl (hm rfl)
  · rfl

theorem word_of_macroName {c : Char} {w rest : Text} (hw : ∀ d ∈ w, isWordChar d = true) :
    word true c (w ++ ':' :: rest) = ⟨macroName (c :: w), c :: (w ++ [':']), rest⟩ := by
  have hr : nextIs isWordChar (':' :: rest) = false := rfl
  simp only [word, takeWhile_append_of_nextIs hw hr, dropWhile_append_of_nextIs hw hr,
    List.cons_append]

theorem period_of_not_prefix {rest : Text} (h : ¬ ['.', '.'] <+: rest) :
    period rest = single (text ['.']) '.' rest := by
  unfold period
  split
  · exact absurd (by simp) h
  · rfl

theorem scan_period (macroNames : Bool) (back : Lookback) (cs : Text) :
    scan macroNames back '.' cs = period cs := by
  have hd : digraph? '.' cs = none := digraph?_of_not_mem (by decide) cs
  simp [scan, hd, punctuation?]

theorem scan_of_inWord (macroNames : Bool) {back : Lookback} {cs : Text} (h : InWord back cs) :
    scan macroNames back '\'' cs = single (text ['\'']) '\'' cs := by
  have hd : digraph? '\'' cs = none := digraph?_of_not_mem (by decide) cs
  simp [scan, hd, punctuation?, startsVariable, apostrophe_of_inWord h]

theorem startsVariable_append {back : Lookback} {c : Char} {w : Text} (rest : Text)
    (h : startsVariable back c w = true) : startsVariable back c (w ++ rest) = true := by
  cases w with
  | nil =>
      simp only [startsVariable, nextIs, List.head?_nil, Option.any_none, Bool.and_false,
        Bool.or_false] at h
      simp [startsVariable, h]
  | cons d w => exact h

theorem startsVariable_takeWhile {back : Lookback} {c : Char} {cs : Text}
    (h : startsVariable back c cs = true) :
    startsVariable back c (cs.takeWhile isWordChar) = true := by
  cases cs with
  | nil => exact h
  | cons d cs =>
      by_cases hd : isLetter d = true
      · simpa [startsVariable, nextIs, isWordChar_of_isLetter hd] using h
      · simp only [startsVariable, nextIs, List.head?_cons, Option.any_some, hd, Bool.and_false,
          Bool.or_false] at h
        simp [startsVariable, h]

theorem Reads.scan_eq {macroNames : Bool} {back : Lookback} {t : Token} {c : Char} {w rest : Text}
    (h : Reads macroNames back t (c :: w) rest) :
    scan macroNames back c (w ++ rest) = ⟨t, c :: w, rest⟩ := by
  cases h with
  | digraph h => simp only [scan, List.singleton_append, digraph?_of_isDigraph h]
  | punctuation h hr => simp only [scan, List.nil_append, digraph?_eq_none_iff.mpr hr, h, single]
  | ellipsis => rfl
  | period hr => rw [List.nil_append, scan_period, period_of_not_prefix hr, single]
  | varName hc hw hr =>
      rw [scan_of_startsVariable macroNames (startsVariable_append rest hc), run_eq hw hr]
  | inWord h => rw [List.nil_append, scan_of_inWord macroNames h, single]
  | @closed _ k value _ hq hv hk =>
      have hh : (value ++ [k]).head? = (value ++ k :: rest).head? := by cases value <;> rfl
      rw [List.append_assoc, List.singleton_append,
        scan_of_opensString macroNames ((opensString_congr hh).mp hq), quoted_of_closed hv hk]
  | unclosed hq hv =>
      rw [List.append_nil, scan_of_opensString macroNames hq, quoted_of_unclosed hv]
  | number hc hw hr =>
      rw [scan_of_class macroNames back (.inl hc) fun d _ => not_isDigraph_of_class (.inl hc) d,
        byClass, if_pos hc, run_eq hw hr]
  | emoji hc hd =>
      rw [scan_of_class macroNames back (.inr (.inr (.inl hc))) fun d _ =>
        not_isDigraph_of_class (.inr (.inr hc)) d, byClass, if_neg (by simp [hd]), if_pos hc]
      rfl
  | assignment hc he =>
      have hd : ∀ d ∈ (['='] ++ rest).head?, ¬ IsDigraph c d := by
        have hm := not_mark_of_class (.inr (.inr (.inr hc)))
        rintro d hd (⟨rfl | rfl, -⟩ | ⟨-, hd'⟩)
        · exact hm (by decide)
        · exact hm (by decide)
        · obtain rfl : '=' = d := by simpa using hd
          simp at hd'
      rw [scan_of_isOperatorChar macroNames back hc he hd]
      rfl
  | operator hc he hr =>
      rw [List.nil_append, scan_of_isOperatorChar macroNames back hc he fun d hd => (hr d hd).2]
      unfold operatorRun
      split
      · exact absurd rfl (hr '=' rfl).1
      · rfl
  | macroName hm hc hw =>
      subst hm
      rw [List.append_assoc, List.singleton_append, scan_of_isLetter true back _ hc,
        word_of_macroName hw]
  | word hc hw hr hm =>
      rw [scan_of_isLetter macroNames back _ hc, word_of_text hw hr hm]
  | other hc hq hd he ho hl =>
      have hn : c ≠ '=' := by rintro rfl; exact absurd ho (by decide)
      have hw := isWordChar_of_not_mark hc hd ho hl
      rw [List.nil_append,
        scan_of_not_mark macroNames hc (fun d _ => not_isDigraph_of_not_mark hc hn d) hq]
      simp [byClass, hd, he, ho, hw, single]

theorem digraph?_reads {macroNames : Bool} {back : Lookback} {c : Char} {cs : Text} {l : Lexeme}
    (h : digraph? c cs = some l) : Reads macroNames back l.token l.slice l.rest := by
  cases cs with
  | nil => simp [digraph?] at h
  | cons d rest =>
      rw [digraph?] at h
      split at h
      · next hd =>
          obtain rfl := Option.some.inj h
          exact .digraph hd
      · simp at h

theorem period_reads (macroNames : Bool) (back : Lookback) (cs : Text) :
    Reads macroNames back (period cs).token (period cs).slice (period cs).rest := by
  unfold period
  split
  · exact .ellipsis
  · next hn =>
      refine .period fun ⟨rest, hr⟩ => ?_
      exact hn rest hr.symm

theorem quoted_reads {macroNames : Bool} {back : Lookback} {q : Char} {cs : Text}
    (hq : OpensString back q cs) :
    Reads macroNames back (quoted q (closers q) cs).token (quoted q (closers q) cs).slice
      (quoted q (closers q) cs).rest := by
  have hs := List.takeWhile_append_dropWhile (p := fun c => !(closers q).contains c) (l := cs)
  have hv : ∀ d ∈ cs.takeWhile fun c => !(closers q).contains c, d ∉ closers q := by
    intro d hd
    simpa using List.mem_takeWhile_imp hd
  have hk := nextIs_dropWhile (fun c => !(closers q).contains c) cs
  unfold quoted
  cases hd : cs.dropWhile fun c => !(closers q).contains c with
  | nil =>
      rw [hd, List.append_nil] at hs
      exact .unclosed (by rwa [hs]) hv
  | cons k rest =>
      rw [hd] at hs hk
      have hh : cs.head? = (cs.takeWhile (fun c => !(closers q).contains c) ++ [k]).head? := by
        conv_lhs => rw [← hs]
        cases cs.takeWhile fun c => !(closers q).contains c <;> rfl
      exact .closed ((opensString_congr hh).mp hq) hv (by simpa [nextIs] using hk)

theorem apostrophe_reads (macroNames : Bool) (back : Lookback) (cs : Text) :
    Reads macroNames back (apostrophe back cs).token (apostrophe back cs).slice
      (apostrophe back cs).rest := by
  by_cases h : InWord back cs
  · rw [apostrophe_of_inWord h]
    exact .inWord h
  · rw [apostrophe_of_not_inWord h]
    exact quoted_reads (q := '\'') (.inl ⟨rfl, h⟩)

theorem word_reads (macroNames : Bool) (back : Lookback) {c : Char} (hc : isLetter c = true)
    (cs : Text) :
    Reads macroNames back (word macroNames c cs).token (word macroNames c cs).slice
      (word macroNames c cs).rest := by
  have hw : ∀ d ∈ cs.takeWhile isWordChar, isWordChar d = true := fun d hd =>
    List.mem_takeWhile_imp hd
  have hr := nextIs_dropWhile isWordChar cs
  unfold word
  dsimp only
  split
  · exact .macroName rfl hc hw
  · next hn =>
      refine .word hc hw hr fun hm hd => ?_
      cases hs : cs.dropWhile isWordChar with
      | nil => simp [hs] at hd
      | cons d rest =>
          rw [hs, List.head?_cons, Option.mem_def] at hd
          obtain rfl := Option.some.inj hd
          exact hn rest hm hs

theorem operatorRun_reads (macroNames : Bool) (back : Lookback) {c : Char} {cs : Text}
    (hc : isOperatorChar c = true) (he : isEmoji c = false)
    (hd : ∀ d ∈ cs.head?, ¬ IsDigraph c d) :
    Reads macroNames back (operatorRun c cs).token (operatorRun c cs).slice
      (operatorRun c cs).rest := by
  unfold operatorRun
  split
  · exact .assignment hc he
  · next hn =>
      refine .operator hc he fun d h => ⟨?_, hd d h⟩
      rintro rfl
      obtain ⟨rest, hr⟩ := List.head?_eq_some_iff.mp h
      exact hn rest hr

theorem not_mark_of_no_rule {back : Lookback} {c : Char} {cs : Text} (hp : punctuation? c = none)
    (hn : c ≠ '.') (hv : startsVariable back c cs = false) (ha : c ≠ '\'')
    (hq : isDoubleQuote c = false) : c ∉ marks := by
  intro hc
  have hall : ∀ c ∈ marks, punctuation? c ≠ none ∨ c = '.' ∨ c = '$' ∨ c = '_' ∨ c = '\'' ∨
      isDoubleQuote c = true :=
    List.all_iff_forall_prop.mp (by decide)
  rcases hall c hc with h | h | rfl | rfl | h | h
  · exact h hp
  · exact hn h
  · simp [startsVariable] at hv
  · simp [startsVariable] at hv
  · exact ha h
  · simp [hq] at h

theorem scan_reads (macroNames : Bool) (back : Lookback) (c : Char) (cs : Text) :
    Reads macroNames back (scan macroNames back c cs).token (scan macroNames back c cs).slice
      (scan macroNames back c cs).rest := by
  cases hg : digraph? c cs with
  | some l => simpa only [scan, hg] using digraph?_reads hg
  | none =>
  cases hp : punctuation? c with
  | some t =>
      simp only [scan, hg, hp]
      exact .punctuation hp (digraph?_eq_none_iff.mp hg)
  | none =>
  simp only [scan, hg, hp]
  rw [digraph?_eq_none_iff] at hg
  split
  · next h => subst h; exact period_reads macroNames back cs
  next hn =>
  split
  · next h =>
      exact .varName (startsVariable_takeWhile h) (fun d hd => List.mem_takeWhile_imp hd)
        (nextIs_dropWhile _ _)
  next hv =>
  split
  · next h => subst h; exact apostrophe_reads macroNames back cs
  next ha =>
  split
  · next h =>
      have hc : closers c = closingQuotes c := if_neg ha
      exact hc ▸ quoted_reads (.inr h)
  next hq =>
  split
  · next h => exact .number h (fun d hd => List.mem_takeWhile_imp hd) (nextIs_dropWhile _ _)
  next hd =>
  split
  · next h => exact .emoji h (by simpa using hd)
  next he =>
  split
  · next h => exact operatorRun_reads macroNames back h (by simpa using he) hg
  next ho =>
  rw [Bool.not_eq_true] at hv hq hd he ho
  have hm := not_mark_of_no_rule hp hn hv ha hq
  split
  · next h =>
      rcases isWordChar_iff.mp h with h | h | rfl | rfl
      · exact word_reads macroNames back h cs
      · simp [hd] at h
      · exact absurd hm (by decide)
      · exact absurd ho (by decide)
  · next h =>
      refine .other hm hv hd he ho ?_
      rw [Bool.eq_false_iff]
      exact fun hl => h (isWordChar_of_isLetter hl)

end StoryText.Token
