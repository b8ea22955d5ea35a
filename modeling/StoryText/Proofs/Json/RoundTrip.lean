import Mathlib
import StoryText.Json.Printer
import StoryText.Json.Reader

namespace StoryText.Json

/-- A document without numbers. A number is whatever text it is written as, so it need not read back
as one. -/
inductive Numberless : Json → Prop
  | null : Numberless null
  | bool (b : Bool) : Numberless (bool b)
  | string (t : Text) : Numberless (string t)
  | array {js : List Json} (h : ∀ j ∈ js, Numberless j) : Numberless (array js)
  | object {fs : List (Text × Json)} (h : ∀ f ∈ fs, Numberless f.2) : Numberless (object fs)

section Strings

theorem padLeft_hex_of_lt : ∀ n < 0x20,
    Text.padLeft 4 '0' (Text.hex n) = ['0', '0', (n / 16).digitChar, (n % 16).digitChar] := by
  decide

theorem quad?_of_lt : ∀ n < 0x20,
    quad? '0' '0' (n / 16).digitChar (n % 16).digitChar = some n := by
  decide

theorem escaped?_of_lt {c : Char} (h : c.toNat < 0x20) (s : Text) :
    escaped? ('u' :: Text.padLeft 4 '0' (Text.hex c.toNat) ++ s) = some (c, s) := by
  have hhigh : isHighSurrogate c.toNat = false := by simp [isHighSurrogate]; omega
  have hlow : isLowSurrogate c.toNat = false := by simp [isLowSurrogate]; omega
  rw [padLeft_hex_of_lt _ h]
  simp [escaped?, quad?_of_lt _ h, hhigh, hlow, Char.ofNat_toNat]

theorem escape_cases (c : Char) :
    (∃ e, escape c = '\\' :: e ∧ ∀ s, escaped? (e ++ s) = some (c, s)) ∨
      escape c = [c] ∧ c ≠ '"' ∧ c ≠ '\\' ∧ ¬ c.toNat < 0x20 := by
  by_cases hc : c ∈ ['"', '\\', '\x08', '\x0c', '\n', '\r', '\t']
  · left
    simp only [List.mem_cons, List.not_mem_nil, or_false] at hc
    rcases hc with rfl | rfl | rfl | rfl | rfl | rfl | rfl <;> exact ⟨_, rfl, fun _ => rfl⟩
  · simp only [List.mem_cons, List.not_mem_nil, or_false, not_or] at hc
    by_cases hlt : c.toNat < 0x20
    · exact .inl ⟨_, by simp only [escape, hc, hlt, if_true, if_false], escaped?_of_lt hlt⟩
    · exact .inr ⟨by simp only [escape, hc, hlt, if_false], hc.1, hc.2.1, hlt⟩

theorem stringBody_escape (n : Nat) (c : Char) (s : Text) :
    stringBody (n + 1) (escape c ++ s) = (stringBody n s).map fun p => (c :: p.1, p.2) := by
  rcases escape_cases c with ⟨e, he, hs⟩ | ⟨he, hq, hb, hlt⟩
  · rw [he, List.cons_append, stringBody, hs, Option.bind_eq_bind, Option.bind_some]
    dsimp only
    cases stringBody n s <;> rfl
  · rw [he, List.singleton_append, stringBody, if_neg hlt]
    · simpa using hq
    · simpa using hb

theorem stringBody_flatMap_escape (t rest : Text) {n : Nat} (h : t.length < n) :
    stringBody n (t.flatMap escape ++ '"' :: rest) = some (t, rest) := by
  induction t generalizing n with
  | nil =>
      obtain ⟨n, rfl⟩ := Nat.exists_eq_add_one_of_ne_zero h.ne_bot
      rfl
  | cons c t ih =>
      obtain ⟨n, rfl⟩ := Nat.exists_eq_add_one_of_ne_zero (Nat.ne_zero_of_lt h)
      rw [List.flatMap_cons, List.append_assoc, stringBody_escape, ih (by simpa using h)]
      rfl

theorem length_le_flatMap_escape (t : Text) : t.length ≤ (t.flatMap escape).length := by
  induction t with
  | nil => simp
  | cons c t ih =>
      have hc : 0 < (escape c).length := by
        rcases escape_cases c with ⟨e, he, -⟩ | ⟨he, -⟩ <;> simp [he]
      simp only [List.flatMap_cons, List.length_append, List.length_cons]
      omega

theorem quoted?_flatMap_escape (t rest : Text) :
    quoted? (t.flatMap escape ++ '"' :: rest) = some (t, rest) := by
  have hlen := length_le_flatMap_escape t
  refine stringBody_flatMap_escape t rest ?_
  simp only [List.length_append, List.length_cons]
  omega

end Strings

section Values

variable {w : Text} (hw : ∀ c ∈ w, isSpace c = true)

include hw in
theorem skipSpace_append (s : Text) : skipSpace (w ++ s) = skipSpace s :=
  List.dropWhile_append_of_pos hw

theorem skipSpace_cons {c : Char} (hc : isSpace c = false) (s : Text) :
    skipSpace (c :: s) = c :: s :=
  List.dropWhile_cons_of_neg (by simp [hc])

include hw in
theorem value?_append (n : Nat) (s : Text) : value? n (w ++ s) = value? n s := by
  cases n with
  | zero => rfl
  | succ n => rw [value?, value?, skipSpace_append hw]

theorem isSpace_of_mem_newline (depth : Nat) : ∀ c ∈ newline depth, isSpace c = true := by
  intro c hc
  rcases List.mem_cons.mp hc with rfl | hc
  · rfl
  · rw [List.eq_of_mem_replicate hc]
    rfl

section Dispatch

variable {n : Nat} {s t u : Text}

theorem value?_of_quote (h : skipSpace s = '"' :: t) :
    value? (n + 1) s = (quoted? t).map fun p => (string p.1, p.2) := by
  rw [value?, h]
  rfl

theorem value?_of_brackets (h : skipSpace s = '[' :: t) (ht : skipSpace t = ']' :: u) :
    value? (n + 1) s = some (array [], u) := by
  simp only [value?, h, ht]

theorem value?_of_bracket (h : skipSpace s = '[' :: t) (ht : ∀ u, skipSpace t ≠ ']' :: u) :
    value? (n + 1) s = (items? n t).map fun p => (array p.1, p.2) := by
  simp only [value?, h]

theorem value?_of_braces (h : skipSpace s = '\x7b' :: t) (ht : skipSpace t = '\x7d' :: u) :
    value? (n + 1) s = some (object [], u) := by
  simp only [value?, h, ht]

theorem value?_of_brace (h : skipSpace s = '\x7b' :: t) (ht : skipSpace t = '"' :: u) :
    value? (n + 1) s = (fieldList? n t).map fun p => (object p.1, p.2) := by
  simp only [value?, h, ht]
  rfl

theorem value?_of_close (h : skipSpace s = ']' :: t) : value? n s = none := by
  cases n with
  | zero => rfl
  | succ n =>
      rw [value?, h]
      rfl

end Dispatch

def ReadsBack (j : Json) : Prop :=
  ∀ depth n rest, (pretty depth j).length ≤ n →
    value? (n + 1) (pretty depth j ++ rest) = some (j, rest)

include hw in
theorem ReadsBack.behind {j : Json} (h : ReadsBack j) (depth n : Nat)
    (hn : (pretty depth j).length ≤ n) (rest : Text) :
    value? (n + 1) (w ++ (pretty depth j ++ rest)) = some (j, rest) :=
  (value?_append hw (n + 1) _).trans (h depth n rest hn)

theorem quote_append (t s : Text) :
    quote t ++ s = '"' :: (t.flatMap escape ++ '"' :: s) := by
  simp [quote]

theorem skipSpace_quote (t s : Text) :
    skipSpace (quote t ++ s) = '"' :: (t.flatMap escape ++ '"' :: s) := by
  rw [quote_append, skipSpace_cons (by decide)]

theorem readsBack_string (t : Text) : ReadsBack (string t) := by
  intro depth n rest _
  rw [pretty, value?_of_quote (skipSpace_quote t rest), quoted?_flatMap_escape]
  rfl

section Containers

variable {n : Nat} {s t u : Text} {j : Json} (h : value? n s = some (j, t))
include h

theorem items?_of_comma (ht : skipSpace t = ',' :: u) :
    items? (n + 1) s = (items? n u).map fun p => (j :: p.1, p.2) := by
  simp only [items?, h, ht, Option.bind_eq_bind, Option.bind_some]

theorem items?_of_bracket (ht : skipSpace t = ']' :: u) :
    items? (n + 1) s = some ([j], u) := by
  simp only [items?, h, ht, Option.bind_eq_bind, Option.bind_some]

variable (k : Text)
include hw

theorem fieldList?_of_comma (ht : skipSpace t = ',' :: u) :
    fieldList? (n + 1) (w ++ (quote k ++ ':' :: s)) =
      (fieldList? n u).map fun p => ((k, j) :: p.1, p.2) := by
  have hcolon : skipSpace (':' :: s) = ':' :: s := skipSpace_cons (by decide) s
  simp only [fieldList?, skipSpace_append hw, skipSpace_quote, quoted?_flatMap_escape, hcolon, h,
    ht, Option.bind_eq_bind, Option.bind_some]

theorem fieldList?_of_brace (ht : skipSpace t = '\x7d' :: u) :
    fieldList? (n + 1) (w ++ (quote k ++ ':' :: s)) = some ([(k, j)], u) := by
  have hcolon : skipSpace (':' :: s) = ':' :: s := skipSpace_cons (by decide) s
  simp only [fieldList?, skipSpace_append hw, skipSpace_quote, quoted?_flatMap_escape, hcolon, h,
    ht, Option.bind_eq_bind, Option.bind_some]

end Containers

theorem prettyItems_cons (depth : Nat) (j : Json) (js : List Json) (s : Text) :
    prettyItems depth (j :: js) ++ s =
      ',' :: (newline depth ++ (pretty depth j ++ (prettyItems depth js ++ s))) := by
  simp only [prettyItems, List.cons_append, List.append_assoc]

theorem prettyFields_cons (depth : Nat) (f : Text × Json) (fs : List (Text × Json)) (s : Text) :
    prettyFields depth (f :: fs) ++ s = ',' :: (newline depth ++ (quote f.1 ++ ':' ::
      ([' '] ++ (pretty depth f.2 ++ (prettyFields depth fs ++ s))))) := by
  simp only [prettyFields, List.cons_append, List.append_assoc, List.nil_append]

include hw in
theorem items?_prettyItems {j : Json} {js : List Json} (h : ∀ i ∈ j :: js, ReadsBack i)
    (depth : Nat) (rest : Text) {n : Nat}
    (hn : (pretty depth j).length + (prettyItems depth js).length ≤ n) :
    items? (n + 2) (newline depth ++
      (pretty depth j ++ (prettyItems depth js ++ (w ++ ']' :: rest)))) = some (j :: js, rest) := by
  have hline := isSpace_of_mem_newline depth
  -- every item takes one step of the fuel, and its comma pays for it
  induction js generalizing j n with
  | nil =>
      have hj := (h j (by simp)).behind hline depth n (by omega)
      exact items?_of_bracket (hj _) ((skipSpace_append hw _).trans (skipSpace_cons (by decide) _))
  | cons k js ih =>
      simp only [prettyItems, newline, List.length_append, List.length_cons] at hn
      obtain ⟨n, rfl⟩ := Nat.exists_eq_add_one_of_ne_zero (show n ≠ 0 by omega)
      have hj := (h j (by simp)).behind hline depth (n + 1) (by omega)
      have hjs := ih (j := k) (n := n) (fun i hi => h i (List.mem_cons_of_mem _ hi)) (by omega)
      rw [prettyItems_cons, items?_of_comma (hj _) (skipSpace_cons (by decide) _), hjs]
      rfl

include hw in
theorem fieldList?_prettyFields {f : Text × Json} {fs : List (Text × Json)}
    (h : ∀ g ∈ f :: fs, ReadsBack g.2) (depth : Nat) (rest : Text) {n : Nat}
    (hn : (pretty depth f.2).length + (prettyFields depth fs).length ≤ n) :
    fieldList? (n + 2) (newline depth ++ (quote f.1 ++ ':' ::
      ([' '] ++ (pretty depth f.2 ++ (prettyFields depth fs ++ (w ++ '\x7d' :: rest)))))) =
        some (f :: fs, rest) := by
  have hline := isSpace_of_mem_newline depth
  have hblank : ∀ c ∈ [' '], isSpace c = true := by simp [isSpace]
  induction fs generalizing f n with
  | nil =>
      have hf := (h f (by simp)).behind hblank depth n (by omega)
      exact fieldList?_of_brace hline (hf _) _
        ((skipSpace_append hw _).trans (skipSpace_cons (by decide) _))
  | cons g fs ih =>
      simp only [prettyFields, newline, List.length_append, List.length_cons] at hn
      obtain ⟨n, rfl⟩ := Nat.exists_eq_add_one_of_ne_zero (show n ≠ 0 by omega)
      have hf := (h f (by simp)).behind hblank depth (n + 1) (by omega)
      have hfs := ih (f := g) (n := n) (fun i hi => h i (List.mem_cons_of_mem _ hi)) (by omega)
      rw [prettyFields_cons, fieldList?_of_comma hline (hf _) _ (skipSpace_cons (by decide) _), hfs]
      rfl

theorem readsBack_array {js : List Json} (h : ∀ j ∈ js, ReadsBack j) :
    ReadsBack (array js) := by
  intro depth n rest hn
  cases js with
  | nil =>
      rw [pretty]
      exact value?_of_brackets (skipSpace_cons (by decide) _) (skipSpace_cons (by decide) _)
  | cons j js =>
      have hopen := isSpace_of_mem_newline (depth + 1)
      have hclose := isSpace_of_mem_newline depth
      simp only [pretty, newline, List.length_append, List.length_cons] at hn
      obtain ⟨n, rfl⟩ := Nat.exists_eq_add_of_le' (show 2 ≤ n by omega)
      simp only [pretty, List.cons_append, List.append_assoc, List.nil_append]
      rw [value?_of_bracket (skipSpace_cons (by decide) _),
        items?_prettyItems hclose h (depth + 1) rest (by omega)]
      · rfl
      · intro u hu
        rw [skipSpace_append hopen] at hu
        have hj := h j (by simp) (depth + 1) _
          (prettyItems (depth + 1) js ++ (newline depth ++ ']' :: rest)) le_rfl
        rw [value?_of_close hu] at hj
        contradiction

theorem readsBack_object {fs : List (Text × Json)} (h : ∀ f ∈ fs, ReadsBack f.2) :
    ReadsBack (object fs) := by
  intro depth n rest hn
  cases fs with
  | nil =>
      rw [pretty]
      exact value?_of_braces (skipSpace_cons (by decide) _) (skipSpace_cons (by decide) _)
  | cons f fs =>
      have hopen := isSpace_of_mem_newline (depth + 1)
      have hclose := isSpace_of_mem_newline depth
      simp only [pretty, newline, List.length_append, List.length_cons] at hn
      obtain ⟨n, rfl⟩ := Nat.exists_eq_add_of_le' (show 2 ≤ n by omega)
      have hfs := fieldList?_prettyFields hclose h (depth + 1) rest (n := n) (by omega)
      simp only [pretty, List.cons_append, List.append_assoc, List.nil_append] at hfs ⊢
      rw [value?_of_brace (skipSpace_cons (by decide) _)
        ((skipSpace_append hopen _).trans (skipSpace_quote _ _)), hfs]
      rfl

theorem readsBack_null : ReadsBack null := fun _ _ _ _ => rfl

theorem readsBack_bool (b : Bool) : ReadsBack (bool b) := by
  intro depth n rest _
  cases b <;> rfl

end Values

theorem Numberless.readsBack {j : Json} (h : Numberless j) : ReadsBack j := by
  induction h with
  | null => exact readsBack_null
  | bool b => exact readsBack_bool b
  | string t => exact readsBack_string t
  | array _ ih => exact readsBack_array ih
  | object _ ih => exact readsBack_object ih

/-- A document without numbers reads back from its text over several lines. -/
theorem read?_pretty {j : Json} (h : Numberless j) (depth : Nat) :
    read? (pretty depth j) = some j := by
  have hj := h.readsBack depth _ [] le_rfl
  rw [List.append_nil] at hj
  rw [read?, hj]
  rfl

end StoryText.Json
