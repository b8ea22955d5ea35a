namespace StoryText

abbrev Text := List Char

namespace Text

/-- Length in UTF-8 bytes, the unit of every offset. -/
def size : Text → Nat
  | [] => 0
  | c :: t => c.utf8Size + size t

@[simp]
theorem size_nil : size [] = 0 := rfl

@[simp]
theorem size_cons (c : Char) (t : Text) : size (c :: t) = c.utf8Size + size t := rfl

@[simp]
theorem size_append (s t : Text) : size (s ++ t) = size s + size t := by
  induction s with
  | nil => simp
  | cons c s ih => simp only [List.cons_append, size_cons, ih, Nat.add_assoc]

def splitSize? : Nat → Text → Option (Text × Text)
  | 0, t => some ([], t)
  | _ + 1, [] => none
  | n + 1, c :: t =>
    if c.utf8Size ≤ n + 1 then
      (splitSize? (n + 1 - c.utf8Size) t).map fun p => (c :: p.1, p.2)
    else none

theorem splitSize?_append (s t : Text) : splitSize? (size s) (s ++ t) = some (s, t) := by
  induction s with
  | nil => simp [splitSize?]
  | cons c s ih =>
    obtain ⟨n, hn⟩ : ∃ n, c.utf8Size + size s = n + 1 :=
      ⟨c.utf8Size + size s - 1, by have := c.utf8Size_pos; omega⟩
    have hd : n + 1 - c.utf8Size = size s := by omega
    rw [size_cons, hn, List.cons_append, splitSize?, if_pos (by omega), hd, ih]
    rfl

def consHead (c : Char) : List Text → List Text
  | [] => [[c]]
  | t :: ts => (c :: t) :: ts

def pieces (sep : Char) : Text → List Text
  | [] => [[]]
  | c :: t => if c = sep then [] :: pieces sep t else consHead c (pieces sep t)

/-- The pieces between line breaks. A break is a line feed together with one carriage return
directly before it, if there is one. -/
def lines : Text → List Text
  | [] => [[]]
  | '\r' :: '\n' :: t => [] :: lines t
  | c :: t => if c = '\n' then [] :: lines t else consHead c (lines t)

def join (sep : Text) (ts : List Text) : Text := sep.intercalate ts

def cut? (sep : Char) : Text → Option (Text × Text)
  | [] => none
  | c :: t => if c = sep then some ([], t) else (cut? sep t).map fun p => (c :: p.1, p.2)

def after? : Text → Text → Option Text
  | [], t => some t
  | _ :: _, [] => none
  | a :: start, b :: t => if a = b then after? start t else none

theorem cut?_eq_some_iff {sep : Char} {t a b : Text} :
    cut? sep t = some (a, b) ↔ t = a ++ sep :: b ∧ sep ∉ a := by
  induction t generalizing a with
  | nil => simp [cut?]
  | cons c t ih =>
    cases a with
    | nil => by_cases h : c = sep <;> simp [cut?, h]
    | cons d a =>
      by_cases h : c = sep
      · subst h
        simp +contextual [cut?]
      · rw [cut?, if_neg h, Option.map_eq_some_iff, List.cons_append, List.cons.injEq,
          List.mem_cons, not_or]
        constructor
        · rintro ⟨⟨a', b'⟩, hcut, hp⟩
          obtain ⟨⟨rfl, rfl⟩, rfl⟩ : (c = d ∧ a' = a) ∧ b' = b := by simpa using hp
          obtain ⟨rfl, ha⟩ := ih.mp hcut
          exact ⟨⟨rfl, rfl⟩, Ne.symm h, ha⟩
        · rintro ⟨⟨rfl, rfl⟩, -, ha⟩
          exact ⟨(a, b), ih.mpr ⟨rfl, ha⟩, rfl⟩

theorem after?_eq_some_iff {start t rest : Text} :
    after? start t = some rest ↔ t = start ++ rest := by
  induction start generalizing t with
  | nil => simp [after?, eq_comm]
  | cons a start ih =>
    cases t with
    | nil => simp [after?]
    | cons b t =>
      by_cases h : a = b
      · subst h; simp [after?, ih]
      · simp [after?, h, Ne.symm h]

theorem consHead_ne_nil (c : Char) (ts : List Text) : consHead c ts ≠ [] := by
  cases ts <;> simp [consHead]

theorem pieces_ne_nil (sep : Char) (t : Text) : pieces sep t ≠ [] := by
  cases t with
  | nil => simp [pieces]
  | cons c t => rw [pieces]; split <;> simp [consHead_ne_nil]

theorem lines_ne_nil (t : Text) : lines t ≠ [] := by
  fun_cases lines t <;> simp_all [consHead_ne_nil]

end Text

end StoryText
