import StoryText.Pattern.Escape

namespace StoryText.Pattern

def asciiNames : List Text :=
  ["alnum", "alpha", "ascii", "blank", "cntrl", "digit", "graph", "lower", "print", "punct",
    "space", "upper", "word", "xdigit"].map String.toList

def named? : Text → Option (Bool × Text)
  | ':' :: s =>
    let negated := s.head? = some '^'
    let s := if negated then s.tail else s
    let name := s.takeWhile (· != ':')
    if asciiNames.contains name then
      (Text.after? [':', ']'] (s.drop name.length)).map fun s => (negated, s)
    else none
  | _ => none

def member? (m : Mode) (c : Char) (s : Text) : Option (Item × Text) := do
  let (i, s) ← if c = '\\' then escape? m s else some (.char c, s)
  match i with
  | .char c => if m.unicode ∨ c.toNat < 0x80 then some (i, s) else none
  | .set => some (i, s)
  | .place => none

def range? (m : Mode) (c : Char) (s : Text) : Option Text := do
  let (low, s) ← member? m c s
  match m.skip s with
  | '-' :: t =>
    if m.peek? t = some ']' ∨ m.peek? t = some '-' then some ('-' :: t)
    else
      match m.skip t with
      | [] => none
      | d :: t => do
        let (high, t) ← member? m d t
        match low, high with
        | .char x, .char y => if x ≤ y then some t else none
        | _, _ => none
  | t => some t

inductive Progress
  | start | hyphens | inside
  deriving DecidableEq, Repr

/-- A class in brackets under construction: how deep the operands are that stand left of the last
operator, if there is one, and the members right of it. -/
structure ClassDraft where
  progress : Progress := .start
  left : Option Nat := none
  members : List Nat := []

namespace ClassDraft

def add (k : ClassDraft) (depth : Nat) : ClassDraft :=
  { k with progress := .inside, members := depth :: k.members }

def depth (k : ClassDraft) : Nat :=
  match k.left with
  | none => nest k.members
  | some d => max d (nest k.members) + 1

def operator (k : ClassDraft) : ClassDraft := ⟨.inside, some k.depth, []⟩

end ClassDraft

def classStart? (m : Mode) (s : Text) : Option Text :=
  match m.skip s with
  | '^' :: s => if m.unicode then some s else none
  | s => some s

/-- Reads the rest of a class: how deep it is, and what follows it. A bracket right at the start is
a member, as are hyphens there, and neither begins a range. -/
def class? (m : Mode) : Nat → ClassDraft → Text → Option (Nat × Text)
  | 0, _, _ => none
  | n + 1, k, s =>
    match m.skip s with
    | [] => none
    | c :: s =>
      if c = ']' then
        if k.progress = .start then class? m n (k.add 0) s else some (k.depth + 1, s)
      else if c = '-' ∧ k.progress ≠ .inside then
        class? m n { k.add 0 with progress := .hyphens } s
      else if c = '[' then
        match named? s with
        | some (negated, s) => if negated ∧ !m.unicode then none else class? m n (k.add 0) s
        | none => do
          let (d, s) ← class? m n {} (← classStart? m s)
          class? m n (k.add d) s
      else if ['&', '-', '~'].contains c ∧ s.head? = some c then class? m n k.operator s.tail
      else do class? m n (k.add 0) (← range? m c s)

end StoryText.Pattern
