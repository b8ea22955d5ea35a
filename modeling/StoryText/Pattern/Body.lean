import StoryText.Pattern.Class
import StoryText.Text.Alphanumeric

namespace StoryText.Pattern

structure Part where
  depth : Nat := 0
  repeatable : Bool := true

/-- A regular expression or group under construction: how deep its finished branches are, and the
parts of the current branch, the last in front. -/
structure Body where
  branches : List Nat := []
  parts : List Part := []

namespace Body

def add (b : Body) (p : Part) : Body := { b with parts := p :: b.parts }

def repeat? (b : Body) : Option Body :=
  match b.parts with
  | [] => none
  | p :: ps =>
    if p.repeatable then some { b with parts := { p with depth := p.depth + 1 } :: ps } else none

def branch (b : Body) : Body := ⟨nest (b.parts.map Part.depth) :: b.branches, []⟩

def depth (b : Body) : Nat := nest b.branch.branches

end Body

structure Context where
  mode : Mode := {}
  names : List Text := []

def isNameChar (c : Char) : Bool := Text.isAlphanumeric c || ['_', '.', '[', ']'].contains c

def name? (s : Text) : Option (Text × Text) := do
  let (name, s) ← Text.cut? '>' s
  let c ← name.head?
  if (Text.isAlphabetic c ∨ c = '_') ∧ name.all isNameChar then some (name, s) else none

inductive Opening
  | group (k : Context)
  | flags (m : Mode)

def opening? (k : Context) (s : Text) : Option (Opening × Text) :=
  let s := k.mode.skip s
  match (Text.after? ['?', 'P', '<'] s).or (Text.after? ['?', '<'] s), s with
  | some s, _ => do
    let (name, s) ← name? s
    if k.names.contains name then none else some (.group { k with names := name :: k.names }, s)
  | none, '?' :: s =>
    let flags := s.takeWhile fun c => c != ':' && c != ')'
    let m := k.mode.update flags
    if areFlags flags then
      match s.drop flags.length with
      | ':' :: s => some (.group { k with mode := m }, s)
      | ')' :: s => if flags.isEmpty then none else some (.flags m, s)
      | _ => none
    else none
  | none, s => some (.group k, s)

/-- What follows a part that is no group, class or repetition. An opening brace would begin a count;
where bytes are matched, a point could be a byte that is no character. -/
def atom? (m : Mode) (c : Char) (s : Text) : Option Text :=
  if c = '\\' then (escape? m s).map Prod.snd
  else if c = '{' ∨ (c = '.' ∧ !m.unicode) then none
  else some s

def body? : Nat → Context → Body → Text → Option (Nat × List Text × Text)
  | 0, _, _, _ => none
  | n + 1, k, b, s =>
    match k.mode.skip s with
    | [] => some (b.depth, k.names, [])
    | ')' :: s => some (b.depth, k.names, ')' :: s)
    | '|' :: s => body? n k b.branch s
    | '(' :: s => do
      match ← opening? k s with
      | (.flags m, s) => body? n { k with mode := m } (b.add ⟨0, false⟩) s
      | (.group inner, s) => do
        let (d, names, s) ← body? n inner {} s
        match s with
        | ')' :: s => body? n { k with names := names } (b.add { depth := d + 1 }) s
        | _ => none
    | '[' :: s => do
      let (d, s) ← class? k.mode (s.length + 1) {} (← classStart? k.mode s)
      body? n k (b.add { depth := d }) s
    | c :: s =>
      if c = '?' ∨ c = '*' ∨ c = '+' then do
        body? n k (← b.repeat?) ((Text.after? ['?'] s).getD s)
      else do body? n k (b.add {}) (← atom? k.mode c s)

def depthLimit : Nat := 250

/-- Whether a text is a regular expression that can be matched. It stands between braces and closes
none, so there are no counts in it, and nothing else that is written with braces. -/
def isValid (t : Text) : Bool :=
  match body? (t.length + 1) {} {} t with
  | some (d, _, s) => s.isEmpty && decide (d ≤ depthLimit)
  | none => false

end StoryText.Pattern
