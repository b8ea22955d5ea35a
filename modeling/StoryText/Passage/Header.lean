import StoryText.Text.Blank

namespace StoryText

structure Header where
  title : Text
  tags : List Text := []
  config : List Text := []
  deriving DecidableEq, Repr

namespace Header

open Text (isBlank trim)

def marker : Text := [':', ':']

def isBracket (c : Char) : Bool := c == '[' || c == ']'

/-- The items of a bracketed list. They are separated by blanks U+0020; other white space belongs to
them. -/
def items (contents : Text) : List Text := (Text.pieces ' ' contents).filter fun t => !t.isEmpty

def group? (s : Text) : Option (Text × Text) :=
  match s.dropWhile fun c => !isBracket c with
  | ']' :: rest => some (s.takeWhile fun c => !isBracket c, rest)
  | _ => none

/-- The lists behind a title: nothing, one group, or two with only blanks between and after them. -/
def lists? (s : Text) : Option (List Text × List Text) :=
  match s with
  | [] => some ([], [])
  | '[' :: s => do
    let (tags, s) ← group? s
    match s.dropWhile isBlank with
    | [] => some (items tags, [])
    | '[' :: s => do
      let (config, s) ← group? s
      if s.all isBlank then some (items tags, items config) else none
    | _ => none
  | _ => none

def wellFormed? (r : Text) : Option Header := do
  let title := r.takeWhile fun c => !isBracket c
  if title.all isBlank then none
  else
    let (tags, config) ← lists? (r.dropWhile fun c => !isBracket c)
    some ⟨trim title, tags, config⟩

/-- Any text is a header: one that is not well-formed is a title as a whole. -/
def ofText (r : Text) : Header := (wellFormed? r).getD { title := trim r }

def ofLine? (line : Text) : Option Header := (Text.after? marker line).map ofText

end Header

end StoryText
