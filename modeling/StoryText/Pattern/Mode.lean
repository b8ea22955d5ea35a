import StoryText.Text.Blank

namespace StoryText.Pattern

/-- What a regular expression says about how it is to be read from some place on: whether blanks and
comments in it count for nothing, and whether it is about characters, not bytes. -/
structure Mode where
  spaced : Bool := false
  unicode : Bool := true
  deriving DecidableEq, Repr

def flags : List Char := ['i', 'm', 's', 'U', 'u', 'R', 'x']

def areFlags (t : Text) : Bool :=
  t.all (fun c => flags.contains c || c == '-') && decide t.Nodup && t.getLast? != some '-'

def flag? (c : Char) (t : Text) : Option Bool :=
  if t.contains c then some ((t.takeWhile (· != '-')).contains c) else none

namespace Mode

def update (m : Mode) (t : Text) : Mode :=
  ⟨(flag? 'x' t).getD m.spaced, (flag? 'u' t).getD m.unicode⟩

def afterFiller : Bool → Text → Text
  | _, [] => []
  | true, c :: s => afterFiller (c != '\n') s
  | false, c :: s =>
    if c = '#' then afterFiller true s
    else if Text.isBlank c then afterFiller false s
    else c :: s

def skip (m : Mode) (s : Text) : Text := if m.spaced then afterFiller false s else s

def beyond? : Bool → Text → Option Char
  | _, [] => none
  | passed, c :: s =>
    if Text.isBlank c then beyond? passed s
    else if c = '#' ∧ !passed then beyond? true s
    else some c

def peek? (m : Mode) (s : Text) : Option Char :=
  if m.spaced then (beyond? false s).or s.head? else s.head?

end Mode

/-- How deep nested parts are together: one alone is as deep as it is, several are one deeper. -/
def nest : List Nat → Nat
  | [] => 0
  | [d] => d
  | d :: ds => ds.foldl max d + 1

end StoryText.Pattern
