import StoryText.Toml.Basic

namespace StoryText.Toml

def field? (width lo hi : Nat) (s : Text) : Option (Text × Text) := do
  let ds := s.take width
  let n ← Text.natOf? 10 ds
  if ds.length = width ∧ lo ≤ n ∧ n ≤ hi then some (ds, s.drop width) else none

def mark? (c : Char) : Text → Option Text
  | d :: s => if c = d then some s else none
  | [] => none

def isLeapYear (year : Nat) : Bool := year % 4 == 0 && (year % 100 != 0 || year % 400 == 0)

def daysIn (year month : Nat) : Nat :=
  if month = 2 then if isLeapYear year then 29 else 28
  else if month = 4 ∨ month = 6 ∨ month = 9 ∨ month = 11 then 30
  else 31

def date? (s : Text) : Option (Text × Text) := do
  let (year, s) ← field? 4 0 9999 s
  let s ← mark? '-' s
  let (month, s) ← field? 2 1 12 s
  let s ← mark? '-' s
  let (day, s) ← field? 2 1 (daysIn (Text.ofDigits 10 year) (Text.ofDigits 10 month)) s
  some (year ++ '-' :: month ++ '-' :: day, s)

/-- The digits of a second after the point: nine at most count, and zeros at the end are dropped. -/
def secondFraction (ds : Text) : Text :=
  match ((ds.take 9).reverse.dropWhile (· == '0')).reverse with
  | [] => []
  | ds => '.' :: ds

def time? (s : Text) : Option (Text × Text) := do
  let (hour, s) ← field? 2 0 23 s
  let s ← mark? ':' s
  let (minute, s) ← field? 2 0 59 s
  let s ← mark? ':' s
  let (second, s) ← field? 2 0 60 s
  let t := hour ++ ':' :: minute ++ ':' :: second
  match s with
  | '.' :: s =>
    let ds := s.takeWhile Char.isDigit
    if ds.isEmpty then none else some (t ++ secondFraction ds, s.dropWhile Char.isDigit)
  | s => some (t, s)

def offset? : Text → Option (Text × Text)
  | c :: s =>
    if c = 'Z' ∨ c = 'z' then some (['Z'], s)
    else if c = '+' ∨ c = '-' then do
      let (hour, s) ← field? 2 0 23 s
      let s ← mark? ':' s
      let (minute, s) ← field? 2 0 59 s
      let t := hour ++ ':' :: minute
      some ((if Text.ofDigits 10 (hour ++ minute) = 0 then '+' else c) :: t, s)
    else none
  | [] => none

def timeAfterDate? : Text → Option (Text × Text)
  | c :: s =>
    if c = 'T' ∨ c = 't' ∨ c = ' ' then do
      let (t, s) ← time? s
      let (o, s) := (offset? s).getD ([], s)
      some ('T' :: t ++ o, s)
    else none
  | [] => none

def dateTime? (s : Text) : Option (Text × Text) :=
  match date? s with
  | some (d, s) =>
    let (t, s) := (timeAfterDate? s).getD ([], s)
    some (d ++ t, s)
  | none => time? s

end StoryText.Toml
