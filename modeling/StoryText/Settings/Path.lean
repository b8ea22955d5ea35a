import StoryText.Settings.Value
import StoryText.Text.Lowercase

namespace StoryText.Settings

inductive Step
  | child (name : Text)
  | index (i : Int)
  deriving DecidableEq, Repr

structure Path where
  head : Text
  steps : List Step
  deriving DecidableEq, Repr

namespace Path

inductive Error
  | noName | noStep | noNumber | outOfRange
  deriving DecidableEq, Repr

def Error.message : Error → Text
  | noName => "IsA".toList
  | noStep => "Char".toList
  | noNumber => "Digit".toList
  | outOfRange => "Map on Result".toList

def isNameChar (c : Char) : Bool := c.isAlphanum || c == ' ' || c == '_' || c == '-'

def name? (s : Text) : Option (Text × Text) :=
  let name := s.takeWhile isNameChar
  if name.isEmpty then none else some (name.map Char.toLower, s.dropWhile isNameChar)

def isSpace (c : Char) : Bool := c == ' ' || c == '\t'

def inRange (i : Int) : Bool := decide (-Int.pow 2 63 ≤ i) && decide (i < Int.pow 2 63)

def readIndex (s : Text) : Except Error (Int × Text) := do
  let s := s.dropWhile isSpace
  let (negative, s) := match s with
    | '-' :: s => (true, s)
    | s => (false, s)
  let n ← (Text.natOf? 10 (s.takeWhile Char.isDigit)).elim (.error .noNumber) .ok
  let i : Int := if negative then -n else n
  if !inRange i then .error .outOfRange
  else
    match (s.dropWhile Char.isDigit).dropWhile isSpace with
    | ']' :: s => .ok (i, s)
    | _ => .error .noStep

def readStep (s : Text) : Except Error (Step × Text) :=
  match s with
  | '.' :: s =>
    match name? s with
    | some (name, s) => .ok (.child name, s)
    | none => .error .noStep
  | '[' :: s => (readIndex s).map fun p => (.index p.1, p.2)
  | _ => .error .noStep

def readSteps : Nat → Text → Except Error (List Step)
  | _, [] => .ok []
  | 0, _ => .error .noStep
  | n + 1, s => do
    let (x, s) ← readStep s
    let xs ← readSteps n s
    .ok (x :: xs)

def ofText (s : Text) : Except Error Path := do
  let (head, s) ← (name? s).elim (.error .noName) .ok
  let steps ← readSteps s.length s
  .ok ⟨head, steps⟩

end Path

namespace Value

mutual

/-- Sets a field of a table, its name in small letters. A table is merged into the field, anything
else replaces it. -/
def setField (k : Text) (v : Value) (fs : Fields) : Fields :=
  match v with
  | table _ new => put k.lowercase (merge new ((get? k.lowercase fs).getD (table none []))) fs
  | v => put k.lowercase v fs

/-- Sets fields one after the other. Without any the value stays, even if it is no table. -/
def merge (new : Fields) (v : Value) : Value :=
  match new with
  | [] => v
  | (k, w) :: new => merge new (table v.asTable.1 (setField k w v.asTable.2))

end

/-- Changes the item at an index, a negative one counted from the end. An array that is too short is
filled up with nulls; before the first item there is none. -/
def changeAt (i : Int) (f : Value → Value) (vs : List Value) : List Value :=
  if 0 ≤ i then
    (vs ++ List.replicate (i.toNat + 1 - vs.length) (null none)).modify i.toNat f
  else if i.natAbs ≤ vs.length then vs.modify (vs.length - i.natAbs) f
  else vs

/-- Sets a part of a value. What stands in the way and is no container is replaced by one. -/
def setPart : List Step → Value → Value → Value
  | [], v, _ => v
  | [.child k], v, old => table old.asTable.1 (setField k v old.asTable.2)
  | .child k :: steps, v, old =>
    let fs := old.asTable.2
    table old.asTable.1 (put k (setPart steps v ((get? k fs).getD (null none))) fs)
  | .index i :: steps, v, old => array old.asArray.1 (changeAt i (setPart steps v) old.asArray.2)

end Value

def Path.set (p : Path) (v : Value) (fs : Value.Fields) : Value.Fields :=
  match p.steps with
  | [] => Value.setField p.head v fs
  | steps => Value.put p.head (Value.setPart steps v ((Value.get? p.head fs).getD (.null none))) fs

end StoryText.Settings
