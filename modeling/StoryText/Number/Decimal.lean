import StoryText.Number.Binary64
import StoryText.Text.Digits

namespace StoryText.Binary64

open Text (natOf?)

def unsign : Text → Bool × Text
  | '-' :: t => (true, t)
  | '+' :: t => (false, t)
  | t => (false, t)

def mantissa? (t : Text) : Option (Text × Nat) :=
  let whole := t.takeWhile Char.isDigit
  let part := match t.dropWhile Char.isDigit with
    | [] => some []
    | '.' :: f => some f
    | _ => none
  match part with
  | none => none
  | some f =>
    let ds := whole ++ f
    if ds.isEmpty || !ds.all Char.isDigit then none else some (ds, f.length)

def exponent? (t : Text) : Option Int :=
  match unsign t with
  | (negative, ds) => (natOf? 10 ds).map fun n => if negative then -n else n

def isExponentMark (c : Char) : Bool := c == 'e' || c == 'E'

def ofText? (t : Text) : Option Binary64 :=
  match unsign t with
  | (negative, t) => do
    let (ds, places) ← mantissa? (t.takeWhile fun c => !isExponentMark c)
    let e ← match t.dropWhile fun c => !isExponentMark c with
      | [] => some 0
      | _ :: e => exponent? e
    some (ofDecimal negative (Text.ofDigits 10 ds) (e - places))

def infiniteNames : List Text := ["inf", "infinity", "nan"].map String.toList

def isNumeral (t : Text) : Bool :=
  (ofText? t).isSome || infiniteNames.contains ((unsign t).2.map Char.toLower)

end StoryText.Binary64
