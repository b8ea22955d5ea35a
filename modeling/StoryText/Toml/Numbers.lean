import StoryText.Toml.Basic

namespace StoryText.Toml

def moreDigits? (isDigit : Char → Bool) : Text → Option (Text × Text)
  | [] => some ([], [])
  | '_' :: [] => none
  | '_' :: c :: s =>
    if isDigit c then (moreDigits? isDigit s).map fun p => (c :: p.1, p.2) else none
  | c :: s =>
    if isDigit c then (moreDigits? isDigit s).map fun p => (c :: p.1, p.2) else some ([], c :: s)

def digits? (isDigit : Char → Bool) : Text → Option (Text × Text)
  | [] => none
  | c :: s =>
    if isDigit c then (moreDigits? isDigit s).map fun p => (c :: p.1, p.2) else none

def sign : Text → Bool × Text
  | '-' :: s => (true, s)
  | '+' :: s => (false, s)
  | s => (false, s)

def whole? : Text → Option (Text × Text)
  | '0' :: s => some (['0'], s)
  | s => digits? Char.isDigit s

def fraction? : Text → Option (Text × Text)
  | '.' :: s => digits? Char.isDigit s
  | _ => none

def exponent? : Text → Option (Int × Text)
  | c :: s =>
    if c = 'e' ∨ c = 'E' then do
      let (negative, s) := sign s
      let (ds, s) ← digits? Char.isDigit s
      let n : Int := Text.ofDigits 10 ds
      some (if negative then -n else n, s)
    else none
  | [] => none

def decimalFloat? (s : Text) : Option (Binary64 × Text) := do
  let (negative, s) := sign s
  let (ds, s) ← whole? s
  match s with
  | '.' :: _ => do
    let (fs, s) ← fraction? s
    let (e, s) := (exponent? s).getD (0, s)
    some (.ofDecimal negative (Text.ofDigits 10 (ds ++ fs)) (e - fs.length), s)
  | _ => do
    let (e, s) ← exponent? s
    some (.ofDecimal negative (Text.ofDigits 10 ds) e, s)

def specialFloat? (s : Text) : Option (Binary64 × Text) :=
  match sign s with
  | (negative, 'i' :: 'n' :: 'f' :: s) => some (.infinite negative, s)
  | (_, 'n' :: 'a' :: 'n' :: s) => some (.nan, s)
  | _ => none

/-- A float. One that is too large is refused, unless it is negative. -/
def float? (s : Text) : Option (Binary64 × Text) :=
  match decimalFloat? s with
  | some (x, s) => if x = .infinite false then none else some (x, s)
  | none => specialFloat? s

def inRange (n : Int) : Bool := decide (-Int.pow 2 63 ≤ n) && decide (n < Int.pow 2 63)

def ofBase? (base : Nat) (s : Text) : Option (Int × Text) := do
  let (ds, s) ← digits? (Text.isDigitOf base) s
  let n : Int := Text.ofDigits base ds
  if inRange n then some (n, s) else none

def integer? (s : Text) : Option (Int × Text) :=
  match s with
  | '0' :: 'x' :: s => ofBase? 16 s
  | '0' :: 'o' :: s => ofBase? 8 s
  | '0' :: 'b' :: s => ofBase? 2 s
  | s => do
    let (negative, s) := sign s
    let (ds, s) ← whole? s
    let n : Int := Text.ofDigits 10 ds
    let n := if negative then -n else n
    if inRange n then some (n, s) else none

end StoryText.Toml
