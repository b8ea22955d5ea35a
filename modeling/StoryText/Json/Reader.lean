import StoryText.Json.Basic
import StoryText.Text.Digits

namespace StoryText.Json

def isSpace (c : Char) : Bool := c == ' ' || c == '\t' || c == '\n' || c == '\r'

def skipSpace (s : Text) : Text := s.dropWhile isSpace

def quad? (a b c d : Char) : Option Nat := Text.natOf? 16 [a, b, c, d]

def isHighSurrogate (n : Nat) : Bool := decide (0xD800 ≤ n) && decide (n < 0xDC00)

def isLowSurrogate (n : Nat) : Bool := decide (0xDC00 ≤ n) && decide (n < 0xE000)

def simpleEscape? : Char → Option Char
  | '"' => some '"'
  | '\\' => some '\\'
  | '/' => some '/'
  | 'b' => some '\x08'
  | 'f' => some '\x0c'
  | 'n' => some '\n'
  | 'r' => some '\r'
  | 't' => some '\t'
  | _ => none

/-- The character an escape stands for, after its backslash. A character beyond U+FFFF is written
as two escapes, a high surrogate and a low one; a surrogate alone is refused. -/
def escaped? : Text → Option (Char × Text)
  | 'u' :: a :: b :: c :: d :: t => do
    let hi ← quad? a b c d
    if isHighSurrogate hi then
      match t with
      | '\\' :: 'u' :: a :: b :: c :: d :: t => do
        let lo ← quad? a b c d
        if isLowSurrogate lo then
          some (Char.ofNat (0x10000 + (hi - 0xD800) * 0x400 + (lo - 0xDC00)), t)
        else none
      | _ => none
    else if isLowSurrogate hi then none
    else some (Char.ofNat hi, t)
  | c :: t => (simpleEscape? c).map fun d => (d, t)
  | [] => none

def stringBody (fuel : Nat) (s : Text) : Option (Text × Text) :=
  match fuel, s with
  | _, [] | 0, _ => none
  | _, '"' :: t => some ([], t)
  | n + 1, '\\' :: t => do
    let (c, t) ← escaped? t
    let (cs, t) ← stringBody n t
    some (c :: cs, t)
  | n + 1, c :: t =>
    if c.toNat < 0x20 then none
    else (stringBody n t).map fun p => (c :: p.1, p.2)

def quoted? (s : Text) : Option (Text × Text) := stringBody s.length s

def digits? (s : Text) : Option Text :=
  if (s.takeWhile Char.isDigit).isEmpty then none else some (s.dropWhile Char.isDigit)

def fraction? : Text → Option Text
  | '.' :: s => digits? s
  | s => some s

def exponent? : Text → Option Text
  | c :: s =>
    if c = 'e' ∨ c = 'E' then
      match s with
      | '+' :: s | '-' :: s | s => digits? s
    else some (c :: s)
  | [] => some []

def magnitude? : Text → Option Text
  | '0' :: s => (fraction? s).bind exponent?
  | s => ((digits? s).bind fraction?).bind exponent?

def number? (s : Text) : Option (Json × Text) := do
  let rest ← match s with
    | '-' :: s => magnitude? s
    | s => magnitude? s
  some (number (s.take (s.length - rest.length)), rest)

def word? (s : Text) : Option (Json × Text) :=
  match s with
  | 'n' :: 'u' :: 'l' :: 'l' :: t => some (null, t)
  | 't' :: 'r' :: 'u' :: 'e' :: t => some (bool true, t)
  | 'f' :: 'a' :: 'l' :: 's' :: 'e' :: t => some (bool false, t)
  | _ => number? s

mutual

/-- The value at the front of a text, blanks before it skipped. The fuel bounds the number of nested
steps; the length of the text is enough. -/
def value? : Nat → Text → Option (Json × Text)
  | 0, _ => none
  | n + 1, s =>
    match skipSpace s with
    | '"' :: t => (quoted? t).map fun p => (string p.1, p.2)
    | '[' :: t =>
      match skipSpace t with
      | ']' :: t => some (array [], t)
      | _ => (items? n t).map fun p => (array p.1, p.2)
    | '{' :: t =>
      match skipSpace t with
      | '}' :: t => some (object [], t)
      | _ => (fieldList? n t).map fun p => (object p.1, p.2)
    | t => word? t

def items? : Nat → Text → Option (List Json × Text)
  | 0, _ => none
  | n + 1, s => do
    let (j, s) ← value? n s
    match skipSpace s with
    | ',' :: s => (items? n s).map fun p => (j :: p.1, p.2)
    | ']' :: s => some ([j], s)
    | _ => none

def fieldList? : Nat → Text → Option (List (Text × Json) × Text)
  | 0, _ => none
  | n + 1, s =>
    match skipSpace s with
    | '"' :: s => do
      let (k, s) ← quoted? s
      match skipSpace s with
      | ':' :: s => do
        let (j, s) ← value? n s
        match skipSpace s with
        | ',' :: s => (fieldList? n s).map fun p => ((k, j) :: p.1, p.2)
        | '}' :: s => some ([(k, j)], s)
        | _ => none
      | _ => none
    | _ => none

end

def read? (s : Text) : Option Json := do
  let (j, rest) ← value? (s.length + 1) s
  if (skipSpace rest).isEmpty then some j else none

end StoryText.Json
