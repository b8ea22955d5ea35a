import StoryText.Number.Binary64
import StoryText.Text.Digits

namespace StoryText

/-- A TOML value. A date or time is kept as its text in normal form. -/
inductive Toml
  | string (t : Text)
  | integer (n : Int)
  | float (x : Binary64)
  | boolean (b : Bool)
  | dateTime (t : Text)
  | array (items : List Toml)
  | table (fields : List (Text × Toml))

namespace Toml

def isWhite (c : Char) : Bool := c == ' ' || c == '\t'

def skipWhite (s : Text) : Text := s.dropWhile isWhite

def newline? : Text → Option Text
  | '\n' :: s => some s
  | '\r' :: '\n' :: s => some s
  | _ => none

def isPlain (c : Char) : Bool :=
  c == '\t' || (decide (0x20 ≤ c.toNat) && decide (c.toNat ≤ 0x7E)) || decide (0x80 ≤ c.toNat)

def skipComment : Text → Text
  | '#' :: s => s.dropWhile isPlain
  | s => s

def lineEnd? (s : Text) : Option Text :=
  match skipComment (skipWhite s) with
  | [] => some []
  | s => newline? s

end Toml

end StoryText
