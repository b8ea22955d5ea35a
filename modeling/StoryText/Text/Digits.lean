import StoryText.Text.Basic

namespace StoryText.Text

def digitValue? (c : Char) : Option Nat :=
  if c.isDigit then some (c.toNat - '0'.toNat)
  else if c.isLower then some (c.toNat - 'a'.toNat + 10)
  else if c.isUpper then some (c.toNat - 'A'.toNat + 10)
  else none

def isDigitOf (base : Nat) (c : Char) : Bool := (digitValue? c).any (· < base)

def ofDigits (base : Nat) (t : Text) : Nat :=
  t.foldl (fun n c => n * base + (digitValue? c).getD 0) 0

def natOf? (base : Nat) (t : Text) : Option Nat :=
  if !t.isEmpty && t.all (isDigitOf base) then some (ofDigits base t) else none

def decimal (n : Nat) : Text := Nat.toDigits 10 n

def decimalInt (n : Int) : Text :=
  if n < 0 then '-' :: decimal n.natAbs else decimal n.natAbs

def hex (n : Nat) : Text := Nat.toDigits 16 n

def padLeft (width : Nat) (c : Char) (t : Text) : Text := List.replicate (width - t.length) c ++ t

def hexCapital (width n : Nat) : Text := padLeft width '0' ((hex n).map Char.toUpper)

end StoryText.Text
