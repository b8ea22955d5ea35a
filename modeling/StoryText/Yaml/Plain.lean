import StoryText.Number.Decimal

namespace StoryText.Yaml

open Binary64 (unsign)
open Text (natOf?)

def words : List Text :=
  ["", "~", "null", "Null", "NULL", "true", "True", "TRUE", "false", "False", "FALSE"].map
    String.toList

def specialFloats : List Text :=
  [".inf", ".Inf", ".INF", "+.inf", "+.Inf", "+.INF", "-.inf", "-.Inf", "-.INF", ".nan", ".NaN",
    ".NAN"].map String.toList

def hasIdleZero (t : Text) : Bool :=
  match (unsign t).2 with
  | '0' :: d :: ds => (d :: ds).all Char.isDigit
  | _ => false

def magnitude? : Text → Option Nat
  | '0' :: 'x' :: t => natOf? 16 t
  | '0' :: 'o' :: t => natOf? 8 t
  | '0' :: 'b' :: t => natOf? 2 t
  | t => natOf? 10 t

def readsAsInteger (t : Text) : Bool :=
  match unsign t with
  | (negative, t) =>
    (magnitude? t).any fun n => if negative then decide (n ≤ Nat.pow 2 127)
      else decide (n < Nat.pow 2 128)

def readsAsFloat (t : Text) : Bool :=
  specialFloats.contains t || (Binary64.ofText? t).any Binary64.isFinite

/-- Whether a text would be misread if it stood plain: as null, a boolean or a number, or as digits
with an idle zero in front. -/
def readsAsOther (t : Text) : Bool :=
  words.contains t || readsAsInteger t || readsAsFloat t || hasIdleZero t

end StoryText.Yaml
