import StoryText.Json.Basic
import StoryText.Token.Basic

namespace StoryText.Token

def Kind.tag (k : Kind) : Text :=
  match k.name with
  | [] => []
  | c :: t => c.toUpper :: t

/-- A token as JSON. A kind without a payload is its tag; any other is an object with the tag as its
only key. -/
def toJson (t : Token) : Json :=
  match t with
  | colon | semicolon | comma => .string t.kind.tag
  | string value unterminated =>
    .object [(t.kind.tag, .object [("value".toList, .string value),
      ("unterminated".toList, .bool unterminated)])]
  | _ => .object [(t.kind.tag, .string t.value)]

def ofTag? (tag : Text) : Option Token :=
  [colon, semicolon, comma].find? fun t => t.kind.tag == tag

def char? : Json → Option Char
  | .string [c] => some c
  | _ => none

def ofStringFields? (fs : List (Text × Json)) : Option Token := do
  let value ← (← Json.field? "value".toList fs).string?
  let unterminated ← (← Json.field? "unterminated".toList fs).bool?
  some (string value unterminated)

def ofTagged? (tag : Text) (payload : Json) : Option Token :=
  if let some t := ofTag? tag then
    match payload with
    | .null => some t
    | _ => none
  else if tag = Kind.paren.tag then (char? payload).map paren
  else if tag = Kind.bracket.tag then payload.string?.map bracket
  else if tag = Kind.brace.tag then (char? payload).map brace
  else if tag = Kind.macroName.tag then payload.string?.map macroName
  else if tag = Kind.varName.tag then payload.string?.map varName
  else if tag = Kind.string.tag then payload.fields?.bind ofStringFields?
  else if tag = Kind.number.tag then payload.string?.map number
  else if tag = Kind.operator.tag then payload.string?.map operator
  else if tag = Kind.emoji.tag then (char? payload).map emoji
  else if tag = Kind.text.tag then payload.string?.map text
  else none

def ofJson? : Json → Option Token
  | .string tag => ofTag? tag
  | .object [(tag, payload)] => ofTagged? tag payload
  | _ => none

end StoryText.Token
