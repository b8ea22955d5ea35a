import StoryText.Text.Basic

namespace StoryText

/-- A JSON document. A number is kept as it is written, and an object as its fields in order. -/
inductive Json
  | null
  | bool (b : Bool)
  | number (literal : Text)
  | string (t : Text)
  | array (items : List Json)
  | object (fields : List (Text × Json))

namespace Json

def strings (ts : List Text) : Json := array (ts.map string)

def fields? : Json → Option (List (Text × Json))
  | object fs => some fs
  | _ => none

def string? : Json → Option Text
  | string t => some t
  | _ => none

def bool? : Json → Option Bool
  | bool b => some b
  | _ => none

def array? : Json → Option (List Json)
  | array js => some js
  | _ => none

/-- The value of a field. Of two fields with one name the later counts. -/
def field? (name : Text) (fs : List (Text × Json)) : Option Json :=
  (fs.reverse.find? fun f => f.1 == name).map Prod.snd

def strings? (j : Json) : Option (List Text) := j.array?.bind fun js => js.mapM string?

end Json

end StoryText
