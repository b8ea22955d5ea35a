import StoryText.Text.Basic

namespace StoryText

/-- What a passage body is made of. Structural tokens keep their punctuation, the others the text
they were read from; a string keeps its value without the quotes. -/
inductive Token
  | paren (c : Char)
  | bracket (t : Text)
  | brace (c : Char)
  | colon
  | semicolon
  | comma
  | macroName (t : Text)
  | varName (t : Text)
  | string (value : Text) (unterminated : Bool)
  | number (t : Text)
  | operator (t : Text)
  | emoji (c : Char)
  | text (t : Text)
  deriving DecidableEq, Repr

namespace Token

inductive Kind
  | paren | bracket | brace | colon | semicolon | comma | macroName | varName | string | number
  | operator | emoji | text
  deriving DecidableEq, Repr

def kind : Token → Kind
  | paren _ => .paren
  | bracket _ => .bracket
  | brace _ => .brace
  | colon => .colon
  | semicolon => .semicolon
  | comma => .comma
  | macroName _ => .macroName
  | varName _ => .varName
  | string _ _ => .string
  | number _ => .number
  | operator _ => .operator
  | emoji _ => .emoji
  | text _ => .text

def value : Token → Text
  | paren c | brace c | emoji c => [c]
  | colon => [':']
  | semicolon => [';']
  | comma => [',']
  | bracket t | macroName t | varName t | number t | operator t | text t => t
  | string t _ => t

def isUnterminated : Token → Bool
  | string _ unterminated => unterminated
  | _ => false

namespace Kind

def name : Kind → Text
  | paren => "paren".toList
  | bracket => "bracket".toList
  | brace => "brace".toList
  | colon => "colon".toList
  | semicolon => "semicolon".toList
  | comma => "comma".toList
  | macroName => "macroName".toList
  | varName => "variable".toList
  | string => "string".toList
  | number => "number".toList
  | operator => "operator".toList
  | emoji => "emoji".toList
  | text => "text".toList

/-- The label in logs: the name in capitals. The label of a comma has one `M`. -/
def label : Kind → Text
  | comma => "COMA".toList
  | k => k.name.map Char.toUpper

end Kind

def tagged (t : Token) : Text :=
  if t.isUnterminated then "<string:".toList ++ t.value ++ ":unterminated>".toList
  else '<' :: t.kind.name ++ ':' :: t.value ++ ['>']

end Token

end StoryText
