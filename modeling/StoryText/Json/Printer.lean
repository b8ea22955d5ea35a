import StoryText.Json.Basic
import StoryText.Text.Digits

namespace StoryText.Json

def escape (c : Char) : Text :=
  if c = '"' then ['\\', '"']
  else if c = '\\' then ['\\', '\\']
  else if c = '\x08' then ['\\', 'b']
  else if c = '\x0c' then ['\\', 'f']
  else if c = '\n' then ['\\', 'n']
  else if c = '\r' then ['\\', 'r']
  else if c = '\t' then ['\\', 't']
  else if c.toNat < 0x20 then '\\' :: 'u' :: Text.padLeft 4 '0' (Text.hex c.toNat)
  else [c]

def quote (t : Text) : Text := '"' :: t.flatMap escape ++ ['"']

def newline (depth : Nat) : Text := '\n' :: List.replicate (2 * depth) ' '

mutual

/-- The document over several lines: every item and field on a line of its own, two blanks deeper
than its container. -/
def pretty (depth : Nat) : Json → Text
  | null => "null".toList
  | bool b => (if b then "true" else "false").toList
  | number literal => literal
  | string t => quote t
  | array [] => ['[', ']']
  | array (j :: js) =>
    '[' :: newline (depth + 1) ++ pretty (depth + 1) j ++ prettyItems (depth + 1) js ++
      newline depth ++ [']']
  | object [] => ['{', '}']
  | object ((k, j) :: fs) =>
    '{' :: newline (depth + 1) ++ quote k ++ ':' :: ' ' :: pretty (depth + 1) j ++
      prettyFields (depth + 1) fs ++ newline depth ++ ['}']

def prettyItems (depth : Nat) : List Json → Text
  | [] => []
  | j :: js => ',' :: newline depth ++ pretty depth j ++ prettyItems depth js

def prettyFields (depth : Nat) : List (Text × Json) → Text
  | [] => []
  | (k, j) :: fs =>
    ',' :: newline depth ++ quote k ++ ':' :: ' ' :: pretty depth j ++ prettyFields depth fs

end

end StoryText.Json
