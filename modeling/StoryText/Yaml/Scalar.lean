import StoryText.Yaml.Plain

namespace StoryText.Yaml

def isSpecial (c : Char) : Bool :=
  let n := c.toNat
  !(n == 0x0A || (decide (0x20 ≤ n) && decide (n ≤ 0x7E)) ||
    (decide (0xA0 ≤ n) && decide (n ≤ 0xD7FF)) ||
    (decide (0xE000 ≤ n) && decide (n ≤ 0xFFFD) && n != 0xFEFF) || decide (0x10000 ≤ n))

def isBreak (c : Char) : Bool :=
  c == '\n' || c == '\r' || c == '\u0085' || c == '\u2028' || c == '\u2029'

def isSpace (c : Char) : Bool := c == ' '

def isBlankOrBreak (c : Char) : Bool := c == ' ' || c == '\t' || isBreak c

def hasPair (p q : Char → Bool) : Text → Bool
  | c :: d :: t => p c && q d || hasPair p q (d :: t)
  | _ => false

def atGap (t : Text) : Bool := t.head?.all isBlankOrBreak

def startsWithIndicator : Text → Bool
  | [] => false
  | c :: t =>
    "#,[]\x7b\x7d&*!|>'\"%@`".toList.contains c || ("?:-".toList.contains c && atGap t) ||
      (Text.after? ['-', '-', '-'] (c :: t)).isSome || (Text.after? ['.', '.', '.'] (c :: t)).isSome

def hasKeyMark : Text → Bool
  | [] => false
  | c :: t => c == ':' && atGap t || hasKeyMark t

inductive Style
  | plain | singleQuoted | doubleQuoted | literal
  deriving DecidableEq, Repr

namespace Style

def allowsPlain (t : Text) : Bool :=
  !(t.head?.any isSpace || t.getLast?.any isSpace || t.any isBreak || t.any isSpecial ||
    startsWithIndicator t || hasKeyMark t || hasPair isBlankOrBreak (· == '#') t)

def allowsSingleQuoted (t : Text) : Bool :=
  !(t.any isSpecial || hasPair isBreak isSpace t || hasPair isSpace isBreak t)

def allowsLiteral (t : Text) : Bool :=
  !(t.any isSpecial || hasPair isSpace isBreak t || t.getLast?.any isSpace)

/-- The style of a text: literal if it has lines, else plain if it can be and reads as text, else
single-quoted if it can be, and double-quoted otherwise. -/
def of (t : Text) : Style :=
  if t.contains '\n' then
    if allowsLiteral t then literal else doubleQuoted
  else if !readsAsOther t && allowsPlain t then plain
  else if allowsSingleQuoted t then singleQuoted
  else doubleQuoted

end Style

/-- Copies a text; the first character after breaks is indented by four. The flag says that breaks
were just copied. -/
def indented : Bool → Text → Text
  | _, [] => []
  | afterBreak, c :: t =>
    if isBreak c then c :: indented true t
    else if afterBreak then ' ' :: ' ' :: ' ' :: ' ' :: c :: indented false t
    else c :: indented false t

def doubleApostrophe (c : Char) : Text := if c = '\'' then ['\'', '\''] else [c]

/-- A closing quote counts as a character of the text: after a break it is indented too. -/
def singleQuoted (t : Text) : Text :=
  '\'' :: (indented false t).flatMap doubleApostrophe ++
    (if t.getLast?.any isBreak then "    '".toList else ['\''])

def escape (c : Char) : Text :=
  if c = '\x00' then ['\\', '0']
  else if c = '\x07' then ['\\', 'a']
  else if c = '\x08' then ['\\', 'b']
  else if c = '\t' then ['\\', 't']
  else if c = '\n' then ['\\', 'n']
  else if c = '\x0b' then ['\\', 'v']
  else if c = '\x0c' then ['\\', 'f']
  else if c = '\r' then ['\\', 'r']
  else if c = '\x1b' then ['\\', 'e']
  else if c = '"' then ['\\', '"']
  else if c = '\\' then ['\\', '\\']
  else if c = '\u0085' then ['\\', 'N']
  else if c = '\u2028' then ['\\', 'L']
  else if c = '\u2029' then ['\\', 'P']
  else if !isSpecial c then [c]
  else if c.toNat ≤ 0xFF then '\\' :: 'x' :: Text.hexCapital 2 c.toNat
  else if c.toNat ≤ 0xFFFF then '\\' :: 'u' :: Text.hexCapital 4 c.toNat
  else '\\' :: 'U' :: Text.hexCapital 8 c.toNat

def doubleQuoted (t : Text) : Text := '"' :: t.flatMap escape ++ ['"']

def chomping (t : Text) : Text :=
  match t.reverse with
  | [] => ['-']
  | c :: rest =>
    if !isBreak c then ['-'] else if rest.head?.all isBreak then ['+'] else []

def literalHead (t : Text) : Text :=
  '|' :: (if t.head?.any fun c => isSpace c || isBreak c then ['2'] else []) ++ chomping t

def literal (t : Text) : Text :=
  literalHead t ++ '\n' :: indented true t ++ (if t.getLast?.any isBreak then [] else ['\n'])

def scalarLine (t : Text) : Text :=
  match Style.of t with
  | .plain => t ++ ['\n']
  | .singleQuoted => singleQuoted t ++ ['\n']
  | .doubleQuoted => doubleQuoted t ++ ['\n']
  | .literal => literal t

end StoryText.Yaml
