import StoryText.Pattern.Mode
import StoryText.Text.Digits

namespace StoryText.Pattern

inductive Item
  | char (c : Char)
  | set
  | place
  deriving DecidableEq, Repr

def hexDigits? (m : Mode) : Nat → Text → Option (Text × Text)
  | 0, s => some ([], s)
  | n + 1, s =>
    match m.skip s with
    | c :: s =>
      if Text.isDigitOf 16 c then (hexDigits? m n s).map fun p => (c :: p.1, p.2) else none
    | [] => none

def numbered? (m : Mode) (width : Nat) (s : Text) : Option (Char × Text) := do
  let (ds, s) ← hexDigits? m width s
  let n := Text.ofDigits 16 ds
  if n.isValidChar then some (Char.ofNat n, s) else none

def category? (m : Mode) (s : Text) : Option (Item × Text) :=
  match m.skip s with
  | c :: s =>
    if m.unicode ∧ "clmnpsz".toList.contains c.toLower then some (.set, s) else none
  | [] => none

def control? (c : Char) : Option Char :=
  [('a', '\x07'), ('f', '\x0c'), ('t', '\t'), ('n', '\n'), ('r', '\r'), ('v', '\x0b')].lookup c

/-- An escape after its backslash, and what follows it. Where bytes are matched, a set must not hold
a byte that is no character, and nor may `\xHH` be one. The edges of words are known for bytes
only. -/
def escape? (m : Mode) : Text → Option (Item × Text)
  | [] => none
  | c :: s =>
    if c = 'x' then do
      let (d, s) ← numbered? m 2 s
      if m.unicode ∨ d.toNat < 0x80 then some (.char d, s) else none
    else if c = 'u' then (numbered? m 4 s).map fun p => (.char p.1, p.2)
    else if c = 'U' then (numbered? m 8 s).map fun p => (.char p.1, p.2)
    else if c = 'p' ∨ c = 'P' then category? m s
    else if ['d', 's', 'w'].contains c then some (.set, s)
    else if ['D', 'S', 'W'].contains c then if m.unicode then some (.set, s) else none
    else if ['A', 'z'].contains c then some (.place, s)
    else if ['b', 'B', '<', '>'].contains c then if m.unicode then none else some (.place, s)
    else
      match control? c with
      | some d => some (.char d, s)
      | none => if c.toNat < 0x80 ∧ !c.isAlphanum then some (.char c, s) else none

end StoryText.Pattern
