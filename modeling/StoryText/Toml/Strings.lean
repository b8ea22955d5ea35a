import StoryText.Toml.Basic

namespace StoryText.Toml

def codePoint? (digits : Text) : Option Char := do
  let n ← Text.natOf? 16 digits
  if n.isValidChar then some (Char.ofNat n) else none

def escape? : Text → Option (Char × Text)
  | 'b' :: s => some ('\x08', s)
  | 't' :: s => some ('\t', s)
  | 'n' :: s => some ('\n', s)
  | 'f' :: s => some ('\x0c', s)
  | 'r' :: s => some ('\r', s)
  | '"' :: s => some ('"', s)
  | '\\' :: s => some ('\\', s)
  | 'u' :: s =>
    if s.length < 4 then none else (codePoint? (s.take 4)).map fun c => (c, s.drop 4)
  | 'U' :: s =>
    if s.length < 8 then none else (codePoint? (s.take 8)).map fun c => (c, s.drop 8)
  | _ => none

def cons? (c : Char) (r : Option (Text × Text)) : Option (Text × Text) :=
  r.map fun p => (c :: p.1, p.2)

def line? (quote : Char) : Nat → Text → Option (Text × Text)
  | _, [] => none
  | 0, _ => none
  | n + 1, c :: s =>
    if c = quote then some ([], s)
    else if c = '\\' ∧ quote = '"' then do
      let (d, s) ← escape? s
      cons? d (line? quote n s)
    else if isPlain c then cons? c (line? quote n s)
    else none

/-- The closing quotes of a string over several lines, after the first of them. Up to two more
quotes directly before the closing three belong to the string. -/
def closing? (quote : Char) : Text → Option (Text × Text)
  | a :: b :: s =>
    if a = quote ∧ b = quote then
      match s with
      | c :: d :: s => if c = quote ∧ d = quote then some ([quote, quote], s)
        else if c = quote then some ([quote], d :: s) else some ([], c :: d :: s)
      | [c] => if c = quote then some ([quote], []) else some ([], [c])
      | [] => some ([], [])
    else none
  | _ => none

/-- What follows a backslash at the end of a line: white space and line breaks up to the next other
character are left out. A carriage return alone is no line break. -/
def continued? : Nat → Text → Option Text
  | 0, _ => none
  | n + 1, s => do
    let s ← newline? (skipWhite s)
    match continued? n s with
    | some s => some s
    | none => some (skipWhite s)

def lines? (quote : Char) : Nat → Text → Option (Text × Text)
  | _, [] => none
  | 0, _ => none
  | n + 1, c :: s =>
    if c = quote then
      match closing? quote s with
      | some p => some p
      | none => cons? quote (lines? quote n s)
    else if c = '\\' ∧ quote = '"' then
      match continued? (s.length + 1) s with
      | some s => lines? quote n s
      | none => do
        let (d, s) ← escape? s
        cons? d (lines? quote n s)
    else
      match newline? (c :: s) with
      | some s => cons? '\n' (lines? quote n s)
      | none => if isPlain c then cons? c (lines? quote n s) else none

def string? : Text → Option (Text × Text)
  | [] => none
  | quote :: s =>
    if quote = '"' ∨ quote = '\'' then
      match s with
      | a :: b :: s =>
        if a = quote ∧ b = quote then
          let s := (newline? s).getD s
          lines? quote s.length s
        else line? quote (s.length + 2) (a :: b :: s)
      | s => line? quote s.length s
    else none

end StoryText.Toml
