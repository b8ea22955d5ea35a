import StoryText.Toml.DateTime
import StoryText.Toml.Numbers
import StoryText.Toml.Strings

namespace StoryText.Toml

structure Key where
  way : List Text
  name : Text
  deriving DecidableEq, Repr

def depthLimit : Nat := 80

def isBareChar (c : Char) : Bool := c.isAlphanum || c == '_' || c == '-'

def keyPart? : Text → Option (Text × Text)
  | [] => none
  | c :: s =>
    if c = '"' ∨ c = '\'' then line? c s.length s
    else
      let part := (c :: s).takeWhile isBareChar
      if part.isEmpty then none else some (part, (c :: s).dropWhile isBareChar)

def keyParts? : Nat → Text → Option (List Text × Text)
  | 0, _ => none
  | n + 1, s => do
    let (part, s) ← keyPart? (skipWhite s)
    match skipWhite s with
    | '.' :: s => (keyParts? n s).map fun p => (part :: p.1, p.2)
    | s => some ([part], s)

def key? (s : Text) : Option (Key × Text) := do
  let (parts, s) ← keyParts? (s.length + 1) s
  let name ← parts.getLast?
  if parts.length < depthLimit then some (⟨parts.dropLast, name⟩, s) else none

def skipFiller : Nat → Text → Text
  | 0, s => s
  | n + 1, s =>
    match skipComment (skipWhite s) with
    | '\n' :: s => skipFiller n s
    | '\r' :: '\n' :: s => skipFiller n s
    | t => match skipWhite s with
      | '#' :: _ => '#' :: t
      | t => t

def filler (s : Text) : Text := skipFiller (s.length + 1) s

/-- How a table came to be: by its own header, as part of the way of a header, or as part of the way
of a key. -/
inductive Rise
  | header | way | key
  deriving DecidableEq, Repr

inductive Draft
  | value (v : Toml)
  | table (rise : Rise) (fields : List (Text × Draft))
  | tables (items : List (List (Text × Draft)))

namespace Draft

abbrev Fields := List (Text × Draft)

def find? (k : Text) (fs : Fields) : Option Draft := (fs.find? fun f => f.1 == k).map Prod.snd

def put (k : Text) (d : Draft) : Fields → Fields
  | [] => [(k, d)]
  | f :: fs => if f.1 = k then (k, d) :: fs else f :: put k d fs

/-- Changes the table that a way leads to. Tables that are missing on the way rise with it, and the
last table of an array stands for the array. The way of a key does not enter a table that has a
header of its own. -/
def within (rise : Rise) (change : Rise → Fields → Option Fields) :
    List Text → Rise → Fields → Option Fields
  | [], r, fs => change r fs
  | k :: ks, _, fs =>
    match find? k fs with
    | none => do
      let sub ← within rise change ks rise []
      some (put k (table rise sub) fs)
    | some (value _) => none
    | some (table r sub) =>
      if rise = .key ∧ r = .header then none
      else do
        let sub ← within rise change ks r sub
        some (put k (table r sub) fs)
    | some (tables items) => do
      let last ← items.getLast?
      let last ← within rise change ks .header last
      some (put k (tables (items.dropLast ++ [last])) fs)

def assign (k : Key) (v : Draft) (fs : Fields) : Option Fields :=
  within .key (fun r fs =>
    if (r == .key) == k.way.isEmpty || (find? k.name fs).isSome then none
    else some (fs ++ [(k.name, v)])) k.way .header fs

/-- Opens the table of a header. Only a table on the way of another header may be there already; it
moves to the end. -/
def openTable (k : Key) (fs : Fields) : Option Fields :=
  within .way (fun _ fs =>
    match find? k.name fs with
    | none => some (fs ++ [(k.name, table .header [])])
    | some (table .way sub) =>
      some (fs.filter (fun f => f.1 != k.name) ++ [(k.name, table .header sub)])
    | _ => none) k.way .header fs

def openItem (k : Key) (fs : Fields) : Option Fields :=
  within .way (fun _ fs =>
    match find? k.name fs with
    | none => some (fs ++ [(k.name, tables [[]])])
    | some (tables items) => some (put k.name (tables (items ++ [[]])) fs)
    | _ => none) k.way .header fs

mutual

def toToml : Draft → Toml
  | value v => v
  | table _ fs => .table (toFields fs)
  | tables items => .array (toItems items)

def toFields : Fields → List (Text × Toml)
  | [] => []
  | (k, d) :: fs => (k, toToml d) :: toFields fs

def toItems : List Fields → List Toml
  | [] => []
  | fs :: items => .table (toFields fs) :: toItems items

end

end Draft

mutual

def value? : Nat → Nat → Text → Option (Toml × Text)
  | 0, _, _ => none
  | n + 1, depth, s =>
    match s with
    | '[' :: s =>
      if depth + 1 < depthLimit then
        match filler s with
        | ']' :: s => some (array [], s)
        | s => (items? n (depth + 1) s).map fun p => (array p.1, p.2)
      else none
    | '{' :: s =>
      if depth + 1 < depthLimit then
        match skipWhite s with
        | '}' :: s => some (table [], s)
        | s => do
          let (fs, s) ← pairs? n (depth + 1) [] s
          some (table (Draft.toFields fs), s)
      else none
    | 't' :: 'r' :: 'u' :: 'e' :: s => some (boolean true, s)
    | 'f' :: 'a' :: 'l' :: 's' :: 'e' :: s => some (boolean false, s)
    | s =>
      match string? s with
      | some (t, s) => some (string t, s)
      | none => match dateTime? s with
        | some (t, s) => some (dateTime t, s)
        | none => match float? s with
          | some (x, s) => some (float x, s)
          | none => (integer? s).map fun p => (integer p.1, p.2)

def items? : Nat → Nat → Text → Option (List Toml × Text)
  | 0, _, _ => none
  | n + 1, depth, s => do
    let (v, s) ← value? n depth s
    match filler s with
    | ']' :: s => some ([v], s)
    | ',' :: s =>
      match filler s with
      | ']' :: s => some ([v], s)
      | s => (items? n depth s).map fun p => (v :: p.1, p.2)
    | _ => none

def pairs? : Nat → Nat → Draft.Fields → Text → Option (Draft.Fields × Text)
  | 0, _, _, _ => none
  | n + 1, depth, fs, s => do
    let (k, s) ← key? s
    match s with
    | '=' :: s => do
      let (v, s) ← value? n depth (skipWhite s)
      let fs ← Draft.assign k (.value v) fs
      match skipWhite s with
      | '}' :: s => some (fs, s)
      | ',' :: s => pairs? n depth fs s
      | _ => none
    | _ => none

end

end StoryText.Toml
