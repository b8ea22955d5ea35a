import StoryText.Text.Basic

namespace StoryText.Files

inductive Content
  | text (t : Text)
  | binary
  deriving DecidableEq, Repr

inductive Entry
  | file (content : Content)
  | directory
  deriving DecidableEq, Repr

inductive Fault
  | notFound
  | notDirectory
  | isDirectory
  | notText
  deriving DecidableEq, Repr

def Fault.message : Fault → Text
  | notFound => "No such file or directory (os error 2)".toList
  | notDirectory => "Not a directory (os error 20)".toList
  | isDirectory => "Is a directory (os error 21)".toList
  | notText => "stream did not contain valid UTF-8".toList

/-- A place in the tree: the names on the way to it. It starts at the working directory, or at the
root if the first name is a slash. Only its first names may be `..`. -/
abbrev Place := List Text

/-- The files that are there, by place. The working directory and all above it always are. -/
structure Tree where
  entries : List (Place × Entry)
  deriving DecidableEq, Repr

namespace Place

def root : Place := [['/']]

def dots : Text := ['.', '.']

def isAbove (p : Place) : Bool := p == root || p.all (· == dots)

def step (p : Place) (name : Text) : Place :=
  if name = [] ∨ name = ['.'] then p
  else if name = dots then
    if p = root then root else if p.isAbove then p ++ [dots] else p.dropLast
  else p ++ [name]

def along (p : Place) : List Text → List Place
  | [] => [p]
  | name :: names => p :: (p.step name).along names

def ofPath : Text → List Place
  | [] => []
  | '/' :: path => root.along (Text.pieces '/' path)
  | path => along [] (Text.pieces '/' path)

def path : Place → Text
  | ['/'] :: names => '/' :: Text.join ['/'] names
  | names => Text.join ['/'] names

end Place

namespace Tree

def at? (t : Tree) (p : Place) : Option Entry :=
  if p.isAbove then some .directory else (t.entries.find? fun e => e.1 == p).map Prod.snd

def walk (t : Tree) : Place → List Text → Except Fault Place
  | p, [] => .ok p
  | p, name :: names =>
    match t.at? p with
    | none => .error .notFound
    | some (.file _) => .error .notDirectory
    | some .directory => t.walk (p.step name) names

def locate (t : Tree) (path : Text) : Except Fault Place :=
  match path with
  | [] => .error .notFound
  | '/' :: path => t.walk Place.root (Text.pieces '/' path)
  | path => t.walk [] (Text.pieces '/' path)

def entry (t : Tree) (path : Text) : Except Fault Entry := do
  let p ← t.locate path
  (t.at? p).elim (.error .notFound) .ok

def contains (t : Tree) (path : Text) : Bool := (t.entry path).isOk

def isFile (t : Tree) (path : Text) : Bool :=
  match t.entry path with
  | .ok (.file _) => true
  | _ => false

def read (t : Tree) (path : Text) : Except Fault Text := do
  match ← t.entry path with
  | .file (.text s) => .ok s
  | .file .binary => .error .notText
  | .directory => .error .isDirectory

def put (t : Tree) (p : Place) (e : Entry) : Tree :=
  ⟨t.entries.filter (fun x => x.1 != p) ++ [(p, e)]⟩

/-- Writes a file, which is created if it is missing. A path that ends in a slash names a
directory. -/
def write (t : Tree) (path : Text) (s : Text) : Except Fault Tree := do
  let bare := (path.reverse.dropWhile (· == '/')).reverse
  let p ← if bare.isEmpty then t.locate path else t.locate bare
  if path.getLast? = some '/' then .error .isDirectory
  else
    match t.at? p with
    | some .directory => .error .isDirectory
    | _ => .ok (t.put p (.file (.text s)))

def add (t : Tree) (names : List Text) (e : Entry) : Tree :=
  let ups := (List.range names.length).drop 1 |>.map names.take
  let t := ups.foldl (fun t p => if (t.at? p).isSome then t else t.put p .directory) t
  t.put names e

def empty : Tree := ⟨[]⟩

end Tree

end StoryText.Files
