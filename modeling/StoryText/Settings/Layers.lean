import StoryText.Settings.Decode
import StoryText.Toml.Document

namespace StoryText.Settings

open Files (Tree)

/-- A file of settings. One that is not required may be missing or unreadable. -/
structure Layer where
  path : Text
  required : Bool
  deriving DecidableEq, Repr

/-- Where settings come from, on top of the defaults: files, of which the later win, and values set
one by one, which win over all files. -/
structure Layers where
  files : List Layer := []
  overrides : List (Path × Value) := []

def userFile : Text := "twee.toml".toList

def defaults : Value.Fields :=
  [(Section.output.key, .table none [(Section.output.field, .ofText "token-log".toList)]),
    (Section.diagnostics.key, .table none [(Section.diagnostics.field, .ofText "warn".toList)]),
    (Section.tokenizer.key, .table none [(Section.tokenizer.field, .boolean none false)])]

namespace Layer

def names (path : Text) : List Text :=
  (Text.pieces '/' path).filter fun name => !(name.isEmpty || name == ['.'])

def tidy (path : Text) : Text :=
  let joined := Text.join ['/'] (names path)
  if path.head? = some '/' then '/' :: joined else joined

def suffixed? (path : Text) : Option Text :=
  match (names path).getLast? with
  | none => none
  | some name => if name = ['.', '.'] then none else some (tidy path ++ ".toml".toList)

/-- The path of the file that is read: the path itself, or else the path with the ending. -/
def find? (t : Tree) (path : Text) : Option Text :=
  if t.isFile path then some path else (suffixed? path).filter t.isFile

def load (t : Tree) (l : Layer) : Except Error Value.Fields :=
  match find? t l.path with
  | none => if l.required then .error (.notFound l.path) else .ok []
  | some path =>
    match t.read path with
    | .error fault => if l.required then .error (.unreadable fault) else .ok []
    | .ok source =>
      match Toml.read? source with
      | none => .error .malformed
      | some (.table fs) => .ok (Value.ofFields (tidy path) fs)
      | some v => .error (.notTable (Value.ofToml (tidy path) v).describe (tidy path))

end Layer

/-- Adds the fields of a file. The name of a field may be a path. -/
def addFields (new fs : Value.Fields) : Value.Fields :=
  new.foldl (fun fs f =>
    match Path.ofText f.1 with
    | .ok p => p.set f.2 fs
    | .error _ => Value.setField f.1 f.2 fs) fs

namespace Layers

def withDirectory (ls : Layers) (dir : Text) : Layers :=
  let path := if dir.isEmpty || dir.getLast? == some '/' then dir ++ userFile
    else dir ++ '/' :: userFile
  { ls with files := ls.files ++ [⟨path, false⟩] }

def withFile (ls : Layers) (path : Text) : Layers :=
  { ls with files := ls.files ++ [⟨path, true⟩] }

def putOverride (p : Path) (v : Value) : List (Path × Value) → List (Path × Value)
  | [] => [(p, v)]
  | o :: os => if o.1 = p then (p, v) :: os else o :: putOverride p v os

def withOverride (ls : Layers) (key : Text) (v : Value) : Except Error Layers :=
  match Path.ofText key with
  | .ok p => .ok { ls with overrides := putOverride p v ls.overrides }
  | .error e => .error (.badPath e)

def formatPath : Path := ⟨Section.output.key, [.child Section.output.field]⟩

def macroNamesPath : Path := ⟨Section.tokenizer.key, [.child Section.tokenizer.field]⟩

def withFlags (ls : Layers) (format : Option Text) (macroNames : Bool) : Layers :=
  let os := match format with
    | some t => putOverride formatPath (.ofText t) ls.overrides
    | none => ls.overrides
  { ls with overrides :=
      if macroNames then putOverride macroNamesPath (.boolean none true) os else os }

def loadFiles (t : Tree) : List Layer → Value.Fields → Except Error Value.Fields
  | [], fs => .ok fs
  | l :: ls, fs => do
    let new ← l.load t
    loadFiles t ls (addFields new fs)

def fields (t : Tree) (ls : Layers) : Except Error Value.Fields := do
  let fs ← loadFiles t ls.files defaults
  .ok (ls.overrides.foldl (fun fs o => o.1.set o.2 fs) fs)

def build (t : Tree) (ls : Layers) : Except Error Settings := do
  decode (← ls.fields t)

end Layers

end StoryText.Settings
