import StoryText.Text.Basic

namespace StoryText.CommandLine

structure Arguments where
  path : Option Text := none
  format : Option Text := none
  config : Option Text := none
  output : Option Text := none
  macroNames : Bool := false
  listFormats : Bool := false
  deriving DecidableEq, Repr

inductive Stop
  | usage | help | version
  deriving DecidableEq, Repr

inductive Valued
  | format | config | output
  deriving DecidableEq, Repr

inductive Switch
  | macroNames | listFormats | help | version
  deriving DecidableEq, Repr

inductive Opt
  | valued (o : Valued)
  | switch (s : Switch)
  deriving DecidableEq, Repr

namespace Opt

def longNames : List (Text × Opt) :=
  [("format", valued .format), ("config", valued .config), ("output", valued .output),
    ("macro-names", switch .macroNames), ("list-formats", switch .listFormats),
    ("help", switch .help), ("version", switch .version)].map fun p => (p.1.toList, p.2)

def shortNames : List (Char × Opt) :=
  [('f', valued .format), ('c', valued .config), ('o', valued .output), ('h', switch .help),
    ('V', switch .version)]

def ofLong? (name : Text) : Option Opt := (longNames.find? fun p => p.1 == name).map Prod.snd

def ofShort? (c : Char) : Option Opt := (shortNames.find? fun p => p.1 == c).map Prod.snd

end Opt

namespace Arguments

def setValue (a : Arguments) (o : Valued) (v : Text) : Except Stop Arguments :=
  match o with
  | .format => if a.format.isSome then .error .usage else .ok { a with format := some v }
  | .config => if a.config.isSome then .error .usage else .ok { a with config := some v }
  | .output => if a.output.isSome then .error .usage else .ok { a with output := some v }

def turnOn (a : Arguments) (s : Switch) : Except Stop Arguments :=
  match s with
  | .macroNames => if a.macroNames then .error .usage else .ok { a with macroNames := true }
  | .listFormats => if a.listFormats then .error .usage else .ok { a with listFormats := true }
  | .help => .error .help
  | .version => .error .version

def setPath (a : Arguments) (v : Text) : Except Stop Arguments :=
  if a.path.isSome then .error .usage else .ok { a with path := some v }

/-- A value that is an argument of its own does not start with a hyphen, unless it is one. -/
def isValue : Text → Bool
  | '-' :: _ :: _ => false
  | _ => true

inductive Form
  | path
  | rest
  | long (name : Text) (value : Option Text)
  | short (cs : Text)

def formOf : Text → Form
  | ['-', '-'] => .rest
  | '-' :: '-' :: t =>
    match Text.cut? '=' t with
    | some (name, v) => .long name (some v)
    | none => .long t none
  | '-' :: c :: cs => .short (c :: cs)
  | _ => .path

def attached? : Text → Option Text
  | [] => none
  | '=' :: v => some v
  | v => some v

/-- A group of short options. The first that takes a value ends it; it is given back if its value is
not in the group. -/
def readShort (a : Arguments) : Text → Except Stop (Arguments × Option Valued)
  | [] => .ok (a, none)
  | c :: cs =>
    match Opt.ofShort? c with
    | none => .error .usage
    | some (.switch s) => do readShort (← a.turnOn s) cs
    | some (.valued o) =>
      match attached? cs with
      | some v => do .ok (← a.setValue o v, none)
      | none => .ok (a, some o)

def readLong (a : Arguments) (name : Text) (value : Option Text) :
    Except Stop (Arguments × Option Valued) :=
  match Opt.ofLong? name, value with
  | some (.switch s), none => do .ok (← a.turnOn s, none)
  | some (.valued o), some v => do .ok (← a.setValue o v, none)
  | some (.valued o), none => .ok (a, some o)
  | _, _ => .error .usage

/-- Reads arguments from left to right. The flag says that only paths are left, and the option waits
for its value. -/
def readAll (a : Arguments) (onlyPaths : Bool) (waiting : Option Valued) :
    List Text → Except Stop Arguments
  | [] => if waiting.isSome then .error .usage else .ok a
  | t :: ts =>
    match waiting with
    | some o =>
      if isValue t then do readAll (← a.setValue o t) onlyPaths none ts else .error .usage
    | none =>
      if onlyPaths then do readAll (← a.setPath t) true none ts
      else
        match formOf t with
        | .path => do readAll (← a.setPath t) false none ts
        | .rest => readAll a true none ts
        | .short cs => do
          let (a, waiting) ← a.readShort cs
          readAll a false waiting ts
        | .long name value => do
          let (a, waiting) ← a.readLong name value
          readAll a false waiting ts

def read (ts : List Text) : Except Stop Arguments := do
  let a ← readAll {} false none ts
  if a.path.isNone && !a.listFormats then .error .usage else .ok a

end Arguments

end StoryText.CommandLine
