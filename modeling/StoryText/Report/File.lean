import StoryText.Files.Tree
import StoryText.Report.Basic

namespace StoryText.Report

open Files (Tree Fault)

inductive FileError
  | notFound (path : Text)
  | unreadable (fault : Fault)
  | failed (e : Error)
  deriving DecidableEq, Repr

def ioMessage (fault : Fault) : Text := "IO error: ".toList ++ fault.message

def FileError.message : FileError → Text
  | notFound path => "File not found: ".toList ++ path
  | unreadable fault => ioMessage fault
  | failed e => e.message

def readSource (t : Tree) (path : Text) : Except FileError Text :=
  if t.contains path then (t.read path).mapError .unreadable else .error (.notFound path)

def ofFile (r : Report) (t : Tree) (path : Text) : Traced FileError Text := do
  let source ← Traced.ofExcept (readSource t path)
  (r.ofSource source).mapError .failed

end StoryText.Report
