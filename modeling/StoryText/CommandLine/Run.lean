import StoryText.CommandLine.Arguments
import StoryText.CommandLine.LogFilter
import StoryText.Report.File
import StoryText.Settings.Layers

namespace StoryText.CommandLine

open Files (Tree Fault)

inductive Failure
  | settings (e : Settings.Error)
  | spec (e : Report.Spec.Error)
  | file (e : Report.FileError)
  | output (fault : Fault)
  deriving DecidableEq, Repr

def Failure.message : Failure → Text
  | settings e => "Configuration error: ".toList ++ e.message
  | spec e => e.message
  | file e => e.message
  | output fault => Report.ioMessage fault

structure Outcome where
  exit : Nat
  stdout : Text := []
  stderr : Text := []
  files : Tree
  deriving DecidableEq, Repr

def versionText : Text := "twee 0.1.0\n".toList

def helpText : Text :=
  ("Split twee files into passages and tokenize passage bodies\n\n" ++
    "Usage: twee [OPTIONS] [path]\n\n" ++
    "Arguments:\n" ++
    "  [path]  Path to the twee file\n\n" ++
    "Options:\n" ++
    "  -f, --format <format>  Output format (e.g., 'token-log', 'passage-json'); overrides the " ++
      "config\n" ++
    "  -c, --config <config>  Configuration file layered over the defaults and ./twee.toml\n" ++
    "  -o, --output <output>  Write the output to this file instead of stdout\n" ++
    "      --macro-names      Emit macroName tokens for words directly followed by a colon\n" ++
    "      --list-formats     List available output formats\n" ++
    "  -h, --help             Print help\n" ++
    "  -V, --version          Print version\n").toList

def formatList : Text :=
  "Available output formats:\n\n".toList ++
    Report.Spec.available.flatMap fun s => ' ' :: ' ' :: s.name ++ ['\n']

def layers (a : Arguments) : Settings.Layers :=
  let ls := Settings.Layers.withDirectory {} ['.']
  let ls := a.config.elim ls ls.withFile
  ls.withFlags a.format a.macroNames

def requested (t : Tree) (a : Arguments) : Except Failure Report := do
  let s ← ((layers a).build t).mapError .settings
  s.report.mapError .spec

/-- The report on a path, as text. Settings come before the file. -/
def produce (t : Tree) (a : Arguments) (path : Text) : Report.Traced Failure Text := do
  let r ← Report.Traced.ofExcept (requested t a)
  (r.ofFile t path).mapError .file

def deliver (t : Tree) (a : Arguments) (text : Text) : Except Failure Outcome :=
  match a.output with
  | none => .ok { exit := 0, stdout := text, files := t }
  | some path => do
    let t ← (t.write path text).mapError .output
    .ok { exit := 0, files := t }

/-- Reports on a path. A failure leaves all files as they were and writes nothing but its message
and the log. -/
def report (t : Tree) (filter : LogFilter) (a : Arguments) (path : Text) : Outcome :=
  let x := produce t a path
  let log := filter.log x.events
  match x.result.bind (deliver t a) with
  | .ok o => { o with stderr := log }
  | .error e =>
    { exit := 1, stderr := log ++ "Error: ".toList ++ e.message ++ ['\n'], files := t }

def mentioned (ts : List Text) : List Text :=
  match Arguments.read ts with
  | .error _ => []
  | .ok a =>
    let settings := (layers a).files.map Settings.Layer.path
    settings ++ settings.filterMap Settings.Layer.suffixed? ++ a.path.toList ++ a.output.toList

def run (t : Tree) (logSetting : Option Text) (ts : List Text) : Outcome :=
  match Arguments.read ts with
  | .error .usage => { exit := 2, stderr := helpText, files := t }
  | .error .help => { exit := 0, stdout := helpText, files := t }
  | .error .version => { exit := 0, stdout := versionText, files := t }
  | .ok a =>
    if a.listFormats then { exit := 0, stdout := formatList, files := t }
    else report t (LogFilter.ofSetting logSetting) a (a.path.getD [])

end StoryText.CommandLine
