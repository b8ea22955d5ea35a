import StoryText.CommandLine.Run
import StoryText.Proofs.Files.Writing
import StoryText.Proofs.Settings.Precedence

namespace StoryText

namespace Report

open Files (Tree)

end Report

namespace CommandLine

open Files (Tree)
open Settings (AreTabular Call Layer Layers Path Section Value decode defaults edited fileGiven?
  handGiven? lastOverride? stacked)

variable {t : Tree} {a : Arguments} {path text : Text} {S : Settings}

namespace Arguments

def files (a : Arguments) : List Layer :=
  ⟨"./twee.toml".toList, false⟩ :: a.config.toList.map fun path => ⟨path, true⟩

def given? (a : Arguments) : Section → Option Value
  | .output => a.format.map .ofText
  | .diagnostics => none
  | .tokenizer => if a.macroNames then some (.boolean none true) else none

def calls (a : Arguments) : List Call :=
  .directory ['.'] :: (a.config.toList.map .file ++ [.flags a.format a.macroNames])

end Arguments

end CommandLine

end StoryText
