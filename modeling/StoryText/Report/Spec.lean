import StoryText.Text.Basic

namespace StoryText.Report

inductive Stage
  | passage | token
  deriving DecidableEq, Repr

inductive Format
  | simple | json | yaml | log
  deriving DecidableEq, Repr

structure Spec where
  stage : Stage
  format : Format
  deriving DecidableEq, Repr

namespace Stage

def name : Stage → Text
  | passage => "passage".toList
  | token => "token".toList

def ofName? (t : Text) : Option Stage := [passage, token].find? fun s => s.name == t

end Stage

namespace Format

def name : Format → Text
  | simple => "simple".toList
  | json => "json".toList
  | yaml => "yaml".toList
  | log => "log".toList

def ofName? (t : Text) : Option Format := [simple, json, yaml, log].find? fun f => f.name == t

def onlyStage? : Format → Option Stage
  | simple | json => none
  | yaml => some .passage
  | log => some .token

end Format

namespace Spec

inductive Error
  | noSeparator (spec : Text)
  | unknownStage (stage : Text)
  | unknownFormat (format : Text)
  | onlyWith (format : Format) (stage : Stage)
  deriving DecidableEq, Repr

def Error.message : Error → Text
  | noSeparator spec => "Invalid format: ".toList ++ spec
  | unknownStage stage => "Invalid stage: ".toList ++ stage
  | unknownFormat format => "Invalid format type: ".toList ++ format
  | onlyWith format stage =>
    "Invalid format type: Format '".toList ++ format.name ++ "' only works with ".toList ++
      stage.name ++ " stage".toList

def name (s : Spec) : Text := s.stage.name ++ '-' :: s.format.name

def available : List Spec :=
  [⟨.passage, .simple⟩, ⟨.passage, .json⟩, ⟨.passage, .yaml⟩, ⟨.token, .simple⟩, ⟨.token, .log⟩,
    ⟨.token, .json⟩]

def clash? (s : Spec) : Option Stage := s.format.onlyStage?.filter fun stage => stage != s.stage

/-- Reads a spec from its name. The first hyphen separates stage and format, and the stage is looked
at before the format. -/
def ofName (t : Text) : Except Error Spec := do
  let (stage, format) ← (Text.cut? '-' t).elim (.error (.noSeparator t)) .ok
  let stage ← (Stage.ofName? stage).elim (.error (.unknownStage stage)) .ok
  let format ← (Format.ofName? format).elim (.error (.unknownFormat format)) .ok
  let spec : Spec := ⟨stage, format⟩
  match spec.clash? with
  | some only => .error (.onlyWith format only)
  | none => .ok spec

theorem mem_available_iff {s : Spec} : s ∈ available ↔ s.clash? = none := by
  obtain ⟨stage, format⟩ := s
  cases stage <;> cases format <;> decide

end Spec

end StoryText.Report
