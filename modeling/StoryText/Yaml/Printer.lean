import StoryText.Passage.Basic
import StoryText.Yaml.Scalar

namespace StoryText.Yaml

def scalarField (name : Text) (t : Text) : Text := name ++ ':' :: ' ' :: scalarLine t

def listField (name : Text) (ts : List Text) : Text :=
  if ts.isEmpty then name ++ ": []\n".toList
  else name ++ ':' :: '\n' :: ts.flatMap fun t => ' ' :: ' ' :: '-' :: ' ' :: scalarLine t

def passage (p : Passage) : Text :=
  scalarField "- title".toList p.title ++ listField "  tags".toList p.tags ++
    listField "  config".toList p.config ++ scalarField "  content".toList p.content ++
    scalarField "  raw".toList p.raw

def passages (ps : List Passage) : Text := if ps.isEmpty then "[]\n".toList else ps.flatMap passage

end StoryText.Yaml
