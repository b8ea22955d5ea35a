import StoryText.Report.Event
import StoryText.Report.Policy
import StoryText.Report.Render
import StoryText.Report.Spec
import StoryText.Text.Quoted
import StoryText.Token.Cursor

namespace StoryText

structure Report where
  spec : Report.Spec
  policy : Report.Policy := .warn
  macroNames : Bool := false
  deriving DecidableEq, Repr

namespace Report

inductive Error
  | unsupported (format : Format) (stage : Stage)
  | unterminatedString (title value : Text)
  deriving DecidableEq, Repr

def Error.message : Error → Text
  | unsupported format stage =>
    "Invalid format type: ".toList ++ format.name ++ " format only works with ".toList ++
      stage.name ++ " stage".toList
  | unterminatedString title value =>
    "Unterminated string in passage '".toList ++ title ++ "': ".toList ++ Text.quoted value

def settle (policy : Policy) (title : Text) (values : List Text) : Traced Error Unit :=
  match policy, values with
  | .ignore, _ => .pure ()
  | .warn, _ => ⟨values.map (.unterminated title), .ok ()⟩
  | .error, [] => .pure ()
  | .error, value :: _ => ⟨[], .error (.unterminatedString title value)⟩

def tokensOf (r : Report) (p : Passage) : Traced Error (List Token) := do
  let tokens := Token.tokenize r.macroNames p.content
  Traced.emit (.tokenized p.title tokens.length)
  settle r.policy p.title ((tokens.filter Token.isUnterminated).map Token.value)
  return tokens

def scanAll (r : Report) : List Passage → Traced Error (List Scanned)
  | [] => .pure []
  | p :: ps => do
    let tokens ← r.tokensOf p
    let rest ← r.scanAll ps
    return (p, tokens) :: rest

def writePassages (format : Format) (ps : List Passage) : Except Error Text :=
  match format with
  | .simple => .ok (passagesSimple ps)
  | .json => .ok (passagesJson ps)
  | .yaml => .ok (Yaml.passages ps)
  | .log => .error (.unsupported .log .token)

def writeTokens (format : Format) (xs : List Scanned) : Except Error Text :=
  match format with
  | .simple => .ok (tokensSimple xs)
  | .json => .ok (tokensJson xs)
  | .log => .ok (tokensLog xs)
  | .yaml => .error (.unsupported .yaml .passage)

/-- The report on a source. The format is looked at last. -/
def ofSource (r : Report) (source : Text) : Traced Error Text := do
  let ps := Passage.split source
  Traced.emit (.split ps.length)
  match r.spec.stage with
  | .passage => .ofExcept (writePassages r.spec.format ps)
  | .token => do
    let xs ← r.scanAll ps
    .ofExcept (writeTokens r.spec.format xs)

end Report

end StoryText
