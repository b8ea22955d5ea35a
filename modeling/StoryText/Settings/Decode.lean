import StoryText.Report.Basic
import StoryText.Settings.Error

namespace StoryText

/-- The settings of a run. The name of the report is not looked at before the report is made. -/
structure Settings where
  format : Text
  policy : Report.Policy
  macroNames : Bool
  deriving DecidableEq, Repr

namespace Settings

def report (s : Settings) : Except Report.Spec.Error Report := do
  .ok ⟨← Report.Spec.ofName s.format, s.policy, s.macroNames⟩

def Value.text (key : Text) (v : Value) : Except Error Text :=
  match v with
  | string _ t => .ok t
  | boolean _ b => .ok (if b then "true" else "false").toList
  | integer _ n => .ok (Text.decimalInt n)
  | float _ x => .ok x.toText
  | _ => .error (.wrongType v.describe "a string".toList key v.origin)

def trueWords : List Text := ["1", "true", "on", "yes"].map String.toList

def falseWords : List Text := ["0", "false", "off", "no"].map String.toList

def Value.switch (key : Text) (v : Value) : Except Error Bool :=
  match v with
  | boolean _ b => .ok b
  | integer _ n => .ok (n != 0)
  | float _ x => .ok !x.isZero
  | string o t =>
    let t := t.lowercase
    if trueWords.contains t then .ok true
    else if falseWords.contains t then .ok false
    else .error (.wrongType (string o t).describe "a boolean".toList key o)
  | _ => .error (.wrongType v.describe "a boolean".toList key v.origin)

def policyOfName (name : Text) : Except Error Report.Policy :=
  (Report.Policy.ofName? name.lowercase).elim (.error (.unknownPolicy name)) .ok

def Value.policy : Value → Except Error Report.Policy
  | string _ name => policyOfName name
  | table _ [(name, _)] => policyOfName name
  | _ => .error .noPolicy

/-- The value of the field of a section, and the key that messages call it by. A section may be an
array; its first item is the field then. -/
def Section.find (s : Section) (fs : Value.Fields) : Except Error (Option (Text × Value)) :=
  match Value.get? s.key fs with
  | none => .error (.missingField s.key)
  | some (.table _ fs) =>
    .ok ((Value.get? s.field fs).map fun v => (s.key ++ '.' :: s.field, v))
  | some (.array _ (v :: _)) => .ok (some (s.key ++ "[0]".toList, v))
  | some (.array _ []) => if s = .tokenizer then .ok none else .error (.emptySection s)
  | some v => .error (.wrongSection v.describe s)

def Section.require (s : Section) (fs : Value.Fields) : Except Error (Text × Value) := do
  (← s.find fs).elim (.error (.missingField s.field)) .ok

/-- The settings that fields hold. Unknown fields are ignored, and the switch may be missing. -/
def decode (fs : Value.Fields) : Except Error Settings := do
  let (key, v) ← Section.output.require fs
  let format ← v.text key
  let (_, v) ← Section.diagnostics.require fs
  let policy ← v.policy
  let macroNames ← match ← Section.tokenizer.find fs with
    | some (key, v) => v.switch key
    | none => .ok false
  .ok ⟨format, policy, macroNames⟩

end Settings

end StoryText
