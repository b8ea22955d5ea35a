import StoryText.Number.Decimal
import StoryText.Pattern.Body
import StoryText.Report.Event

namespace StoryText.CommandLine

inductive Level
  | off | error | warn | info | debug | trace
  deriving DecidableEq, Repr

namespace Level

def rank : Level → Nat
  | off => 0
  | error => 1
  | warn => 2
  | info => 3
  | debug => 4
  | trace => 5

def name : Level → Text
  | off => "off".toList
  | error => "error".toList
  | warn => "warn".toList
  | info => "info".toList
  | debug => "debug".toList
  | trace => "trace".toList

def all : List Level := [off, error, warn, info, debug, trace]

def ofRank? (t : Text) : Option Level := do
  let n ← Text.natOf? 10 ((Text.after? ['+'] t).getD t)
  all.find? fun l => l.rank == n

def ofText? (t : Text) : Option Level :=
  (ofRank? t).or (all.find? fun l => l.name == t.map Char.toLower)

end Level

/-- What a directive is about: everything, the events with a field, or spans. No event lies in a
span, so a directive about spans says nothing of any. -/
inductive Scope
  | everything
  | field (name : Text)
  | span
  deriving DecidableEq, Repr

namespace Scope

/-- The scope between brackets: the name of a span, and a field if there is one. A field with a
value, which is a number or a regular expression, belongs to spans too. -/
def ofParts? (span field : Text) : Option Scope :=
  match Text.pieces '=' field with
  | _ :: value :: _ =>
    if Binary64.isNumeral value || Pattern.isValid value then some .span else none
  | _ => some (if span.isEmpty then .field field else .span)

def covers (e : Report.Event) : Scope → Bool
  | everything => true
  | field name => name == "message".toList || e.fields.any fun f => f.1 == name
  | span => false

def field? : Scope → Option Text
  | field name => some name
  | _ => none

end Scope

structure Directive where
  target : Text
  scope : Scope := .everything
  level : Level
  deriving DecidableEq, Repr

namespace Directive

def isTargetStart (c : Char) : Bool := Text.isAlphanumeric c || ['-', ':', '_'].contains c

def place? (marks : List Char) (s : Text) (start : Nat) : Option Nat :=
  ((s.drop start).findIdx? marks.contains).map fun i => start + i

/-- The part of `t` that lies where `s` has the characters between two places, by their offsets. -/
def between? (t s : Text) (start stop : Nat) : Option Text := do
  let (_, rest) ← Text.splitSize? (Text.size (s.take start)) t
  let (part, _) ← Text.splitSize? (Text.size ((s.take stop).drop start)) rest
  some part

def behind? (t s : Text) (start : Nat) : Option Text :=
  (Text.splitSize? (Text.size (s.take start)) t).map Prod.snd

def withLevel? (target : Text) (scope : Scope) (level : Text) : Option Directive :=
  (if level.isEmpty then some .trace else Level.ofText? level).map fun l => ⟨target, scope, l⟩

def ending? (t s target : Text) (scope : Scope) (i : Nat) : Option Directive :=
  match s[i]? with
  | none => withLevel? target scope []
  | some '=' => do withLevel? target scope (← behind? t s (i + 1))
  | some _ => none

def scoped? (t s target : Text) (start : Nat) : Option Directive := do
  let i ← place? [']', '{'] s start
  let span ← between? t s start i
  if s[i]? = some ']' then ending? t s target .span (i + 1)
  else
    let j ← place? ['}'] s (i + 1)
    if j = i + 1 ∨ s[j + 1]? ≠ some ']' then none
    else do
      let scope ← Scope.ofParts? span (← between? t s (i + 1) j)
      ending? t s target scope (j + 2)

/-- Reads a level, or a target, a scope in brackets and a level after an equals sign, of which the
target or the scope may be missing, and the level too. The marks are looked for in the text without
the blanks around it, and the parts are taken at the same offsets of the text with them. -/
def ofText? (t : Text) : Option Directive :=
  let s := Text.trim t
  match s with
  | [] => none
  | '[' :: _ => scoped? t s [] 1
  | c :: _ =>
    if !isTargetStart c then none
    else
      match place? ['=', '['] s 0 with
      | none =>
        match Level.ofText? t with
        | some l => some { target := [], level := l }
        | none => withLevel? t .everything []
      | some i => do
        let target ← between? t s 0 i
        if s[i]? = some '=' then withLevel? target .everything (← behind? t s (i + 1))
        else scoped? t s target (i + 1)

end Directive

end StoryText.CommandLine
