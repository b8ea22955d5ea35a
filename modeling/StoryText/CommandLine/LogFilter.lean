import StoryText.CommandLine.Directive

namespace StoryText.CommandLine

structure LogFilter where
  directives : List Directive
  deriving DecidableEq, Repr

namespace LogFilter

def target : Text := "twee::processor".toList

def ofLevel (l : Level) : LogFilter := ⟨[{ target := [], level := l }]⟩

def ofText? (t : Text) : Option LogFilter := do
  let ds ← ((Text.pieces ',' t).filter fun d => !d.isEmpty).mapM Directive.ofText?
  some (if ds.isEmpty then ofLevel .error else ⟨ds⟩)

/-- The filter of a setting. Without one, and where it cannot be read, warnings are logged. -/
def ofSetting (t : Option Text) : LogFilter := (t.bind ofText?).getD (ofLevel .warn)

/-- Whether of two directives for an event the earlier counts: that with the longer target, then
that with a field, then that with the later name of a field. -/
def outranks (a b : Directive) : Bool :=
  if a.target.length = b.target.length then
    match a.scope.field?, b.scope.field? with
    | some x, some y => decide (y < x)
    | some _, none => true
    | none, _ => false
  else decide (b.target.length < a.target.length)

def better (a b : Directive) : Directive := if outranks a b then a else b

def isAbout (e : Report.Event) (d : Directive) : Bool :=
  (Text.after? d.target target).isSome && d.scope.covers e

def level (f : LogFilter) (e : Report.Event) : Level :=
  match f.directives.filter (isAbout e) with
  | [] => .off
  | d :: ds => (ds.foldl better d).level

def shows (f : LogFilter) (e : Report.Event) : Bool :=
  decide ((if e.isWarning then Level.warn else Level.debug).rank ≤ (f.level e).rank)

def fieldText : Report.Event.Field → Text
  | .number n => Text.decimal n
  | .text t => t

def line (e : Report.Event) : Text :=
  (if e.isWarning then "WARN " else "DEBUG ").toList ++ target ++ ':' :: ' ' :: e.message ++
    (e.fields.flatMap fun f => ' ' :: f.1 ++ '=' :: fieldText f.2) ++ ['\n']

def log (f : LogFilter) (es : List Report.Event) : Text := (es.filter f.shows).flatMap line

end LogFilter

end StoryText.CommandLine
