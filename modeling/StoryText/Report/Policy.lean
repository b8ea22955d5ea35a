import StoryText.Text.Basic

namespace StoryText.Report

inductive Policy
  | ignore | warn | error
  deriving DecidableEq, Repr

namespace Policy

def name : Policy → Text
  | ignore => "ignore".toList
  | warn => "warn".toList
  | error => "error".toList

def ofName? (t : Text) : Option Policy := [ignore, warn, error].find? fun p => p.name == t

end Policy

end StoryText.Report
