import StoryText.Token.Cursor

namespace StoryText.Token

/-- What a scan under way can be asked: for the next token, or to recognise macro names from now on
or no longer. -/
inductive Call
  | next
  | recognise (macroNames : Bool)
  deriving DecidableEq, Repr

structure Scanner where
  cursor : Cursor
  macroNames : Bool := false

namespace Scanner

def atStart (source : Text) : Scanner := { cursor := .atStart source }

/-- The next token and the scan after it. Where there is none the blanks that are left are skipped,
and the scan stays at the end. -/
def next (s : Scanner) : Option Spanned × Scanner :=
  match s.cursor.next? s.macroNames with
  | none => (none, { s with cursor := s.cursor.atEnd })
  | some (t, c) => (some t, { s with cursor := c })

def answers (s : Scanner) : List Call → List (Option Spanned)
  | [] => []
  | .recognise macroNames :: calls => answers { s with macroNames } calls
  | .next :: calls => s.next.1 :: answers s.next.2 calls

end Scanner

end StoryText.Token
