import StoryText.Token.Segment

namespace StoryText.Token

/-- A token and the bytes it covers, from `start` up to and not including `stop`. -/
structure Spanned where
  token : Token
  start : Nat
  stop : Nat
  deriving DecidableEq, Repr

def spans (offset : Nat) : List Segment → List Spanned
  | [] => []
  | g :: gs =>
    let start := offset + g.gap.size
    let stop := start + g.slice.size
    ⟨g.token, start, stop⟩ :: spans stop gs

structure Cursor where
  offset : Nat := 0
  back : Lookback := {}
  rest : Text

namespace Cursor

def atStart (source : Text) : Cursor := { rest := source }

def next? (macroNames : Bool) (c : Cursor) : Option (Spanned × Cursor) :=
  (Token.next? macroNames c.back c.rest).map fun (g, rest) =>
    let start := c.offset + g.gap.size
    let stop := start + g.slice.size
    (⟨g.token, start, stop⟩, ⟨stop, g.lookback, rest⟩)

def remaining (macroNames : Bool) (c : Cursor) : List Spanned :=
  spans c.offset (segments macroNames c.back c.rest)

def atEnd (c : Cursor) : Cursor := { c with offset := c.offset + c.rest.size, rest := [] }

theorem next?_atEnd (macroNames : Bool) (c : Cursor) : c.atEnd.next? macroNames = none := by
  simp [atEnd, next?, Token.next?]

theorem remaining_eq (macroNames : Bool) (c : Cursor) :
    c.remaining macroNames = match c.next? macroNames with
      | none => []
      | some (t, d) => t :: d.remaining macroNames := by
  cases h : Token.next? macroNames c.back c.rest with
  | none => simp [remaining, next?, h, segments_of_next?_none h, spans]
  | some p => simp [remaining, next?, h, segments_of_next?_some h, spans]

end Cursor

def tokenizeSpans (macroNames : Bool) (source : Text) : List Spanned :=
  (Cursor.atStart source).remaining macroNames

def tokenize (macroNames : Bool) (source : Text) : List Token :=
  (segments macroNames {} source).map Segment.token

theorem map_token_spans (offset : Nat) (gs : List Segment) :
    (spans offset gs).map Spanned.token = gs.map Segment.token := by
  induction gs generalizing offset with
  | nil => rfl
  | cons g gs ih => simp [spans, ih]

theorem map_token_tokenizeSpans (macroNames : Bool) (source : Text) :
    (tokenizeSpans macroNames source).map Spanned.token = tokenize macroNames source :=
  map_token_spans _ _

end StoryText.Token
