import StoryText.Text.Blank
import StoryText.Token.Alphabet
import StoryText.Token.Basic

namespace StoryText.Token

open Text (isBlank isEmoji)

/-- What the rules know of the text already read: the kind of the last token and the character just
behind. -/
structure Lookback where
  kind : Option Kind := none
  char : Option Char := none
  deriving DecidableEq, Repr

structure Lexeme where
  token : Token
  slice : Text
  rest : Text

def single (token : Token) (c : Char) (cs : Text) : Lexeme := ⟨token, [c], cs⟩

def digraph? (c : Char) : Text → Option Lexeme
  | [] => none
  | d :: rest =>
    if (c = '[' ∨ c = '{') ∧ d = '=' ∨ c = '=' ∧ (d = ']' ∨ d = '}') then
      some ⟨bracket [c, d], [c, d], rest⟩
    else none

def punctuation? : Char → Option Token
  | '(' => some (paren '(')
  | ')' => some (paren ')')
  | '[' => some (bracket ['['])
  | ']' => some (bracket [']'])
  | '{' => some (brace '{')
  | '}' => some (brace '}')
  | ':' => some colon
  | ';' => some semicolon
  | ',' => some comma
  | _ => none

def period : Text → Lexeme
  | '.' :: '.' :: rest => ⟨text ['.', '.', '.'], ['.', '.', '.'], rest⟩
  | cs => single (text ['.']) '.' cs

def run (f : Text → Token) (p : Char → Bool) (c : Char) (cs : Text) : Lexeme :=
  ⟨f (c :: cs.takeWhile p), c :: cs.takeWhile p, cs.dropWhile p⟩

def quoted (open_ : Char) (closers : List Char) (cs : Text) : Lexeme :=
  let value := cs.takeWhile fun c => !closers.contains c
  match cs.dropWhile fun c => !closers.contains c with
  | [] => ⟨string value true, open_ :: value, []⟩
  | close :: rest => ⟨string value false, open_ :: value ++ [close], rest⟩

def nextIs (p : Char → Bool) (cs : Text) : Bool := cs.head?.any p

/-- An apostrophe is text after a variable name and before a letter (`$hero's`), and between two
ASCII letters or digits (`don't`). Every other one opens a string. -/
def apostrophe (back : Lookback) (cs : Text) : Lexeme :=
  if back.kind = some .varName ∧ nextIs isLetter cs ∨
      back.char.any Char.isAlphanum ∧ nextIs Char.isAlphanum cs then
    single (text ['\'']) '\'' cs
  else quoted '\'' ['\''] cs

def operatorRun (c : Char) : Text → Lexeme
  | '=' :: rest => ⟨operator [c, '='], [c, '='], rest⟩
  | cs => single (operator [c]) c cs

def word (macroNames : Bool) (c : Char) (cs : Text) : Lexeme :=
  let w := c :: cs.takeWhile isWordChar
  match macroNames, cs.dropWhile isWordChar with
  | true, ':' :: rest => ⟨macroName w, w ++ [':'], rest⟩
  | _, rest => ⟨text w, w, rest⟩

/-- Whether a variable name starts here. A question mark starts one only after a colon and before a
letter. -/
def startsVariable (back : Lookback) (c : Char) (cs : Text) : Bool :=
  c == '$' || c == '_' || (c == '?' && back.kind == some .colon && nextIs isLetter cs)

/-- The token at the front of `c :: cs`. The first rule that applies decides. -/
def scan (macroNames : Bool) (back : Lookback) (c : Char) (cs : Text) : Lexeme :=
  if let some l := digraph? c cs then l
  else if let some t := punctuation? c then single t c cs
  else if c = '.' then period cs
  else if startsVariable back c cs then run varName isWordChar c cs
  else if c = '\'' then apostrophe back cs
  else if isDoubleQuote c then quoted c (closingQuotes c) cs
  else if c.isDigit then run number Char.isDigit c cs
  else if isEmoji c then single (emoji c) c cs
  else if isOperatorChar c then operatorRun c cs
  else if isWordChar c then word macroNames c cs
  else single (text [c]) c cs

structure Lexeme.Covers (l : Lexeme) (c : Char) (cs : Text) : Prop where
  append : l.slice ++ l.rest = c :: cs
  ne_nil : l.slice ≠ []

theorem single_covers (t : Token) (c : Char) (cs : Text) : (single t c cs).Covers c cs :=
  ⟨rfl, by simp [single]⟩

theorem run_covers (f : Text → Token) (p : Char → Bool) (c : Char) (cs : Text) :
    (run f p c cs).Covers c cs :=
  ⟨by simp [run], by simp [run]⟩

theorem quoted_covers (q : Char) (closers : List Char) (cs : Text) :
    (quoted q closers cs).Covers q cs := by
  have h := List.takeWhile_append_dropWhile (p := fun c => !closers.contains c) (l := cs)
  unfold quoted
  cases hd : cs.dropWhile fun c => !closers.contains c with
  | nil =>
      rw [hd, List.append_nil] at h
      exact ⟨by simpa using h, by simp⟩
  | cons close rest =>
      rw [hd] at h
      exact ⟨by simpa using h, by simp⟩

theorem digraph?_covers {c : Char} {cs : Text} {l : Lexeme} (h : digraph? c cs = some l) :
    l.Covers c cs := by
  cases cs with
  | nil => simp [digraph?] at h
  | cons d rest =>
      rw [digraph?] at h
      split at h
      · cases h; exact ⟨rfl, by simp⟩
      · simp at h

theorem period_covers (cs : Text) : (period cs).Covers '.' cs := by
  unfold period
  split
  · exact ⟨rfl, by simp⟩
  · exact single_covers _ _ _

theorem apostrophe_covers (back : Lookback) (cs : Text) : (apostrophe back cs).Covers '\'' cs := by
  unfold apostrophe
  split
  · exact single_covers _ _ _
  · exact quoted_covers _ _ _

theorem operatorRun_covers (c : Char) (cs : Text) : (operatorRun c cs).Covers c cs := by
  unfold operatorRun
  split
  · exact ⟨rfl, by simp⟩
  · exact single_covers _ _ _

theorem word_covers (macroNames : Bool) (c : Char) (cs : Text) :
    (word macroNames c cs).Covers c cs := by
  have h := List.takeWhile_append_dropWhile (p := isWordChar) (l := cs)
  unfold word
  dsimp only
  split
  · rename_i rest hd
    rw [hd] at h
    exact ⟨by simpa using h, by simp⟩
  · exact ⟨by simp, by simp⟩

theorem scan_covers (macroNames : Bool) (back : Lookback) (c : Char) (cs : Text) :
    (scan macroNames back c cs).Covers c cs := by
  unfold scan
  split
  · next h => exact digraph?_covers h
  split
  · exact single_covers _ _ _
  split
  · next h => subst h; exact period_covers cs
  split
  · exact run_covers _ _ _ _
  split
  · next h => subst h; exact apostrophe_covers back cs
  split
  · exact quoted_covers _ _ _
  split
  · exact run_covers _ _ _ _
  split
  · exact single_covers _ _ _
  split
  · exact operatorRun_covers _ _
  split
  · exact word_covers _ _ _
  · exact single_covers _ _ _

end StoryText.Token
