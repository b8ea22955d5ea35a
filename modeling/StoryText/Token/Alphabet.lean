import StoryText.Text.Emoji

namespace StoryText.Token

def isLetter (c : Char) : Bool := c.isAlpha

def isWordChar (c : Char) : Bool := c.isAlphanum || c == '_' || c == '-'

def isOperatorChar (c : Char) : Bool := "+-*/=<>&!%|".toList.contains c

def isDoubleQuote (c : Char) : Bool := ['"', '“', '”'].contains c

/-- The quotes that close a string which a double quote opened. Nothing closes a string opened by a
closing curly quote. -/
def closingQuotes : Char → List Char
  | '"' => ['"', '”']
  | '“' => ['”', '"']
  | _ => []

theorem isWordChar_of_isLetter {c : Char} (h : isLetter c = true) : isWordChar c = true := by
  simp_all [isLetter, isWordChar, Char.isAlphanum]

end StoryText.Token
