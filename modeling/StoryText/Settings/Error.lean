import StoryText.Files.Tree
import StoryText.Number.Shortest
import StoryText.Settings.Path
import StoryText.Text.Quoted

namespace StoryText.Settings

inductive Section
  | output | diagnostics | tokenizer
  deriving DecidableEq, Repr

namespace Section

def key : Section → Text
  | output => "output".toList
  | diagnostics => "diagnostics".toList
  | tokenizer => "tokenizer".toList

def field : Section → Text
  | output => "format".toList
  | diagnostics => "unterminated_strings".toList
  | tokenizer => "macro_names".toList

def typeName : Section → Text
  | output => "OutputConfig".toList
  | diagnostics => "DiagnosticsConfig".toList
  | tokenizer => "TokenizerOptions".toList

end Section

def Value.describe : Value → Text
  | null _ => "unit value".toList
  | boolean _ b => "boolean `".toList ++ (if b then "true`" else "false`").toList
  | integer _ n => "integer `".toList ++ Text.decimalInt n ++ ['`']
  | float _ x => "floating point `".toList ++ x.toPointText ++ ['`']
  | string _ t => "string ".toList ++ t.quoted
  | array _ _ => "sequence".toList
  | table _ _ => "map".toList

inductive Error
  | notFound (path : Text)
  | unreadable (fault : Files.Fault)
  | malformed
  | notTable (found file : Text)
  | wrongType (found expected key : Text) (origin : Option Text)
  | wrongSection (found : Text) (s : Section)
  | emptySection (s : Section)
  | missingField (name : Text)
  | unknownPolicy (name : Text)
  | noPolicy
  | badPath (e : Path.Error)
  deriving DecidableEq, Repr

def Error.message : Error → Text
  | notFound path => "configuration file \"".toList ++ path ++ "\" not found".toList
  | unreadable fault => fault.message
  | malformed => "TOML parse error".toList
  | notTable found file =>
    "invalid type: ".toList ++ found ++ ", expected a map in ".toList ++ file ++
      " in ".toList ++ file
  | wrongType found expected key origin =>
    "invalid type: ".toList ++ found ++ ", expected ".toList ++ expected ++ " for key `".toList ++
      key ++ '`' :: origin.elim [] fun file => " in ".toList ++ file
  | wrongSection found s =>
    "invalid type: ".toList ++ found ++ ", expected struct ".toList ++ s.typeName
  | emptySection s =>
    "invalid length 0, expected struct ".toList ++ s.typeName ++ " with 1 element".toList
  | missingField name => "missing field `".toList ++ name ++ ['`']
  | unknownPolicy name =>
    "enum UnterminatedPolicy does not have variant constructor ".toList ++ name
  | noPolicy =>
    ("value of enum UnterminatedPolicy should be represented by either string or table with " ++
      "exactly one key").toList
  | badPath e => e.message

end StoryText.Settings
