import StoryText.Json.Printer
import StoryText.Passage.Json
import StoryText.Token.Json
import StoryText.Yaml.Printer

namespace StoryText.Report

def line (t : Text) : Text := t ++ ['\n']

def heading (t : Text) : Text := "== ".toList ++ t ++ " ==\n".toList

def block (p : Passage) : Text :=
  [p.title, Text.join [','] p.tags, Text.join [','] p.config, p.content].flatMap fun t =>
    '\n' :: heading t

def passagesSimple (ps : List Passage) : Text := ps.flatMap block

def passagesJson (ps : List Passage) : Text := (Json.array (ps.map Passage.toJson)).pretty 0

abbrev Scanned := Passage × List Token

def tokensSimple (xs : List Scanned) : Text :=
  xs.flatMap fun x => heading x.1.title ++ x.2.flatMap fun t => line t.tagged

def logLine (t : Token) : Text := line ('[' :: t.kind.label ++ ']' :: ' ' :: t.value)

def tokensLog (xs : List Scanned) : Text :=
  line ("Parsed ".toList ++ Text.decimal xs.length ++ " passages.".toList) ++
    xs.flatMap fun x => block x.1 ++ x.2.flatMap logLine

def scannedJson (x : Scanned) : Json :=
  .object [("title".toList, .string x.1.title), ("tokens".toList, .array (x.2.map Token.toJson))]

def tokensJson (xs : List Scanned) : Text := (Json.array (xs.map scannedJson)).pretty 0

end StoryText.Report
