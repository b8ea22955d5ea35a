import StoryText.Json.Basic
import StoryText.Passage.Basic

namespace StoryText.Passage

def toJson (p : Passage) : Json :=
  .object [("title".toList, .string p.title), ("tags".toList, .strings p.tags),
    ("config".toList, .strings p.config), ("content".toList, .string p.content),
    ("raw".toList, .string p.raw)]

def ofValues? (title tags config content raw : Json) : Option Passage := do
  some ⟨← title.string?, ← tags.strings?, ← config.strings?, ← content.string?, ← raw.string?⟩

/-- Reads a passage back: an object with all five fields, others ignored, or an array of their
values in order. -/
def ofJson? : Json → Option Passage
  | .object fs => do
    ofValues? (← Json.field? "title".toList fs) (← Json.field? "tags".toList fs)
      (← Json.field? "config".toList fs) (← Json.field? "content".toList fs)
      (← Json.field? "raw".toList fs)
  | .array [title, tags, config, content, raw] => ofValues? title tags config content raw
  | _ => none

end StoryText.Passage
