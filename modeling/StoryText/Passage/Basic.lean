import StoryText.Passage.Header

namespace StoryText

structure Passage where
  title : Text
  tags : List Text
  config : List Text
  content : Text
  raw : Text
  deriving DecidableEq, Repr

namespace Passage

open Text (trim)

def ofBody (h : Header) (body : List Text) : Passage :=
  let raw := Text.join ['\n'] body
  ⟨h.title, h.tags, h.config, trim raw, raw⟩

/-- The loop over the lines of a file: the passages that are complete, the header that was found last
if it has a title, and the lines since the last header line. -/
structure Splitter where
  done : Array Passage := #[]
  header? : Option Header := none
  buffer : Array Text := #[]

namespace Splitter

def flush (s : Splitter) : Array Passage :=
  match s.header? with
  | none => s.done
  | some h => s.done.push (ofBody h s.buffer.toList)

def step (s : Splitter) (line : Text) : Splitter :=
  match Header.ofLine? line with
  | none => { s with buffer := s.buffer.push line }
  | some h => ⟨s.flush, (some h).filter fun h => !h.title.isEmpty, #[]⟩

/-- A header on the last line has no lines below it and is dropped. -/
def finish (s : Splitter) : Array Passage := if s.buffer.isEmpty then s.done else s.flush

end Splitter

def split (source : Text) : List Passage :=
  ((Text.lines source).foldl Splitter.step {}).finish.toList

end Passage

end StoryText
