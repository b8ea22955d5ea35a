import StoryText.Files.Tree

namespace StoryText.Files

def Content.ofBytes (bytes : ByteArray) : Content :=
  match String.fromUTF8? bytes with
  | some s => text s.toList
  | none => binary

end StoryText.Files
