import StoryText.Files.Tree
import StoryText.Proofs.Result

namespace StoryText.Files.Tree

variable {t t' : Tree} {path s : Text} {p q : Place} {e : Entry}

end StoryText.Files.Tree
