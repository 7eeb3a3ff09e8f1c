import PaperTrail.Document.Search
import PaperTrail.Tag.Spelling

/-!
# Settings of an archive

How tags are spelled and which keys have a meaning in bookkeeping.
-/

namespace PaperTrail

structure Settings where
  separators : Separators := {}
  vocabulary : Vocabulary := {}
deriving DecidableEq

end PaperTrail
