/-!
# Flaws of a document

What a filing policy can hold against a document.
-/

namespace PaperTrail

inductive Flaw
  | blankFilename
  | longFilename
  | pathInFilename (filename : String)
  | blankKey
  | reversedPeriod (key : String)
deriving DecidableEq

def Flaw.message : Flaw → String
  | blankFilename => "Filename cannot be empty"
  | longFilename => "Filename cannot exceed 255 characters"
  | pathInFilename filename => "Filename '" ++ filename ++ "' cannot contain path separators"
  | blankKey => "Tag key cannot be empty"
  | reversedPeriod key => "Range tag '" ++ key ++ "' starts after it ends"

end PaperTrail
