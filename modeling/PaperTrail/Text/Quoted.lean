import PaperTrail.Text.Graphic

/-!
# Quoted text

A quoted text stands between double quotes on one line, and every character in it can be seen on
its own.  Double quotes and backslashes follow a backslash.  What would not show is escaped: four
control characters by a letter or digit of their own, all others by their code point in
hexadecimal.
-/

namespace PaperTrail.Text

/-- The space shows, and so does every graphic character that stands for itself. -/
def isVisible (c : Char) : Bool := c == ' ' || (isGraphic c && !extendsGrapheme c)

def escapedCodePoint (c : Char) : List Char :=
  '\\' :: 'u' :: '\x7b' :: (Nat.toDigits 16 c.toNat ++ ['\x7d'])

def escaped : Char → List Char
  | '\x00' => ['\\', '0']
  | '\t' => ['\\', 't']
  | '\n' => ['\\', 'n']
  | '\r' => ['\\', 'r']
  | '"' => ['\\', '"']
  | '\\' => ['\\', '\\']
  | c => if isVisible c then [c] else escapedCodePoint c

def quoted (s : String) : String :=
  String.ofList ('"' :: (s.toList.flatMap escaped ++ ['"']))

-- an umlaut shows as one letter, but not as a letter with a mark on it
example :
    quoted "ä\t" = "\"ä\\t\"" ∧ quoted "a\u0308\u200B" = "\"a\\u\x7b308\x7d\\u\x7b200b\x7d\"" := by
  decide +kernel

end PaperTrail.Text
