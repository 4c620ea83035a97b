import ScriptStats.Text.Ranges

/-!
# Blank characters

The characters that count as blank at the ends of a line, around the colon of a speaker and
inside markup tags.
-/

namespace ScriptStats.Text

def blankRanges : Ranges :=
  [(0x9, 0xD), (0x1C, 0x20), (0x85, 0x85), (0xA0, 0xA0), (0x1680, 0x1680), (0x2000, 0x200A),
   (0x2028, 0x2029), (0x202F, 0x202F), (0x205F, 0x205F), (0x3000, 0x3000)]

def isBlank (c : Char) : Bool :=
  blankRanges.has c

/-- Drops what satisfies `p` at both ends. -/
def trimBy (p : Char → Bool) (text : List Char) : List Char :=
  ((text.dropWhile p).reverse.dropWhile p).reverse

/-- Drops the blank characters at both ends. -/
def trim (text : List Char) : List Char :=
  trimBy isBlank text

end ScriptStats.Text
