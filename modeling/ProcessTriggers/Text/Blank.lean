/-!
White space. Trimming a text removes blanks of two kinds: the separators that Unicode counts as
white space, and the four ASCII information separators. Numerals allow only the first kind
around them.
-/

namespace ProcessTriggers.Text

/-- The information separators U+001C to U+001F. -/
def isInformationSeparator (c : Char) : Bool := 0x1c ≤ c.toNat && c.toNat ≤ 0x1f

def isSpace (c : Char) : Bool :=
  let n := c.toNat
  (0x9 ≤ n && n ≤ 0xd) || n == 0x20 || n == 0x85 || n == 0xa0 || n == 0x1680 ||
    (0x2000 ≤ n && n ≤ 0x200a) || n == 0x2028 || n == 0x2029 || n == 0x202f || n == 0x205f ||
    n == 0x3000

def isBlank (c : Char) : Bool := isSpace c || isInformationSeparator c

/-- The blanks of ASCII text that end a word: tab to carriage return, and the space. -/
def isAsciiSpace (c : Char) : Bool := (0x9 ≤ c.toNat && c.toNat ≤ 0xd) || c == ' '

/-- Drops what `p` accepts from both ends. -/
def trimBy (p : Char → Bool) (cs : List Char) : List Char :=
  ((cs.dropWhile p).reverse.dropWhile p).reverse

def trim (cs : List Char) : List Char := trimBy isBlank cs

theorem isBlank_of_isSpace {c : Char} (h : isSpace c = true) : isBlank c = true := by
  simp [isBlank, h]

end ProcessTriggers.Text
