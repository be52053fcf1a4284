/-!
# White space

The characters that count as white space in document text: the ASCII blanks, the four information
separators, and the separators of Unicode.
-/

namespace FlowCheck.Text

/-- The white-space code points above ASCII. -/
def wideBlanks : List Nat :=
  [0x85, 0xa0, 0x1680, 0x2000, 0x2001, 0x2002, 0x2003, 0x2004, 0x2005, 0x2006, 0x2007, 0x2008,
   0x2009, 0x200a, 0x2028, 0x2029, 0x202f, 0x205f, 0x3000]

/-- The character is white space. -/
def isBlank (c : Char) : Bool :=
  (0x09 ≤ c.toNat && c.toNat ≤ 0x0d) || (0x1c ≤ c.toNat && c.toNat ≤ 0x20) ||
    wideBlanks.contains c.toNat

/-- The text without the characters at its end that satisfy `p`. -/
def dropEndWhile (p : Char → Bool) (text : List Char) : List Char :=
  (text.reverse.dropWhile p).reverse

/-- The text without the white space at its start. -/
def trimStart (text : List Char) : List Char :=
  text.dropWhile isBlank

/-- The text without the white space at its end. -/
def trimEnd (text : List Char) : List Char :=
  dropEndWhile isBlank text

/-- The text without the white space at either end. -/
def trim (text : List Char) : List Char :=
  trimEnd (trimStart text)

end FlowCheck.Text
