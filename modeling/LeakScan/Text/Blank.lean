/-!
# Blank characters

The characters that count as blank at the ends of a text: the Unicode spaces, line and
paragraph separators, and the control characters that Unicode classes as separators.
`strip` takes them off both ends and leaves the middle alone.
-/

set_option autoImplicit false

namespace LeakScan.Text

/-- The blanks of ASCII that a number may be surrounded by: space, tab and the line breaks. -/
def isAsciiBlank (c : Char) : Bool :=
  c = ' ' || (9 ≤ c.toNat && c.toNat ≤ 13)

/-- Unicode's blank characters. -/
def isBlank (c : Char) : Bool :=
  let n := c.toNat
  (9 ≤ n && n ≤ 13) || (28 ≤ n && n ≤ 32) || n = 0x85 || n = 0xA0 || n = 0x1680 ||
    (0x2000 ≤ n && n ≤ 0x200A) || n = 0x2028 || n = 0x2029 || n = 0x202F || n = 0x205F ||
    n = 0x3000

/-- Drops what satisfies `p` from both ends. -/
def stripWhile (p : Char → Bool) (cs : List Char) : List Char :=
  ((cs.dropWhile p).reverse.dropWhile p).reverse

/-- Drops the blanks from both ends. -/
def strip (cs : List Char) : List Char :=
  stripWhile isBlank cs

/-- Drops what satisfies `p` from the end. -/
def dropEndWhile (p : Char → Bool) (cs : List Char) : List Char :=
  (cs.reverse.dropWhile p).reverse

/-- The pieces of a text between its blanks. -/
def betweenBlanks (cs : List Char) : List (List Char) :=
  (cs.splitOnP isBlank).filter (!·.isEmpty)

end LeakScan.Text
