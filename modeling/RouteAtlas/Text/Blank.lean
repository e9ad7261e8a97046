/-! Blank characters, and text without the blanks at its ends. -/

namespace RouteAtlas

/-- White space: the separators, and the controls that act as tab, line or block ends. -/
def isBlank (c : Char) : Bool :=
  let n := c.toNat
  (0x09 ≤ n && n ≤ 0x0d) || (0x1c ≤ n && n ≤ 0x20) || n = 0x85 || n = 0xa0 || n = 0x1680 ||
    (0x2000 ≤ n && n ≤ 0x200a) || n = 0x2028 || n = 0x2029 || n = 0x202f || n = 0x205f || n = 0x3000


namespace Text

/-- The characters left when those satisfying `p` are cut off at both ends. -/
def trimList (p : Char → Bool) (cs : List Char) : List Char :=
  ((cs.dropWhile p).reverse.dropWhile p).reverse

def trimBy (p : Char → Bool) (s : String) : String := String.ofList (trimList p s.toList)

/-- The text without the blanks at its ends. -/
def trim (s : String) : String := trimBy isBlank s

end Text

end RouteAtlas
