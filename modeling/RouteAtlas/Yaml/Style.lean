import RouteAtlas.Yaml.Cursor
import RouteAtlas.Yaml.Scalar

/-! How a text is best written as a scalar: plain, between single quotes, or between double quotes.
-/

namespace RouteAtlas.Yaml

inductive Style where
  | plain
  | single
  | double
deriving DecidableEq, Repr

namespace Style

/-- Breaks that text itself may hold; a carriage return is not among them. -/
def isTextBreak (c : Char) : Bool := c = '\n' || c = '\x85' || c = '\u2028' || c = '\u2029'

/-- Must the character be escaped wherever it stands? -/
def isSpecial (c : Char) : Bool :=
  let n := c.toNat
  !(n = 0x0a || (0x20 ≤ n && n ≤ 0x7e) ||
    ((n = 0x85 || (0xa0 ≤ n && n ≤ 0xd7ff) || (0xe000 ≤ n && n ≤ 0xfffd) ||
      (0x10000 ≤ n && n < 0x10ffff)) && n ≠ 0xfeff))

def isMultiline (s : String) : Bool := s.toList.any isTextBreak

/-- Do two characters that satisfy `p` and `q` follow one another? -/
def hasPair (p q : Char → Bool) (cs : List Char) : Bool :=
  (cs.zip (cs.drop 1)).any fun ab => p ab.1 && q ab.2

def isSpace (c : Char) : Bool := c = ' '

/-- Would the first character be taken for a mark? -/
def startsWithMark : List Char → Bool
  | [] => false
  | ch :: r =>
    "#,[]\x7b\x7d&*!|>'\"%@".toList.contains ch || ch = Char.ofNat 0x60 ||
      ((ch = '?' || ch = ':' || ch = '-') && isGap (r.headD '\x00'))

/-- Would a later character be taken for a mark? `before` is the character before the rest. -/
def holdsMark (before : Char) : List Char → Bool
  | [] => false
  | ch :: r =>
    (ch = ':' && isGap (r.headD '\x00')) || (ch = '#' && isGap before) || holdsMark ch r

def looksLikeSeparator (cs : List Char) : Bool :=
  cs.take 3 = ['-', '-', '-'] || cs.take 3 = ['.', '.', '.']

def edges (cs : List Char) : List Char := cs.head?.toList ++ cs.getLast?.toList

/-- Does the text read as itself without quotes? -/
def fitsPlain (s : String) : Bool :=
  let cs := s.toList
  !((edges cs).any fun c => isSpace c || isTextBreak c) && !cs.any isSpecial &&
    !cs.any isTextBreak && !looksLikeSeparator cs && !startsWithMark cs &&
    !holdsMark (cs.headD ' ') cs.tail

/-- Does the text read as itself between single quotes? Blanks beside a break would be lost. -/
def fitsSingle (s : String) : Bool :=
  let cs := s.toList
  !cs.any isSpecial && !hasPair isTextBreak isSpace cs && !hasPair isSpace isTextBreak cs

/-- The style of a text, which as a key must stay on one line. -/
def ofText (isKey : Bool) (s : String) : Style :=
  if s ≠ "" && ScalarKind.ofPlain s = .str && fitsPlain s then .plain
  else if fitsSingle s && !(isKey && isMultiline s) then .single
  else .double

end Style

end RouteAtlas.Yaml
