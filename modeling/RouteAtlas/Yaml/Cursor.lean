/-! A place in YAML text, and the classes of characters that the rules speak of. -/

namespace RouteAtlas.Yaml

/-- Does a line end with this character? -/
def isBreak (c : Char) : Bool :=
  c = '\n' || c = '\r' || c = '\x85' || c = '\u2028' || c = '\u2029'

/-- The end of a line or of the text. -/
def isEnd (c : Char) : Bool := c = '\x00' || isBreak c

/-- A blank, or the end of a line or of the text. -/
def isGap (c : Char) : Bool := c = ' ' || c = '\t' || isEnd c

/-- The characters that a text may hold. -/
def isAllowed (c : Char) : Bool :=
  let n := c.toNat
  n = 0x09 || n = 0x0a || n = 0x0d || (0x20 ≤ n && n ≤ 0x7e) || n = 0x85 ||
    (0xa0 ≤ n && n ≤ 0xd7ff) || (0xe000 ≤ n && n ≤ 0xfffd) || 0x10000 ≤ n

/-- The characters of the names of anchors, handles and directives. -/
def isWordChar (c : Char) : Bool :=
  ('0' ≤ c && c ≤ '9') || ('A' ≤ c && c ≤ 'Z') || ('a' ≤ c && c ≤ 'z') || c = '-' || c = '_'

/-- The rest of the text with its place; lines and columns count from zero. -/
structure Cursor where
  index : Nat
  line : Nat
  column : Nat
  rest : List Char

namespace Cursor

def start (text : String) : Cursor := ⟨0, 0, 0, text.toList⟩

/-- The character at the place; past the end, one that no text may hold. -/
def peek (c : Cursor) : Char := c.rest.headD '\x00'

def peekAt (c : Cursor) (n : Nat) : Char := (c.rest.drop n).headD '\x00'

/-- One character on; the two characters that end a line together count as one break. -/
def next (c : Cursor) : Cursor :=
  match c.rest with
  | [] => c
  | ch :: r =>
    if isBreak ch && !(ch = '\r' && r.head? = some '\n') then ⟨c.index + 1, c.line + 1, 0, r⟩
    else ⟨c.index + 1, c.line, if ch = '\ufeff' then c.column else c.column + 1, r⟩

def advance : Nat → Cursor → Cursor
  | 0, c => c
  | n + 1, c => advance n c.next

/-- The characters from here on that satisfy `p`, and the place behind them. -/
def takeWhile (p : Char → Bool) (c : Cursor) : List Char × Cursor :=
  let cs := c.rest.takeWhile p
  (cs, c.advance cs.length)

def skipWhile (p : Char → Bool) (c : Cursor) : Cursor := (c.takeWhile p).2

/-- What the break at this place counts as, nothing if there is none, and the place behind it. -/
def takeBreak (c : Cursor) : List Char × Cursor :=
  let ch := c.peek
  if ch = '\r' && c.peekAt 1 = '\n' then (['\n'], c.advance 2)
  else if ch = '\u2028' || ch = '\u2029' then ([ch], c.next)
  else if isBreak ch then (['\n'], c.next)
  else ([], c)

/-- Blanks and a comment. -/
def skipComment (c : Cursor) : Cursor :=
  let c := c.skipWhile (· = ' ')
  if c.peek = '#' then c.skipWhile (!isEnd ·) else c

/-- Do three of these characters with a gap behind them stand here? -/
def atTriple (mark : Char) (c : Cursor) : Bool :=
  c.rest.take 3 = [mark, mark, mark] && isGap (c.peekAt 3)

/-- Does a line that sets documents apart begin here? -/
def atSeparator (c : Cursor) : Bool := c.atTriple '-' || c.atTriple '.'

end Cursor

end RouteAtlas.Yaml
