import RouteAtlas.Text.Case
import RouteAtlas.Text.PrintableTable
import RouteAtlas.Text.Split

/-! Text between quotes, with everything that does not show written as an escape. -/

namespace RouteAtlas.Text

def isPrintable (c : Char) : Bool :=
  if c.toNat < 127 then 32 ≤ c.toNat else !inRanges PrintableTable.hiddenRanges c

/-- `n` in base sixteen, with at least `width` digits. -/
def hex (width n : Nat) : String := padLeft width '0' (String.ofList (Nat.toDigits 16 n))

/-- The shortest of the three numeric escapes that holds the code point. -/
def numericEscape (c : Char) : String :=
  let n := c.toNat
  if n < 0x100 then "\\x" ++ hex 2 n else if n < 0x10000 then "\\u" ++ hex 4 n else "\\U" ++ hex 8 n

def escapeChar (quote : Char) (c : Char) : String :=
  if c = quote || c = '\\' then String.ofList ['\\', c]
  else if c = '\n' then "\\n" else if c = '\r' then "\\r" else if c = '\t' then "\\t"
  else if isPrintable c then String.singleton c else numericEscape c

/-- Single quotes, unless the text has a single quote and no double one. -/
def quoteFor (cs : List Char) : Char :=
  if cs.contains '\'' && !cs.contains '"' then '"' else '\''

def quoted (s : String) : String :=
  let q := quoteFor s.toList
  String.singleton q ++ String.join (s.toList.map (escapeChar q)) ++ String.singleton q

/-- A byte is shown as its ASCII character where that is printable. -/
def quotedBytes (bytes : List UInt8) : String :=
  let cs := bytes.map fun b => Char.ofNat b.toNat
  let q := quoteFor cs
  let one (c : Char) : String := if c.toNat < 127 then escapeChar q c else "\\x" ++ hex 2 c.toNat
  "b" ++ String.singleton q ++ String.join (cs.map one) ++ String.singleton q

end RouteAtlas.Text
