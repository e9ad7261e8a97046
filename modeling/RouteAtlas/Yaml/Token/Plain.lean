import RouteAtlas.Yaml.Cursor

/-! Scalars without quotes. -/

namespace RouteAtlas.Yaml

/-- The stretch of a plain scalar up to a gap or a mark that ends it. -/
def plainStretch (inFlow : Bool) : List Char → List Char
  | [] => []
  | ch :: r =>
    let n := r.headD '\x00'
    if isGap ch || (ch = ':' && (isGap n || (inFlow && ",[]\x7b\x7d".toList.contains n))) ||
        (inFlow && ",?[]\x7b\x7d".toList.contains ch) then []
    else ch :: plainStretch inFlow r

/-- What two stretches of a plain scalar have between them. -/
structure Gap where
  text : List Char
  /-- A line ends in the gap. -/
  crossed : Bool

/-- The breaks up to the next text, or nothing if a separator of documents comes first. -/
def plainBreaks : Nat → List Char → Cursor → Option (List Char) × Cursor
  | 0, acc, c => (some acc, c)
  | fuel + 1, acc, c =>
    if c.peek = ' ' then plainBreaks fuel acc c.next
    else if isBreak c.peek then
      let (b, c) := c.takeBreak
      if c.atSeparator then (none, c) else plainBreaks fuel (acc ++ b) c
    else (some acc, c)

/-- A break that is folded: a line feed becomes a blank unless more breaks follow. -/
def folded (first more : List Char) : List Char :=
  (if first ≠ ['\n'] then first else if more.isEmpty then [' '] else []) ++ more

def plainGap (c : Cursor) : Gap × Cursor :=
  let (blanks, c) := c.takeWhile (· = ' ')
  if isBreak c.peek then
    let (first, c) := c.takeBreak
    if c.atSeparator then (⟨[], true⟩, c)
    else match plainBreaks (c.rest.length + 1) [] c with
      | (none, c) => (⟨[], true⟩, c)
      | (some more, c) => (⟨folded first more, true⟩, c)
  else (⟨blanks, false⟩, c)

/-- A plain scalar, and whether a line has ended behind it. -/
structure PlainScalar where
  text : List Char
  crossed : Bool
  cursor : Cursor

/-- Stretches with gaps between them; `gap` comes before the next stretch if there is one. -/
def plainFrom (inFlow : Bool) (indent : Int) : Nat → List Char → Gap → Cursor → PlainScalar
  | 0, acc, gap, c => ⟨acc, gap.crossed, c⟩
  | fuel + 1, acc, gap, c =>
    let stretch := if c.peek = '#' then [] else plainStretch inFlow c.rest
    if stretch.isEmpty then ⟨acc, gap.crossed, c⟩
    else
      let acc := acc ++ gap.text ++ stretch
      let (gap, c) := plainGap (c.advance stretch.length)
      if gap.text.isEmpty || c.peek = '#' || (!inFlow && (c.column : Int) < indent) then
        ⟨acc, gap.crossed, c⟩
      else plainFrom inFlow indent fuel acc gap c

/-- The plain scalar at a place; in blocks its lines are indented by at least `indent`. -/
def plainScalar (inFlow : Bool) (indent : Int) (c : Cursor) : PlainScalar :=
  plainFrom inFlow indent (c.rest.length + 1) [] ⟨[], false⟩ c

end RouteAtlas.Yaml
