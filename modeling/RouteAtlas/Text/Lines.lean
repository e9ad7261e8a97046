import RouteAtlas.Text.Blank
import RouteAtlas.Text.Split

/-! Lines and words of text. -/

namespace RouteAtlas.Text

/-- Every line break as a line feed. -/
def unifyBreaksList : List Char → List Char
  | [] => []
  | '\r' :: '\n' :: r => '\n' :: unifyBreaksList r
  | '\r' :: r => '\n' :: unifyBreaksList r
  | c :: r => c :: unifyBreaksList r

def unifyBreaks (s : String) : String := String.ofList (unifyBreaksList s.toList)

/-- The stretches of a text between its blanks. -/
def words (s : String) : List String :=
  segments ' ' (String.ofList (s.toList.map fun c => if isBlank c then ' ' else c))

/-- Does a line end with this character? Beside line feeds and returns these are the tabs and
separators that stand between larger parts of a text. -/
def endsLine (c : Char) : Bool :=
  ('\n' ≤ c && c ≤ '\r') || ('\x1c' ≤ c && c ≤ '\x1e') || c = '\u0085' || c = '\u2028' ||
    c = '\u2029'

/-- The lines of a text; behind the last end no empty one follows. -/
def lines (s : String) : List String :=
  let cs := (unifyBreaksList s.toList).map fun c => if endsLine c then '\n' else c
  let ls := splitOn '\n' (String.ofList cs)
  if ls.getLast? = some "" then ls.dropLast else ls

end RouteAtlas.Text
