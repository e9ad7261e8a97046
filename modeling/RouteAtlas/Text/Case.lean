import RouteAtlas.Text.CaseTable

/-! Full upper and lower casing of text. -/

namespace RouteAtlas.Text

open CaseTable

def inRanges (ranges : List (Nat × Nat)) (c : Char) : Bool :=
  ranges.any fun r => r.1 ≤ c.toNat && c.toNat ≤ r.2

def mapByTable (special : List (Nat × List Nat)) (runs : List Run) (c : Char) : List Char :=
  match special.lookup c.toNat with
  | some ns => ns.map Char.ofNat
  | none => [((runs.findSome? (·.map? c.toNat)).map Char.ofNat).getD c]

/-- The upper case of one character, which may be several characters. -/
def upperChar (c : Char) : List Char :=
  if c.toNat < 128 then [c.toUpper] else mapByTable upperSpecial upperRuns c

def upper (s : String) : String := String.ofList (s.toList.flatMap upperChar)

def lowerChar (c : Char) : List Char :=
  if c.toNat < 128 then [c.toLower] else mapByTable lowerSpecial lowerRuns c

/-- Does the nearest character that is not skipped have case? -/
def nextIsCased (cs : List Char) : Bool :=
  match cs.dropWhile (inRanges ignorableRanges) with
  | [] => false
  | c :: _ => inRanges casedRanges c

/-- Lower case, where a capital sigma that ends a word becomes a final sigma. -/
def lowerFrom (before : List Char) : List Char → List Char
  | [] => []
  | c :: r =>
    (if c = 'Σ' then
      if nextIsCased before && !nextIsCased r then ['ς'] else ['σ']
    else lowerChar c) ++ lowerFrom (c :: before) r

def lower (s : String) : String := String.ofList (lowerFrom [] s.toList)

/-- The text with its first character in upper case. -/
def capitalizeFirst (s : String) : String :=
  match s.toList with
  | [] => ""
  | c :: r => String.ofList (upperChar c ++ r)

end RouteAtlas.Text
