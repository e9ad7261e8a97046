import RouteAtlas.Text.Case
import RouteAtlas.Text.IdentifierTable

/-! Names as expressions write them: a letter or an underscore, then letters, digits and marks. -/

namespace RouteAtlas.Text

/-- Does the code point lie in one of the ranges, which are in order? -/
def inSorted (ranges : Array (Nat × Nat)) (n : Nat) : Bool :=
  let rec search (low high : Nat) : Nat → Bool
    | 0 => false
    | fuel + 1 =>
      if high ≤ low then false
      else
        let mid := (low + high) / 2
        match ranges[mid]? with
        | none => false
        | some (a, b) =>
          if n < a then search low mid fuel
          else if b < n then search (mid + 1) high fuel
          else true
  search 0 ranges.size 32

def isPlainLetter (c : Char) : Bool := ('a' ≤ c && c ≤ 'z') || ('A' ≤ c && c ≤ 'Z') || c = '_'

def isPlainDigit (c : Char) : Bool := '0' ≤ c && c ≤ '9'

def isNameStart (c : Char) : Bool := isPlainLetter c || inSorted nameStarts c.toNat

def isNamePart (c : Char) : Bool :=
  isNameStart c || isPlainDigit c || inSorted namePartsOnly c.toNat

/-- Can the character belong to a word, be it a name or not? -/
def isWordPart (c : Char) : Bool := isPlainLetter c || isPlainDigit c || 128 ≤ c.toNat

def isName : List Char → Bool
  | [] => false
  | c :: r => isNameStart c && r.all isNamePart

/-- The words that are no names. -/
def reservedWords : List String := [
  "False", "None", "True", "and", "as", "assert", "async", "await", "break", "class", "continue",
  "def", "del", "elif", "else", "except", "finally", "for", "from", "global", "if", "import", "in",
  "is", "lambda", "nonlocal", "not", "or", "pass", "raise", "return", "try", "while", "with",
  "yield"]

/-- The plain characters that a character of a name stands for, if it stands for any. -/
def plainForm (c : Char) : List Char :=
  if c.toNat < 128 then [c]
  else match plainRuns.find? fun r => r.1 ≤ c.toNat && c.toNat < r.1 + r.2.1 with
    | some r => [Char.ofNat (r.2.2 + (c.toNat - r.1))]
    | none => match plainGroups.lookup c.toNat with
      | some s => s.toList
      | none => [c]

end RouteAtlas.Text
