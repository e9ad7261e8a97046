/-! Cutting text at a separator and joining pieces with one. -/

namespace RouteAtlas.Text

/-- The stretches between separators, one more than there are separators. -/
def pieces (sep : Char) : List Char → List (List Char)
  | [] => [[]]
  | c :: r =>
    if c = sep then [] :: pieces sep r
    else match pieces sep r with
      | [] => [[c]]
      | p :: ps => (c :: p) :: ps

def splitOn (sep : Char) (s : String) : List String := (pieces sep s.toList).map String.ofList

/-- The pieces between separators that are not empty. -/
def segments (sep : Char) (s : String) : List String := (splitOn sep s).filter (· ≠ "")

/-- The text before the first separator and the text after it. -/
def cut (sep : Char) (s : String) : Option (String × String) :=
  let cs := s.toList
  match cs.dropWhile (· ≠ sep) with
  | [] => none
  | _ :: rest => some (String.ofList (cs.takeWhile (· ≠ sep)), String.ofList rest)

/-- The characters before the first occurrence of two line feeds in a row. -/
def firstParagraph : List Char → List Char
  | [] => []
  | '\n' :: '\n' :: _ => []
  | c :: r => c :: firstParagraph r

/-- Does the first text stand anywhere in the second? -/
def contains (part s : String) : Bool := among part.toList s.toList
where
  among (part : List Char) : List Char → Bool
    | [] => part.isEmpty
    | c :: r => part.isPrefixOf (c :: r) || among part r

def join (sep : String) (parts : List String) : String := sep.intercalate parts

/-- At least `width` characters, the missing ones put in front. -/
def padLeft (width : Nat) (fill : Char) (s : String) : String :=
  String.ofList (List.replicate (width - s.length) fill) ++ s

def startsWith (start s : String) : Bool := start.toList.isPrefixOf s.toList

def endsWith (last s : String) : Bool := last.toList.isSuffixOf s.toList

/-- The text behind `start`, if it begins with it. -/
def dropStart? (start s : String) : Option String :=
  if startsWith start s then some (String.ofList (s.toList.drop start.length)) else none

end RouteAtlas.Text
