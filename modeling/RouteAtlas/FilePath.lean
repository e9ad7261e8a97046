import RouteAtlas.Text.Split
import RouteAtlas.Text.Case

/-! Paths of files as sequences of names. -/

namespace RouteAtlas

/-- The two forms in which a document is written. -/
inductive Format where
  | json
  | yaml
deriving DecidableEq, Repr, Inhabited

namespace Format

def word : Format → String
  | .json => "json"
  | .yaml => "yaml"

def ofWord? (w : String) : Option Format :=
  if w = "json" then some .json else if w = "yaml" then some .yaml else none

end Format

/-- A path: where it starts, which is nowhere for one that is relative, and the names on it without
those that stay in place. -/
structure FilePath where
  root : String
  parts : List String
deriving DecidableEq, Repr, Inhabited

namespace FilePath

/-- Exactly two slashes in front are a root of their own. -/
def rootOf (s : String) : String :=
  match (s.toList.takeWhile (· = '/')).length with
  | 0 => ""
  | 2 => "//"
  | _ => "/"

def ofString (s : String) : FilePath :=
  ⟨rootOf s, (Text.segments '/' s).filter (· ≠ ".")⟩

def toString (p : FilePath) : String :=
  let body := p.root ++ Text.join "/" p.parts
  if body = "" then "." else body

def isAbsolute (p : FilePath) : Bool := p.root ≠ ""

/-- The last name on the path. -/
def name (p : FilePath) : String := p.parts.getLast?.getD ""

def parent (p : FilePath) : FilePath := { p with parts := p.parts.dropLast }

def child (p : FilePath) (name : String) : FilePath := { p with parts := p.parts ++ [name] }

/-- The name from its last dot on, unless the dot stands first or last. -/
def suffix (p : FilePath) : String :=
  let cs := p.name.toList
  let tail := cs.reverse.takeWhile (· ≠ '.')
  if tail.isEmpty || cs.length ≤ tail.length + 1 then ""
  else String.ofList ('.' :: tail.reverse)

/-- The format that the ending of the name tells. -/
def format? (p : FilePath) : Option Format :=
  let s := Text.lower p.suffix
  if s = ".yaml" || s = ".yml" then some .yaml else if s = ".json" then some .json else none

end FilePath

end RouteAtlas
