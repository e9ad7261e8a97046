import RouteAtlas.FilePath
import RouteAtlas.Value.Basic

/-!
What a program finds in the machine that it runs on and in the libraries that it is built on: how
much they can hold, and what they say of what is wrong.
-/

namespace RouteAtlas

/-- A place in nested data, outermost step first: texts are keys, whole numbers are positions. -/
abbrev Place := List Value

/-- What is wrong with data at a place. -/
structure Issue where
  place : Place
  kind : String
deriving Inhabited, Repr

/-- The place as one list that ends in the kind of mistake. -/
def Issue.report (i : Issue) : Value := .list (i.place ++ [.str i.kind])

def Issue.within (step : Value) (i : Issue) : Issue := { i with place := step :: i.place }

/-- Why data cannot be read or written, though nothing is wrong with it. -/
inductive LimitFault where
  /-- A whole number has more digits than this; how many it has is known of one that is read. -/
  | digits (limit : Nat) (given : Option Nat)
  /-- The data is nested too deeply. -/
  | depth
deriving DecidableEq, Repr

/-- What is left to the machine and the libraries. Texts stand for those of one run, in which at
most one mistake of a kind is told. -/
structure Host where
  /-- The most digits that a whole number has in text, if there is a limit. -/
  digits : Option Nat := none
  /-- The most brackets that are open at once in JSON text that is read, if there is a limit. -/
  depth : Option Nat := none
  /-- Is YAML text nested too deeply to be read? -/
  cannotRead : String → Bool := fun _ => false
  /-- Is data nested too deeply to be written? -/
  cannotWrite : Value → Bool := fun _ => false
  /-- What is said of nesting that is too deep. -/
  depthText : String := "maximum recursion depth exceeded"
  /-- What is said of data with these issues. -/
  issuesText : List Issue → String := fun _ => "<validation>"
  /-- What is said of text that is no YAML. -/
  yamlText : String := "<yaml>"
  /-- What is said of an expression that is no value written out. -/
  expressionText : String → String := fun _ => "malformed node or string"
  /-- The path of the temporary file that stands in for a file. -/
  temporary : FilePath → FilePath := fun p => p.parent.child ("." ++ p.name ++ ".00000000.tmp")

namespace Host

/-- What stands in the way of a whole number that is read, of so many digits. -/
def digitsFault? (h : Host) (n : Nat) : Option LimitFault :=
  (h.digits.filter (· < n)).map fun limit => .digits limit (some n)

/-- What stands in the way of an opening bracket behind so many others. -/
def depthFault? (h : Host) (n : Nat) : Option LimitFault :=
  (h.depth.filter (· ≤ n)).map fun _ => .depth

end Host

def LimitFault.message (h : Host) : LimitFault → String
  | .digits limit given =>
    "Exceeds the limit (" ++ toString limit ++ " digits) for integer string conversion" ++
      (given.map fun n => ": value has " ++ toString n ++ " digits").getD "" ++
      "; use sys.set_int_max_str_digits() to increase the limit"
  | .depth => h.depthText

end RouteAtlas
