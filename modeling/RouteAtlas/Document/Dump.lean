import RouteAtlas.Document.Encode
import RouteAtlas.Host
import RouteAtlas.Yaml.Writer

/-! The text of a document. -/

namespace RouteAtlas

namespace Value

mutual

/-- The whole numbers that the value holds. -/
def wholes : Value → List Int
  | .int n => [n]
  | .list items => wholesOfItems items
  | .map entries => wholesOfEntries entries
  | _ => []

def wholesOfItems : List Value → List Int
  | [] => []
  | x :: xs => wholes x ++ wholesOfItems xs

def wholesOfEntries : List (Value × Value) → List Int
  | [] => []
  | (_, v) :: r => wholes v ++ wholesOfEntries r

end

/-- Data in one of the two formats. -/
def dump (f : Format) (v : Value) : String :=
  match f with
  | .json => Json.pretty v
  | .yaml => Yaml.write v

end Value

/-- What stands in the way of writing data. -/
def Host.writeFault? (h : Host) (v : Value) : Option LimitFault :=
  if h.cannotWrite v then some .depth
  else h.digits.bind fun limit =>
    if v.wholes.any fun n => limit < (Nat.toDigits 10 n.natAbs).length then
      some (.digits limit none)
    else none

def Document.dump (f : Format) (d : Document) : String := d.encode.dump f

end RouteAtlas
