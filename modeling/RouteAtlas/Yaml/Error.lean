import RouteAtlas.Host
import RouteAtlas.Value.Calendar
import RouteAtlas.Text.Integer

/-! Why a YAML text gives no data. -/

namespace RouteAtlas.Yaml

inductive Error where
  /-- The text is not one YAML document with a value of a known kind. -/
  | malformed
  /-- An escape names a number that is no character. -/
  | noCharacter (code : Nat)
  | badInteger (base : Nat) (text : String)
  | badFloat (text : String)
  /-- A number to base sixty has so many digits that what the first one counts is no float. -/
  | tooLargeForFloat
  | badBool (text : String)
  /-- A number without any character. -/
  | emptyNumber
  | badMoment (fault : MomentFault)
  /-- A text that is said to be a date has not the form of one. -/
  | notMoment
  /-- A mapping that gives a text is said to be a date. -/
  | mappedMoment
  | limit (f : LimitFault)
deriving DecidableEq, Repr

def Error.message (host : Host) : Error → String
  | .malformed => host.yamlText
  | .noCharacter n =>
    if n < Nat.pow 2 31 then "chr() arg not in range(0x110000)"
    else "Python int too large to convert to C int"
  | .badInteger base t => Text.badIntegerMessage base (Text.quoted t)
  | .badFloat t => "could not convert string to float: " ++ Text.quoted t
  | .tooLargeForFloat => "int too large to convert to float"
  | .badBool t => Text.quoted t
  | .emptyNumber => "string index out of range"
  | .badMoment f => f.message
  | .notMoment => "'NoneType' object has no attribute 'groupdict'"
  | .mappedMoment => "expected string or bytes-like object, got 'list'"
  | .limit f => f.message host

end RouteAtlas.Yaml
