import RouteAtlas.Host
import RouteAtlas.Value.Calendar
import RouteAtlas.Text.Integer
import RouteAtlas.Type.CallFault
import RouteAtlas.Type.Fault

/-! Why a route, a type or a document cannot be processed. -/

namespace RouteAtlas

/-- Claims on one name, by the identities that make them. -/
abbrev Claims := List (String × List String)

inductive Fault where
  /-- A type holds metadata that cannot be a key; the word is its kind. -/
  | unhashable (kind : String)
  /-- An enumeration hidden behind metadata has no members to list. -/
  | maskedEnumeration
  /-- The text of a forward reference is not a name. -/
  | badForwardReference (text : String)
  | unsupportedOperands (symbol left right : String)
  | type (fault : TypeFault)
  | call (fault : CallFault)
  /-- A value of this kind has nothing of this name. -/
  | noMember (kind name : String)
  | notPathRule (literal : String)
  | notCoercible (kind : String)
  | unknownResult (literal : String)
  | badInteger (base : Nat) (literal : String)
  | notNumeric (kind : String)
  | badFormat (literal : String)
  /-- A text is no decimal number, or one whose power of ten is out of bounds. -/
  | badDecimal (outOfBounds : Bool)
  /-- A value of this kind is no decimal number. -/
  | notDecimal (kind : String)
  | badIdentifier
  | noIdentifier
  /-- A text has not the form of a date or a moment. -/
  | notMoment (literal : String)
  | badMoment (fault : MomentFault)
  /-- A date or a moment is given by what is no text. -/
  | untextualMoment
  | unknownKey (literal : String)
  /-- A value of this kind holds nothing that could be gone through. -/
  | notIterable (kind : String)
  /-- A value of this kind cannot be asked for keys. -/
  | noKeys (kind : String)
  /-- The text says how zero was divided by. -/
  | divisionByZero (operation : String)
  | quotientTooLarge
  | tooLargeForFloat
  | unsupportedMethod (method : String)
  | nameCollision (claims : Claims)
  | invalid (issues : List Issue)
deriving Inhabited, Repr

def collisionMessage (claims : Claims) : String :=
  "Schema name collision: " ++
    Text.join "; " (claims.map fun c => c.1 ++ ": " ++ Text.join ", " c.2)

def unsupportedMethodMessage (method : String) : String :=
  "HTTP method '" ++ method ++ "' cannot be documented; " ++
    "supported methods are GET, PUT, POST, DELETE, PATCH and OPTIONS"

def Fault.message (f : Fault) (host : Host := {}) : String :=
  match f with
  | .unhashable kind => "unhashable type: '" ++ kind ++ "'"
  | .maskedEnumeration => "'_AnnotatedAlias' object is not iterable"
  | .badForwardReference t =>
    "Forward reference must be an expression -- got " ++ Text.quoted t
  | .unsupportedOperands s l r =>
    "unsupported operand type(s) for " ++ s ++ ": '" ++ l ++ "' and '" ++ r ++ "'"
  | .type f => f.message
  | .call f => f.message
  | .noMember k n => "'" ++ k ++ "' object has no attribute '" ++ n ++ "'"
  | .notPathRule l => "Not a path rule: " ++ l
  | .notCoercible k => "Cannot use " ++ k ++ " as a path rule"
  | .unknownResult l => "Unknown result info: " ++ l
  | .badInteger b l => Text.badIntegerMessage b l
  | .notNumeric k =>
    "int() argument must be a string, a bytes-like object or a real number, not '" ++ k ++ "'"
  | .badFormat l => l ++ " is not a valid OutputFormat"
  | .badDecimal false => "[<class 'decimal.ConversionSyntax'>]"
  | .badDecimal true => "[<class 'decimal.InvalidOperation'>]"
  | .notDecimal k =>
    if k = "list" then "argument must be a sequence of length 3"
    else "conversion from " ++ k ++ " to Decimal is not supported"
  | .badIdentifier => "badly formed hexadecimal UUID string"
  | .noIdentifier => "one of the hex, bytes, bytes_le, fields, or int arguments must be given"
  | .notMoment l => "Invalid isoformat string: " ++ l
  | .badMoment f => f.message
  | .untextualMoment => "fromisoformat: argument must be str"
  | .unknownKey l => l
  | .notIterable k => "'" ++ k ++ "' object is not iterable"
  | .noKeys k => "argument of type '" ++ k ++ "' is not iterable"
  | .divisionByZero s => s ++ " by zero"
  | .quotientTooLarge => "integer division result too large for a float"
  | .tooLargeForFloat => "int too large to convert to float"
  | .unsupportedMethod m => unsupportedMethodMessage m
  | .nameCollision claims => collisionMessage claims
  | .invalid issues => host.issuesText issues

/-- Does an annotation mean nothing because a name in it does, or because its parts do not go
together? -/
def Fault.isMeaningless : Fault → Bool
  | .unhashable _ | .unsupportedOperands _ _ _ | .notIterable _ | .notNumeric _ => true
  | .type f => f.isMeaningless
  | _ => false

def Fault.isUndefined : Fault → Bool
  | .type f => f.isUndefined
  | _ => false

end RouteAtlas
