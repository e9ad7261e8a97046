import RouteAtlas.Annotation.Expression
import RouteAtlas.Value.Operator

/-! Expressions that are values written out, of which nothing has to be worked out. -/

namespace RouteAtlas.Annotation

/-- The tokens of an expression, each with the characters that it is written with. -/
def lexemes : Nat → List Char → List (List Char × Token)
  | 0, _ => []
  | _ + 1, [] => []
  | n + 1, c :: r =>
    if c = '#' then lexemes n (r.dropWhile (· ≠ '\n'))
    else match readToken (c :: r) with
      | some (t, rest) => ((c :: r).take ((c :: r).length - rest.length), t) :: lexemes n rest
      | none => lexemes n r

/-- How many digits a whole number to the base ten has; other tokens have none. -/
def decimalDigits (written : List Char) : Token → Nat
  | .constant (.int _) =>
    if written.head? = some '0' then 0 else (written.filter Char.isDigit).length
  | _ => 0

/-- Is the token a text in which there could be expressions? -/
def isTemplate (written : List Char) : Token → Bool
  | .template _ => true
  | .constant (.str _) => (written.takeWhile Text.isWordPart).any fun c => c = 'f' || c = 'F'
  | _ => false

namespace Expression

def isNumber : Expression → Bool
  | .constant (.int _) | .constant (.float _) | .imaginary => true
  | _ => false

/-- Is it a number to which an imaginary one can be added? -/
def isReal : Expression → Bool
  | .constant (.int n) => (Value.floatOf n).toOption.isSome
  | .constant (.float _) => true
  | _ => false

def isSign (op : String) : Bool := op = "+" || op = "-"

def withoutSign : Expression → Expression
  | .prefixed op e => if isSign op then e else .prefixed op e
  | e => e

mutual

/-- Can the value that is written out be a key or lie in a set? -/
def isFixed : Expression → Bool
  | .list _ | .set _ | .dict _ _ | .call _ _ => false
  | .tuple es => areFixed es
  | _ => true

def areFixed : List Expression → Bool
  | [] => true
  | e :: es => isFixed e && areFixed es

end

mutual

/-- Is it a value that is written out? Numbers may have a sign, and a complex one is a sum. -/
def isLiteral : Expression → Bool
  | .constant _ | .ellipsis | .imaginary => true
  | .tuple es | .list es => areLiterals es
  | .set es => areLiterals es && areFixed es
  | .dict keys values => areLiterals keys && areLiterals values && areFixed keys
  | .call (.name f) [] => f = "set"
  | .prefixed op e => isSign op && isNumber e
  | .operation op l .imaginary => isSign op && isReal (withoutSign l)
  | _ => false

def areLiterals : List Expression → Bool
  | [] => true
  | e :: es => isLiteral e && areLiterals es

end

end Expression

end RouteAtlas.Annotation
