import RouteAtlas.Text.Quoted
import RouteAtlas.Text.Split

/-! Why a type or a class cannot be put together. -/

namespace RouteAtlas

/-- What is wrong with the name of a place in a tuple, or of the tuple itself. -/
inductive PlaceNameFault where
  | noName
  | reserved
  | underscore
  | repeated
deriving DecidableEq, Repr, Inhabited

inductive TypeFault where
  /-- The text of a reference is empty. -/
  | emptyReference
  | undefined (name : String)
  /-- A reference is given by a row of types; the text shows the row. -/
  | rowOfTypes (shown : String)
  | noUnionMembers
  | arity (few : Bool) (shown : String) (actual expected : Nat)
  | notGeneric (shown : String)
  | notParametrized (shown : String)
  | classWithoutParts (name : String)
  | valueWithoutParts (kind : String)
  | functionForm
  | functionParameters (shown : String)
  | noClassMember (className name : String)
  /-- An enumeration, or a class whose annotations are looked up one by one, has nothing of this
  name. -/
  | noModelMember (name : String)
  /-- An enumeration has no member of this name. -/
  | unknownMember (shown : String)
  | badPosition (kind given : String)
  | beyondEnd (kind : String)
  | unsupportedOperand (symbol kind : String)
  | unordered (symbol left right : String)
  | notCallable (kind : String)
  | repeatedBase (name : String)
  | unorderedBases (names : List String)
  | reservedMemberName (literal : String)
  | repeatedMember (literal value : String)
  | badMemberName (literal : String)
  | notText (literal : String)
  | badPlaceName (fault : PlaceNameFault) (literal : String)
deriving Repr, Inhabited

namespace TypeFault

def message : TypeFault → String
  | .emptyReference => "string index out of range"
  | .undefined n => "name '" ++ n ++ "' is not defined"
  | .rowOfTypes s => "Forward references must evaluate to types. Got " ++ s ++ "."
  | .noUnionMembers => "Cannot take a Union of no types."
  | .arity few s a e =>
    "Too " ++ (if few then "few" else "many") ++ " arguments for " ++ s ++ "; actual " ++
      toString a ++ ", expected " ++ toString e
  | .notGeneric s => s ++ " is not a generic class"
  | .notParametrized s =>
    s ++ " cannot be parametrized because it does not inherit from typing.Generic"
  | .classWithoutParts n => "type '" ++ n ++ "' is not subscriptable"
  | .valueWithoutParts k => "'" ++ k ++ "' object is not subscriptable"
  | .functionForm => "Callable must be used as Callable[[arg, ...], result]."
  | .functionParameters s =>
    "Expected a list of types, an ellipsis, ParamSpec, or Concatenate. Got " ++ s
  | .noClassMember c n => "type object '" ++ c ++ "' has no attribute '" ++ n ++ "'"
  | .noModelMember n => n
  | .unknownMember s => s
  | .badPosition k g =>
    if k = "str" then "string indices must be integers, not '" ++ g ++ "'"
    else k ++ " indices must be integers or slices, not " ++ g
  | .beyondEnd k => (if k = "str" then "string" else k) ++ " index out of range"
  | .unsupportedOperand s k => "bad operand type for unary " ++ s ++ ": '" ++ k ++ "'"
  | .unordered s l r =>
    "'" ++ s ++ "' not supported between instances of '" ++ l ++ "' and '" ++ r ++ "'"
  | .notCallable k => "'" ++ k ++ "' object is not callable"
  | .repeatedBase n => "duplicate base class " ++ n
  | .unorderedBases ns =>
    "Cannot create a consistent method resolution\norder (MRO) for bases " ++ Text.join ", " ns
  | .reservedMemberName l =>
    "_sunder_ names, such as " ++ l ++ ", are reserved for future Enum use"
  | .repeatedMember l v => l ++ " already defined as " ++ v
  | .badMemberName l => "invalid enum member name(s) " ++ l
  | .notText l => l ++ " is not a string"
  | .badPlaceName .noName l => "Type names and field names must be valid identifiers: " ++ l
  | .badPlaceName .reserved l => "Type names and field names cannot be a keyword: " ++ l
  | .badPlaceName .underscore l => "Field names cannot start with an underscore: " ++ l
  | .badPlaceName .repeated l => "Encountered duplicate field name: " ++ l

/-- Does an annotation mean nothing because a name in it does, or because its parts do not go
together? -/
def isMeaningless : TypeFault → Bool
  | .emptyReference | .noClassMember _ _ | .noModelMember _ | .unknownMember _ | .beyondEnd _ =>
    false
  | _ => true

/-- Is it only that a name is not known? -/
def isUndefined : TypeFault → Bool
  | .undefined _ => true
  | _ => false

end TypeFault

end RouteAtlas
