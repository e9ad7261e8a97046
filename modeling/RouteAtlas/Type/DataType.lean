import RouteAtlas.Type.Name

/-! The kind of data that a type is documented as. -/

namespace RouteAtlas

/-- The name of a kind of data and its format. -/
structure DataType where
  name : String
  format : Option String
deriving DecidableEq, Repr, Inhabited

namespace DataType

def string : DataType := ⟨"string", none⟩
def int64 : DataType := ⟨"integer", some "int64"⟩
def array : DataType := ⟨"array", none⟩
def object : DataType := ⟨"object", none⟩

def ofScalar? : Scalar → Option DataType
  | .str => some string
  | .bool => some ⟨"boolean", none⟩
  | .int => some int64
  | .float => some ⟨"number", some "double"⟩
  | .decimal => some ⟨"number", none⟩
  | .bytes | .bytearray => some ⟨"string", some "byte"⟩
  | .datetime => some ⟨"string", some "date-time"⟩
  | .date => some ⟨"string", some "date"⟩
  | .time => some ⟨"string", some "time"⟩
  | .uuid => some ⟨"string", some "uuid"⟩
  | .timedelta | .object | .complex => none

def isWhole : Value → Bool
  | .int _ => true
  | _ => false

/-- Members that are all whole numbers, and at least one of them, make an integer. -/
def ofEnum (values : List Value) : DataType :=
  if values ≠ [] && values.all isWhole then int64 else string

end DataType

namespace Ty

def scalarData? : Ty → Option DataType
  | .scalar s => DataType.ofScalar? s
  | _ => none

/-- Refuses a type that cannot be a key. -/
def hashable (t : Ty) : Except Fault Unit :=
  match t.unhashable? with
  | some kind => .error (.unhashable kind)
  | none => .ok ()

/-- The type inside one optional wrapper and the metadata around it. -/
def bareType (t : Ty) (rule : UnionRule) : Except Fault Ty :=
  if t.isOptional then (t.unwrap rule).map core else .ok t.core

/-- The kind of data; a type that nothing is known of is a string. -/
def dataType (classes : Registry) (t : Ty) : Except Fault DataType :=
  match t with
  | .absent | .any => .ok .string
  | t => do
    let u ← t.bareType classes.unions
    match u.enumValues? classes with
    | some values => return .ofEnum values
    | none =>
      u.hashable
      match u.scalarData? with
      | some d => return d
      | none =>
        if u.isContainer then return .array
        else if u.isMapping then return .object
        else if u.isModel classes then return ⟨u.simpleName classes, none⟩
        else return .string

/-- Is the type documented in place, and not by a schema of its own? -/
def isPrimitive (classes : Registry) (t : Ty) : Except Fault Bool :=
  match t with
  | .absent | .any => .ok true
  | t => do
    let u ← t.bareType classes.unions
    u.hashable
    return u.scalarData?.isSome || u.isEnum classes

end Ty

end RouteAtlas
