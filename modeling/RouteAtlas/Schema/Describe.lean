import RouteAtlas.Schema.Formats
import RouteAtlas.Type.DataType
import RouteAtlas.Type.Field

/-! The property that describes a type, and the schema of one model. -/

namespace RouteAtlas

/-- The property of an enumeration; behind metadata its members cannot be listed. -/
def Ty.enumProperty (classes : Registry) (t : Ty) (values : List Value) :
    Except Fault Property := do
  let d ← t.dataType classes
  if t.isAnnotated then throw .maskedEnumeration
  else return .primitive ⟨d.name, d.format, none, some values⟩

/-- The property that describes a field, an element or a body of a type. -/
def Ty.property (classes : Registry) (formats : Formats) (t : Ty) : Except Fault Property :=
  match formats.field? t with
  | some p => .ok p
  | none =>
    if ho : t.isOptional = true then
      match hu : t.unwrap classes.unions with
      | .error e => .error e
      | .ok u =>
        have := Ty.size_unwrap_lt ho hu
        Ty.property classes formats u
    else
      match t.enumValues? classes with
      | some values => t.enumProperty classes values
      | none =>
        if 1 < t.members.length then .ok (.plain "object" none)
        else if hc : t.isContainer = true then
          have := Ty.size_element_lt hc
          (Ty.property classes formats t.element).map fun p =>
            .array p (if t.isUnique then some true else none) none
        else if hm : t.isMapping = true then
          have := Ty.size_value_lt hm
          (Ty.property classes formats t.value).map fun p => .map p none
        else if t.isModel classes then .ok (.ref (t.simpleName classes) none)
        else (t.dataType classes).map fun d => .plain d.name d.format
termination_by t.size

/-- The properties of fields, in order. -/
def describeFields (classes : Registry) (formats : Formats) :
    List Field → Except Fault (List (String × Property))
  | [] => .ok []
  | (n, t) :: r => do
    let p ← t.property classes formats
    return (n, p) :: (← describeFields classes formats r)

/-- The names of the fields that must be present. -/
def requiredNames (fields : List Field) : List String :=
  (fields.filter fun f => !f.2.isOptional).map (·.1)

/-- The schema of a class from its fields; a field that is optional is not required. -/
def ClassDecl.schema (classes : Registry) (formats : Formats) (d : ClassDecl)
    (fields : List Field) : Except Fault Schema := do
  let described ← describeFields classes formats fields
  let names := requiredNames fields
  return {
    id := some d.identity
    name := d.name
    type := "object"
    description := d.description
    properties := lastOfNames described
    required := if names.isEmpty then none else some names }

end RouteAtlas
