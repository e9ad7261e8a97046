import RouteAtlas.Value.Basic

/-! Schemas: how a field or a body is described, and the named models that references point at. -/

namespace RouteAtlas

/-- A scalar: its type, and the values it is limited to. -/
structure Primitive where
  type : String
  format : Option String
  description : Option String
  enum : Option (List Value)
deriving Inhabited, Repr

/-- The description of a field, an element or a body. -/
inductive Property where
  | primitive (p : Primitive)
  /-- A reference to a model by its short name. -/
  | ref (name : String) (description : Option String)
  | array (items : Property) (unique : Option Bool) (description : Option String)
  | map (values : Property) (description : Option String)
deriving Inhabited, Repr

namespace Property

def plain (type : String) (format : Option String) : Property :=
  .primitive ⟨type, format, none, none⟩

/-- The short names that are referred to, at any depth. -/
def refs : Property → List String
  | .primitive _ => []
  | .ref n _ => [n]
  | .array p _ _ => p.refs
  | .map p _ => p.refs

end Property

/-- A model: an object type with a short name, and an identity while it is known. -/
structure Schema where
  id : Option String
  name : String
  type : String
  description : Option String
  properties : List (String × Property)
  required : Option (List String)
deriving Inhabited, Repr

namespace Schema

/-- What tells models apart: the full identity, and for want of one the short name. -/
def identity (s : Schema) : String :=
  match s.id with
  | some i => if i = "" then s.name else i
  | none => s.name

end Schema

/-- Models by identity, in the order in which they were reached. -/
abbrev Models := List (String × Schema)

namespace Models

def has (ms : Models) (identity : String) : Bool := ms.any (·.1 = identity)

/-- Adds a model unless its identity is taken. -/
def addNew (ms : Models) (s : Schema) : Models :=
  if ms.has s.identity then ms else ms ++ [(s.identity, s)]

end Models

end RouteAtlas
