import RouteAtlas.Document.Basic
import RouteAtlas.Json.Writer

/-! A document as plain data, with the keys of the published format; what is not set is left out. -/

namespace RouteAtlas

/-- The entries of an object, where some may be left out. -/
abbrev Entries := List (String × Value)

namespace Entries

def text (key : String) (s : String) : Entries := [(key, .str s)]

def text? (key : String) : Option String → Entries
  | some s => [(key, .str s)]
  | none => []

def bool? (key : String) : Option Bool → Entries
  | some b => [(key, .bool b)]
  | none => []

def texts (key : String) (ss : List String) : Entries := [(key, .list (ss.map .str))]

def value? (key : String) : Option Value → Entries
  | some v => [(key, v)]
  | none => []

/-- A value of any kind; null is left out, and what becomes null is not. -/
def any? (key : String) : Value → Entries
  | .null => []
  | v => [(key, v.plain)]

end Entries

open Entries

/-- What stands before the short name in a reference. -/
def referenceStart : String := "#/definitions/"

def Primitive.encode (p : Primitive) : Value :=
  Value.object (text "type" p.type ++ text? "format" p.format ++
    text? "description" p.description ++
    value? "enum" (p.enum.map fun vs => .list (Value.plains vs)))

def Property.encode : Property → Value
  | .primitive p => p.encode
  | .ref n d => Value.object (text "$ref" (referenceStart ++ n) ++ text? "description" d)
  | .array items u d =>
    Value.object (text "type" "array" ++ [("items", items.encode)] ++ bool? "uniqueItems" u ++
      text? "description" d)
  | .map values d =>
    Value.object (text "type" "object" ++ [("additionalProperties", values.encode)] ++
      text? "description" d)

def Schema.encode (s : Schema) : Value :=
  Value.object (text "title" s.name ++ text "type" s.type ++ text? "description" s.description ++
    [("properties", Value.object (s.properties.map fun p => (p.1, p.2.encode)))] ++
    value? "required" (s.required.map fun names => .list (names.map .str)))

def BodySchema.encode : BodySchema → Value
  | .model n _ => Value.object (text "$ref" (referenceStart ++ n))
  | .array items u d => (Property.array items u d).encode
  | .map values d => (Property.map values d).encode
  | .primitive p => p.encode

def SimpleParameter.encode (l : Location) (p : SimpleParameter) : Value :=
  Value.object (text? "name" p.name ++ any? "description" p.description ++
    [("required", .bool p.required)] ++ text "type" p.type ++ text? "format" p.format ++
    any? "default" p.default ++ value? "items" (p.items.map Primitive.encode) ++
    text? "collectionFormat" p.collectionFormat ++ text "in" l.word)

def BodyParameter.encode (b : BodyParameter) : Value :=
  Value.object (text "in" "body" ++ text? "name" b.name ++ text? "description" b.description ++
    [("required", .bool b.required)] ++ value? "schema" (b.schema.map BodySchema.encode))

def Parameter.encode : Parameter → Value
  | .simple l p => p.encode l
  | .body b => b.encode

def Response.encode (r : Response) : Value :=
  Value.object (text "description" r.description ++ value? "schema" (r.schema.map Property.encode))

def Operation.encode (op : Operation) : Value :=
  Value.object (texts "tags" op.tags ++ text? "summary" op.summary ++
    text? "description" op.description ++ texts "consumes" op.consumes ++
    texts "produces" op.produces ++ text? "operationId" op.operationId ++
    [("parameters", .list (op.parameters.map Parameter.encode)),
      ("responses", Value.object (op.responses.map fun r => (r.1, r.2.encode)))])

def PathItem.encode (item : PathItem) : Value :=
  Value.object (item.operations.map (fun o => (o.1.key, o.2.encode)) ++
    [("parameters", .list (item.parameters.map Parameter.encode))])

def Info.encode (i : Info) : Value :=
  Value.object
    (text "title" i.title ++ text "version" i.version ++ text? "description" i.description)

def Document.encode (d : Document) : Value :=
  Value.object (text "swagger" d.swagger ++ [("info", d.info.encode)] ++ text? "host" d.host ++
    text? "basePath" d.basePath ++ texts "schemes" d.schemes ++ texts "consumes" d.consumes ++
    texts "produces" d.produces ++
    [("paths", Value.object (d.paths.map fun p => (p.1, p.2.encode))),
      ("definitions", Value.object (d.definitions.map fun s => (s.1, s.2.encode)))])

end RouteAtlas
