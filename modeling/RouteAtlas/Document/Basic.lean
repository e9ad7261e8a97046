import RouteAtlas.Schema.Basic
import RouteAtlas.Route.Verb

/-! A document: the operations of every path and the models they refer to. -/

namespace RouteAtlas

/-- Where a parameter other than the body is sent. -/
inductive Location where
  | path
  | query
  | header
deriving DecidableEq, Repr, Inhabited

def Location.word : Location → String
  | .path => "path"
  | .query => "query"
  | .header => "header"

/-- A parameter that is one value or a row of values. -/
structure SimpleParameter where
  name : Option String
  /-- A text or null, unless a rule has noted something else. -/
  description : Value
  required : Bool
  type : String
  format : Option String
  default : Value
  items : Option Primitive
  collectionFormat : Option String
deriving Inhabited, Repr

/-- The schema of a request body: a model by its short name, or a description in place. -/
inductive BodySchema where
  | model (name : String) (id : Option String)
  | array (items : Property) (unique : Option Bool) (description : Option String)
  | map (values : Property) (description : Option String)
  | primitive (p : Primitive)
deriving Inhabited, Repr

structure BodyParameter where
  name : Option String
  description : Option String
  required : Bool
  schema : Option BodySchema
deriving Inhabited, Repr

inductive Parameter where
  | simple (location : Location) (p : SimpleParameter)
  | body (b : BodyParameter)
deriving Inhabited, Repr

namespace Parameter

def name : Parameter → Option String
  | .simple _ p => p.name
  | .body b => b.name

def locationWord : Parameter → String
  | .simple l _ => l.word
  | .body _ => "body"

end Parameter

structure Response where
  description : String
  schema : Option Property
deriving Inhabited, Repr

structure Operation where
  tags : List String
  summary : Option String
  description : Option String
  consumes : List String
  produces : List String
  operationId : Option String
  parameters : List Parameter
  responses : List (String × Response)
deriving Inhabited, Repr

structure PathItem where
  get : Option Operation
  put : Option Operation
  post : Option Operation
  delete : Option Operation
  patch : Option Operation
  options : Option Operation
  parameters : List Parameter
deriving Inhabited, Repr

namespace PathItem

def empty : PathItem := ⟨none, none, none, none, none, none, []⟩

/-- The operation of a verb. -/
def slot (item : PathItem) : Verb → Option Operation
  | .get => item.get
  | .put => item.put
  | .post => item.post
  | .delete => item.delete
  | .patch => item.patch
  | .options => item.options

def setSlot (item : PathItem) (v : Verb) (op : Operation) : PathItem :=
  match v with
  | .get => { item with get := some op }
  | .put => { item with put := some op }
  | .post => { item with post := some op }
  | .delete => { item with delete := some op }
  | .patch => { item with patch := some op }
  | .options => { item with options := some op }

/-- The operations that are present, in the order of the verbs. -/
def operations (item : PathItem) : List (Verb × Operation) :=
  Verb.all.filterMap fun v => (item.slot v).map fun op => (v, op)

@[simp] theorem slot_setSlot_self (item : PathItem) (v : Verb) (op : Operation) :
    (item.setSlot v op).slot v = some op := by cases v <;> rfl

theorem slot_setSlot_of_ne (item : PathItem) {v w : Verb} (op : Operation) (h : w ≠ v) :
    (item.setSlot v op).slot w = item.slot w := by
  cases v <;> cases w <;> first | rfl | exact absurd rfl h

@[simp] theorem parameters_setSlot (item : PathItem) (v : Verb) (op : Operation) :
    (item.setSlot v op).parameters = item.parameters := by cases v <;> rfl

end PathItem

structure Info where
  title : String
  version : String
  description : Option String
deriving DecidableEq, Inhabited, Repr

structure Document where
  swagger : String
  info : Info
  host : Option String
  basePath : Option String
  schemes : List String
  consumes : List String
  produces : List String
  paths : List (String × PathItem)
  definitions : List (String × Schema)
deriving Inhabited, Repr

namespace Document

/-- A document that describes nothing but itself. -/
def ofInfo (info : Info) : Document := ⟨"2.0", info, none, none, [], [], [], [], []⟩

end Document

end RouteAtlas
