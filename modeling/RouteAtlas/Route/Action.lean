import RouteAtlas.Route.Parameter
import RouteAtlas.Route.Status

/-! Route actions: a method and a path with what it reads and what it answers. -/

namespace RouteAtlas

/-- A declared result. -/
inductive ResultInfo where
  /-- Success with a body. -/
  | ofType (t : Ty)
  | statusOfType (status : Value) (t : Ty)
  | status (status : Value)
  /-- Declares nothing. -/
  | empty
  /-- A value that is no result. -/
  | foreign (v : Value)
deriving Inhabited, Repr

structure Action where
  method : String
  path : PathRule
  query : QueryRule
  headers : HeaderRule
  results : List ResultInfo
  /-- The type of the request body; absent if none is read. -/
  body : Ty
  /-- Media types, which are texts where a document is to be written. -/
  consumes : List Value
  produces : List Value
deriving Inhabited, Repr

namespace Action

/-- An action for a method in any case and a path that may be given as text. -/
def make (method : String) (path : PathRule) (query : QueryRule) (headers : HeaderRule)
    (results : List ResultInfo) (body : Ty) (consumes produces : Value) : Except Fault Action := do
  return ⟨Text.upper method, ← path.coerce, query, headers, results, body, ← consumes.row,
    ← produces.row⟩

def hasBody (a : Action) : Bool :=
  match a.body with
  | .absent => false
  | _ => true

/-- The types of the declared results, each once. -/
def resultTypes (a : Action) : List Ty :=
  Ty.distinct [] (a.results.filterMap fun
    | .ofType t => some t
    | .statusOfType _ t => some t
    | _ => none)

/-- The type of the request body, if one is read. -/
def bodyTypes (a : Action) : List Ty := if a.hasBody then [a.body] else []

end Action

end RouteAtlas
