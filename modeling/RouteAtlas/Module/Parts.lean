import RouteAtlas.Module.Basic

/-!
The parts of actions and rules under their names. A part is a record: it has its fields, and the
methods that every record and every rule has.
-/

namespace RouteAtlas.Exposed

def text (s : String) : Exposed := .plain (.str s)

def texts (ss : List String) : Exposed := .row .tuple (ss.map text)

/-- Something that is neither called nor gone through. -/
def other (kind : String) : Exposed := .object kind []

/-- A method that lacks arguments of these names. -/
def lacking (function : String) (arguments : List String) : Exposed :=
  .blocked "method" (.call (.named function arguments))

/-- The names that a record has beside its fields, some of which must be given to make one. -/
def recordMembers (kind : String) (required : List String) (fields : List (String × Exposed)) :
    List (String × Exposed) := [
  ("__class__",
    if required.isEmpty then .maker "type" (other kind)
    else lacking (kind ++ ".__init__") required),
  ("__init__",
    if required.isEmpty then .maker "method" (.plain .null)
    else lacking (kind ++ ".__init__") required),
  ("__eq__", lacking (kind ++ ".__eq__") ["other"]),
  ("__setattr__", lacking (kind ++ ".__setattr__") ["name", "value"]),
  ("__delattr__", lacking (kind ++ ".__delattr__") ["name"]),
  ("__new__", .blocked "method" (.call (.noConstructorArgument "object"))),
  ("__reduce__", .maker "method" (.row .tuple [other "function"])),
  ("__match_args__", texts (fields.map (·.1))),
  ("__dataclass_fields__", .plain (.map [])),
  ("__dataclass_params__", other "_DataclassParams"),
  ("__annotations__", .plain (.map [])),
  ("__dict__", .plain (.map [])),
  ("__module__", text ""),
  ("__weakref__", .plain .null)]

/-- A record with its fields. -/
def record (kind : String) (required : List String) (fields : List (String × Exposed)) :
    List (String × Exposed) :=
  fields ++ recordMembers kind required fields

/-- The methods that join the rules of a family and put notes on them. -/
def ruleMethods (family note : String) (operators : List String) : List (String × Exposed) :=
  let method (name argument : String) : String × Exposed :=
    (name, lacking (family ++ "." ++ name) [argument])
  [method "describe" note, method "with_meta" "meta"] ++ operators.map (method · "other")

def pathMethods : List (String × Exposed) :=
  ruleMethods "PathRule" "summary" ["__truediv__", "__rtruediv__", "__or__", "__ror__"] ++
    [("__xor__", lacking "PathRule.__xor__" ["summary"])]

def queryMethods : List (String × Exposed) := ruleMethods "QueryRule" "text" ["__and__", "__or__"]

def headerMethods : List (String × Exposed) := ruleMethods "HeaderRule" "text" ["__and__", "__or__"]

def ofNote : Note → Exposed
  | .summary m => .object "RouteDesc" (record "RouteDesc" ["msg"] [("msg", .plain m)])
  | .text m => .object "TextMetaData" (record "TextMetaData" ["msg"] [("msg", .plain m)])
  | .other => .object "Metadata" (record "Metadata" [] [])

def ofType (t : Ty) : Exposed :=
  match t with
  | .absent => .plain .null
  | .plain v => .plain v
  | t => .type t

def ofPath : PathRule → Exposed
  | .literal s =>
    .object "PathMatch" (record "PathMatch" ["segment"] [("segment", .plain s)] ++ pathMethods)
  | .capture n t d =>
    .object "PathCapture" (record "PathCapture" ["name"]
      [("name", .plain n), ("type", ofType t), ("description", .plain d)] ++ pathMethods)
  | .tail => .object "CaptureTail" (record "CaptureTail" [] [] ++ pathMethods)
  | .both l r =>
    .object "PathAnd" (record "PathAnd" ["left", "right"]
      [("left", ofPath l), ("right", ofPath r)] ++ pathMethods)
  | .either l r =>
    .object "PathOr" (record "PathOr" ["left", "right"]
      [("left", ofPath l), ("right", ofPath r)] ++ pathMethods)
  | .noted r n =>
    .object "PathMeta" (record "PathMeta" ["rule", "meta"]
      [("rule", ofPath r), ("meta", ofNote n)] ++ pathMethods)
  | .foreign v => .plain v

/-- A rule whose leaves are shown by `leaf`, with the methods of its family. -/
def ofRule {α : Type} (w : ParamRule.Wording α) (methods : List (String × Exposed))
    (leaf : α → Exposed) : ParamRule α → Exposed
  | .leaf a => leaf a
  | .empty => .object w.emptyName (record w.emptyName [] [] ++ methods)
  | .foreign v => .plain v
  | .both l r =>
    .object (w.family ++ "And") (record (w.family ++ "And") ["left", "right"]
      [("left", ofRule w methods leaf l), ("right", ofRule w methods leaf r)] ++ methods)
  | .either l r =>
    .object (w.family ++ "Or") (record (w.family ++ "Or") ["left", "right"]
      [("left", ofRule w methods leaf l), ("right", ofRule w methods leaf r)] ++ methods)
  | .noted r n =>
    .object (w.family ++ "Meta") (record (w.family ++ "Meta") ["rule", "meta"]
      [("rule", ofRule w methods leaf r), ("meta", ofNote n)] ++ methods)

def ofDatum : Datum → Exposed
  | .plain v => .plain v
  | .list ds | .set ds | .frozenSet ds => .row .list (ds.map fun _ => other "object")
  | .tuple ds => .row .tuple (ds.map fun _ => other "object")
  | .map _ => .plain (.map [])
  | .member owner _ _ => other owner
  | .decimal _ => other "Decimal"
  | .uuid _ => other "UUID"

def ofQueryLeaf (q : QueryLeaf) : Exposed :=
  .object "QueryCapture" (record "QueryCapture" ["name"]
    [("name", .plain q.name), ("type", ofType q.ty), ("default", ofDatum q.default),
      ("required", .plain q.required)] ++ [("is_required", .plain q.isRequired)] ++ queryMethods)

def ofHeaderLeaf : HeaderLeaf → Exposed
  | .capture n t =>
    .object "HeaderCapture" (record "HeaderCapture" ["name"]
      [("name", .plain n), ("type", ofType t)] ++ headerMethods)
  | .require n =>
    .object "HeaderRequire" (record "HeaderRequire" ["name", "predicate"]
      [("name", .plain n), ("predicate", other "function")] ++ headerMethods)
  | .mapper n =>
    .object "HeaderMapper" (record "HeaderMapper" ["name", "mapper"]
      [("name", .plain n), ("mapper", other "function")] ++ headerMethods)

def ofResult : ResultInfo → Exposed
  | .ofType t => .object "TypeOnly" (record "TypeOnly" ["type"] [("type", ofType t)])
  | .statusOfType s t =>
    .object "StatusAndType" (record "StatusAndType" ["status", "type"]
      [("status", .plain s), ("type", ofType t)])
  | .status s => .object "StatusOnly" (record "StatusOnly" ["status"] [("status", .plain s)])
  | .empty => .object "EmptyResult" (record "EmptyResult" [] [])
  | .foreign v => .plain v

/-- The names of an action's parts. -/
def ofAction (a : Action) : List (String × Exposed) :=
  record "RouteAction" ["method", "path"] [
    ("method", text a.method), ("path", ofPath a.path),
    ("query", ofRule QueryLeaf.wording queryMethods ofQueryLeaf a.query),
    ("headers", ofRule HeaderLeaf.wording headerMethods ofHeaderLeaf a.headers),
    ("result_info", .row .tuple (a.results.map ofResult)), ("body_type", ofType a.body),
    ("valid_media", .row .tuple (a.consumes.map .plain)),
    ("response_encodings", .row .tuple (a.produces.map .plain))] ++
    [("__post_init__", .maker "method" (.plain .null))]

end RouteAtlas.Exposed
