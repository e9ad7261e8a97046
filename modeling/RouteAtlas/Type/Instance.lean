import RouteAtlas.Type.Subscript

/-!
What a type makes when it is called without arguments: a collection without items, or something that
is no collection.
-/

namespace RouteAtlas

/-- The methods that an abstract class leaves open. -/
def openMethods : String → List String
  | "Awaitable" => ["__await__"]
  | "Coroutine" => ["__await__", "send", "throw"]
  | "AsyncIterable" => ["__aiter__"]
  | "AsyncIterator" => ["__anext__"]
  | "AsyncGenerator" => ["asend", "athrow"]
  | "Hashable" => ["__hash__"]
  | "Iterable" => ["__iter__"]
  | "Iterator" => ["__next__"]
  | "Generator" => ["send", "throw"]
  | "Reversible" => ["__iter__", "__reversed__"]
  | "Sized" => ["__len__"]
  | "Container" => ["__contains__"]
  | "Callable" => ["__call__"]
  | "Collection" | "Set" => ["__contains__", "__iter__", "__len__"]
  | "MutableSet" => ["__contains__", "__iter__", "__len__", "add", "discard"]
  | "Mapping" => ["__getitem__", "__iter__", "__len__"]
  | "MutableMapping" => ["__delitem__", "__getitem__", "__iter__", "__len__", "__setitem__"]
  | "Sequence" | "ByteString" => ["__getitem__", "__len__"]
  | "MutableSequence" => ["__delitem__", "__getitem__", "__len__", "__setitem__", "insert"]
  | _ => []

/-- Is an instance of a class that is no alias a collection, if one can be made of nothing? -/
def Generic.instanceIsCollection (g : Generic) : Except Fault Bool :=
  match g.family with
  | .abstract =>
    if ["MappingView", "KeysView", "ItemsView", "ValuesView"].contains g.name then
      .error (.call (.named "MappingView.__init__" ["mapping"]))
    else .error (.call (.abstractClass g.name (openMethods g.name)))
  | .collection =>
    if g.name = "UserString" then .error (.call (.named "UserString.__init__" ["seq"]))
    else .ok (["deque", "ChainMap", "UserDict", "UserList"].contains g.name)
  | _ =>
    if g.name = "type" then .error (.call .anyClass)
    else .ok (["list", "tuple", "set", "frozenset"].contains g.name)

/-- As for a class; the aliases of some classes make nothing. -/
def Generic.instanceOf (g : Generic) : Except Fault Bool :=
  match g.family, g.origin.family with
  | .alias, .builtin => .error (.call (.alias g.name g.origin.name))
  | _, _ => g.origin.instanceIsCollection

/-- As for a class. -/
def Scalar.instanceOf : Scalar → Except Fault Bool
  | .datetime | .date => .error (.call (.first "function" "year"))
  | .uuid => .error .noIdentifier
  | .bytearray => .ok true
  | _ => .ok false

/-- As for a class; what has fields must be given them. -/
def ClassDecl.instanceOf (classes : Registry) (d : ClassDecl) : Except Fault Bool :=
  let names (ds : List ClassDecl) : List String :=
    (ds.flatMap fun a => a.fields.map (·.1)).eraseDups
  match d.kind with
  | .record _ =>
    match names (classes.ancestors d) with
    | [] => .ok false
    | ns => .error (.call (.named (d.qualifier ++ ".__init__") ns))
  | .validated =>
    match (names (classes.ancestors d)).filter (!Text.startsWith "_" ·) with
    | [] => .ok true
    | ns => .error (.invalid (ns.map fun n => ⟨[.str n], "missing"⟩))
  | .namedTuple | .untypedTuple =>
    match names [d] with
    | [] => .ok true
    | ns => .error (.call (.named (d.name ++ ".__new__") ns))
  | .dictionary => .ok false
  | .enumeration _ _ => .error (.call (.named "EnumType.__call__" ["value"]))
  | .other base => .ok (base = "list" || base = "set")

namespace Ty

/-- Can the type be called at all? -/
def isCallable : Ty → Bool
  | .absent | .ellipsis | .plain _ | .bars _ | .params _ | .forward _ => false
  | .thing kind _ => kind = "builtin_function_or_method"
  | _ => true

/-- Is what the type makes a collection, which then holds nothing? -/
def instanceIsCollection (classes : Registry) : Ty → Except Fault Bool
  | .any => .error (.call .anything)
  | .scalar s => s.instanceOf
  | .bare g | .applied g _ => g.instanceOf
  | .declared k | .declaredOf k _ _ =>
    match classes.find? k with
    | some d => d.instanceOf classes
    | none => .ok false
  | .annotated b _ => instanceIsCollection classes b
  | .union _ => .error (.call (.form "typing.Union"))
  | .literal _ => .error (.call (.form "typing.Literal"))
  | .newtype _ _ _ => .error (.call (.exactlyOne "_typing._idfunc"))
  | .function _ _ _ => (Generic.mk .abstract "Callable").instanceIsCollection
  | _ => .ok false

end Ty

end RouteAtlas
