import RouteAtlas.Module.Parts
import RouteAtlas.Text.Lines

/-!
What things answer to a name: their parts, the methods of their kind, and the names that everything
has. A method stands for what it returns.
-/

namespace RouteAtlas

namespace Exposed

/-- The kind of those methods that are no functions of their own. -/
def methodKind : String := "builtin_function_or_method"

def method (result : Exposed) : Exposed := .maker methodKind result

def refused (f : CallFault) : Exposed := .blocked methodKind (.call f)

/-- What a method returns, or why it fails. -/
def methodOr (f : CallFault) : Option Exposed → Exposed
  | some e => method e
  | none => refused f

/-- The class of the values of a kind. -/
def classOf? (kind : String) : Option Ty :=
  match kind with
  | "list" | "tuple" | "dict" | "set" | "frozenset" => some (.bare ⟨.builtin, kind⟩)
  | "str" => some (.scalar .str)
  | "int" => some (.scalar .int)
  | "bool" => some (.scalar .bool)
  | "float" => some (.scalar .float)
  | "bytes" => some (.scalar .bytes)
  | "NoneType" => some .nothing
  | _ => none

/-- What all things of a kind answer to a name. -/
def common? (kind name : String) : Option Exposed :=
  if name = "__dir__" then some (method (.row .list [text name]))
  else if name = "__class__" then
    some (((classOf? kind).map .type).getD (.maker "type" (other kind)))
  else match lack? kind name with
    | some f => some (refused f)
    | none => if hasMember kind name then some (method (other "object")) else none

def rowMember? (kind : RowKind) (items : List Exposed) (name : String) : Option Exposed :=
  match kind, name with
  | _, "__iter__" => some (method (.row .iterator items))
  | .list, "copy" => some (method (.row .list items))
  | .list, "__reversed__" => some (method (.row .iterator items.reverse))
  | .list, "pop" => some (methodOr .emptyRow items.getLast?)
  | .tuple, "__getnewargs__" => some (method (.row .tuple [.row .tuple items]))
  | .iterator, "__next__" => some (methodOr .exhausted items.head?)
  | .iterator, "__class__" => some (.blocked "type" (.call (.notCreatable kind.word)))
  | .iterator, "__reduce__" => some (method (.row .tuple [other methodKind]))
  | _, _ => none

def textMember? (s name : String) : Option Exposed :=
  match name with
  | "__iter__" =>
    some (method (.row .iterator (s.toList.map fun c => text (String.singleton c))))
  | "split" | "rsplit" => some (method (.row .list ((Text.words s).map text)))
  | "splitlines" => some (method (.row .list ((Text.lines s).map text)))
  | "__getnewargs__" => some (method (texts [s]))
  | _ => none

def mappingMember? (es : List (Value × Value)) (name : String) : Option Exposed :=
  let keys : List Exposed := es.map (.plain ·.1)
  let pair (e : Value × Value) : Exposed := .row .tuple [.plain e.1, .plain e.2]
  match name with
  | "keys" | "__iter__" => some (method (.row .iterator keys))
  | "__reversed__" => some (method (.row .iterator keys.reverse))
  | "values" => some (method (.row .iterator (es.map (.plain ·.2))))
  | "items" => some (method (.row .iterator (es.map pair)))
  | "popitem" => some (methodOr .emptyMapping (es.getLast?.map pair))
  | "copy" => some (method (.plain (.map es)))
  | _ => none

/-- A number is its own real part. -/
def numberMember? (v : Value) (name : String) : Option Exposed :=
  match name with
  | "as_integer_ratio" => some (method (.row .tuple [.plain (.int 1), .plain (.int 1)]))
  | "__getnewargs__" =>
    some (method (.row .tuple [match v with
      | .float _ => .plain v
      | _ => .plain (.int 1)]))
  | "real" | "numerator" => some (.plain v)
  | "imag" | "denominator" => some (.plain (.int 1))
  | _ => none

def valueMember? (v : Value) (name : String) : Option Exposed :=
  match v with
  | .list vs => rowMember? .list (vs.map .plain) name
  | .str s => textMember? s name
  | .map es => mappingMember? es name
  | .int _ | .bool _ | .float _ => numberMember? v name
  | _ => none

/-- What is called is a part of what calls it. -/
def callableMember? (e : Exposed) (kind name : String) : Option Exposed :=
  match name with
  | "__call__" => some (match e with
    | .maker _ r => .maker "method-wrapper" r
    | .blocked _ f => .blocked "method-wrapper" f
    | e => e)
  | "__name__" | "__qualname__" | "__module__" => some (text "")
  | _ =>
    if kind = "function" then
      match name with
      | "__class__" => some (.blocked "type" (.call (.first "function()" "code")))
      | "__closure__" => some (.row .tuple [other "cell"])
      | "__code__" => some (other "code")
      | "__defaults__" | "__kwdefaults__" | "__doc__" => some (.plain .null)
      | "__annotations__" | "__builtins__" | "__dict__" | "__globals__" => some (.plain (.map []))
      | _ => none
    else none

def namespaceMember? (members : List (String × Exposed)) (name : String) : Option Exposed :=
  match name with
  | "__dict__" => some (.plain (.map (members.map fun e => (.str e.1, .null))))
  | "__reduce__" => some (method (.row .tuple [other "type"]))
  | _ => none

/-- The types that a type was given. -/
def givenTypes : Ty → Option (List Ty)
  | .applied _ ts | .declaredOf _ _ ts | .union ts | .bars ts => some ts
  | .function _ ps r => some (ps ++ [r])
  | _ => none

/-- The kind of the instances of a class that has methods of its own. -/
def instanceKind : Ty → String
  | .bare g | .applied g _ => g.origin.name
  | .scalar s => s.name
  | _ => ""

/-- A class answers to the names of its instances, whose methods lack an instance then. -/
def typeMember? (classes : Registry) (t : Ty) (name : String) : Option Exposed :=
  let kind := instanceKind t
  match givenTypes t, name with
  | some ts, "__args__" => some (.row .tuple (ts.map ofType))
  | some _, "__parameters__" => some (.row .tuple [])
  | some _, "__origin__" => (match t with
    | .applied g _ => some (.type (.bare g.origin))
    | .declaredOf k _ _ => some (.type (.declared k))
    | _ => some (other ""))
  | _, "__class__" => some (.blocked "type" (.call .anyClass))
  | _, "__name__" | _, "__qualname__" | _, "__module__" | _, "__doc__" =>
    some (text (t.simpleName classes))
  | _, "__mro__" | _, "__bases__" => some (.row .tuple [other "type"])
  | _, "mro" => some (method (.row .list [other "type"]))
  | _, "__dict__" => some (.row .iterator [text name])
  | _, _ =>
    if !(ownMembers kind).contains name then none
    else some (refused (((lack? kind name).filter fun _ =>
      ["fromkeys", "maketrans", "from_bytes", "fromhex"].contains name).getD
        (.unbound kind name)))

def ownMember? (classes : Registry) (e : Exposed) (name : String) : Option Exposed :=
  match e with
  | .action a => (ofAction a).lookup name
  | .object "SimpleNamespace" ms => (ms.lookup name).or (namespaceMember? ms name)
  | .object _ ms => ms.lookup name
  | .row k items => rowMember? k items name
  | .plain v => valueMember? v name
  | .type t => typeMember? classes t name
  | .failing _ => callableMember? e "function" name
  | .maker k _ | .blocked k _ => callableMember? e k name

def member? (classes : Registry) (e : Exposed) (name : String) : Option Exposed :=
  (e.ownMember? classes name).or (common? (e.kindName classes) name)

/-- What is reached by one name after the other. -/
def follow? (classes : Registry) (e : Exposed) (path : List String) : Option Exposed :=
  path.foldlM (member? classes) e

end Exposed

/-- What a module answers to a name. -/
def Module.member? (m : Module) (name : String) : Option Exposed :=
  ((m.members.lookup name).or (match name with
    | "__name__" => some (Exposed.text m.name)
    | "__doc__" | "__loader__" | "__package__" | "__spec__" => some (.plain .null)
    | "__annotations__" => some (.plain (.map []))
    | "__dict__" => some (.plain (.map (m.members.map fun e => (.str e.1, .null))))
    | "__class__" => some (.blocked "type" (.call (.first "module()" "name")))
    | _ => none)).or (Exposed.common? "module" name)

/-- What a module has under a path of names. -/
def Module.follow? (classes : Registry) (m : Module) : List String → Option Exposed
  | [] => none
  | n :: path => (m.member? n).bind (Exposed.follow? classes · path)

end RouteAtlas
