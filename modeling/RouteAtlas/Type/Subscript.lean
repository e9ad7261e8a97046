import RouteAtlas.Type.Name

/-!
Types with arguments in brackets. An alias and a generic class take types, as many as they have
parameters; any other class that takes arguments takes them as they stand.
-/

namespace RouteAtlas

/-- How many arguments an alias takes, if their number is fixed. -/
def aliasArity? (name : String) : Option Nat :=
  match name with
  | "Tuple" => none
  | "Hashable" | "Sized" | "ByteString" => some 0
  | "Dict" | "DefaultDict" | "OrderedDict" | "ChainMap" | "Mapping" | "MutableMapping" | "ItemsView"
  | "AsyncGenerator" => some 2
  | "Generator" | "Coroutine" => some 3
  | _ => some 1

/-- The classes of no module that take arguments. -/
def genericNames : List String := [
  "list", "tuple", "set", "frozenset", "dict", "type", "enumerate", "BaseExceptionGroup",
  "ExceptionGroup"]

/-- Refuses another number of arguments than there are parameters. -/
def checkArity (shown : String) (expected actual : Nat) : Except Fault Unit :=
  if expected = 0 then .error (.type (.notGeneric shown))
  else if actual = expected then .ok ()
  else .error (.type (.arity (actual < expected) shown actual expected))

/-- The name by which a class without arguments is told. -/
def Scalar.tag (s : Scalar) : String :=
  match s with
  | .uuid => s.name
  | s => qualified s.home s.name

/-- A member of an enumeration as it is shown. -/
def memberShown (enumeration name : String) (v : Value) : String :=
  "<" ++ enumeration ++ "." ++ name ++ ": " ++ v.literal ++ ">"

namespace Ty

/-- The values that a type is limited to: no value stands twice, unless one of them cannot be a key.
-/
def literals (vs : List Value) : List Value :=
  if (noteKind? vs).isSome then vs
  else vs.foldl (fun seen v => if sameLiteral seen v then seen else seen ++ [v]) []

/-- The parameters of a function, of which one that is no list stands alone. -/
def parameters : Ty → Except Fault (List Ty)
  | .params ts => ts.mapM converted
  | .ellipsis => .ok [.ellipsis]
  | t => do return [← converted t]

/-- An alias with arguments, each of which is a type. -/
def aliasOf (classes : Registry) (name : String) (args : List Ty) : Except Fault Ty :=
  if name = "Callable" then
    match args with
    | [ps, r] => do
      let r ← converted r
      return .function .alias (← ps.parameters) r
    | _ => .error (.type .functionForm)
  else do
    let args ← args.mapM converted
    match aliasArity? name with
    | some n => checkArity ((Ty.bare ⟨.alias, name⟩).shown classes) n args.length
    | none => pure ()
    return .applied ⟨.alias, name⟩ args

/-- An abstract class with arguments. -/
def abstractOf (classes : Registry) (name : String) (args : List Ty) : Except Fault Ty :=
  match name, args with
  | "Callable", [.params ps, r] => .ok (.function .abstract ps r)
  | "Callable", [.ellipsis, r] => .ok (.function .abstract [.ellipsis] r)
  | "Callable", [t, _] =>
    .error (.type (.functionParameters (match t with
      | .plain v => v.text
      | t => t.shown classes)))
  | "Callable", _ => .error (.type .functionForm)
  | "Hashable", _ | "Sized", _ => .error (.type (.classWithoutParts name))
  | _, _ => .ok (.applied ⟨.abstract, name⟩ args)

/-- The member that an enumeration has under a name. -/
def memberOf (classes : Registry) (d : ClassDecl) (b : MemberBase)
    (entries : List (String × Value)) (args : List Ty) : Except Fault Ty :=
  match unhashables? args, args with
  | some kind, _ => .error (.unhashable kind)
  | none, [.plain (.str n)] =>
    match entries.lookup n with
    | some v => .ok (.thing d.name (memberShown d.name n (b.convert v)))
    | none => .error (.type (.unknownMember (Text.quoted n)))
  | none, [t] => .error (.type (.unknownMember (t.shown classes)))
  | none, ts =>
    .error (.type (.unknownMember ("(" ++ Text.join ", " (ts.map (shown classes)) ++ ")")))

/-- A declared class with arguments. -/
def declaredWith (classes : Registry) (d : ClassDecl) (args : List Ty) : Except Fault Ty :=
  let shown := (Ty.declared d.key).shown classes
  let isGeneric (d : ClassDecl) : Bool := match d.kind with
    | .record generic => generic
    | _ => false
  match d.kind with
  | .validated => .error (.type (.notParametrized shown))
  | .dictionary | .namedTuple | .untypedTuple =>
    .ok (.declaredOf d.key false args)
  | .other base =>
    if ["list", "dict", "set"].contains base then .ok (.declaredOf d.key false args)
    else .error (.type (.classWithoutParts d.name))
  | .enumeration b entries => memberOf classes d b entries args
  | _ =>
    if (classes.ancestors d).any isGeneric then do
      let args ← args.mapM converted
      checkArity shown (if isGeneric d then 1 else 0) args.length
      return .declaredOf d.key true args
    else .error (.type (.classWithoutParts d.name))

/-- A type with arguments in brackets. -/
def subscript (classes : Registry) (t : Ty) (args : List Ty) : Except Fault Ty :=
  match t with
  | .bare g =>
    match g.family with
    | .alias => aliasOf classes g.name args
    | .abstract => abstractOf classes g.name args
    | .collection => .ok (.applied g args)
    | .builtin =>
      if genericNames.contains g.name then .ok (.applied g args)
      else .error (.type (.classWithoutParts g.name))
  | .declared k =>
    match classes.find? k with
    | some d => declaredWith classes d args
    | none => .error (.type (.classWithoutParts k))
  | .scalar s => .error (.type (.classWithoutParts s.tag))
  | .any => .error (.type (.classWithoutParts "Any"))
  | .nothing => .error (.type (.classWithoutParts "NoneType"))
  | .absent | .ellipsis | .plain _ | .thing _ _ | .newtype _ _ _ | .forward _ | .params _ =>
    .error (.type (.valueWithoutParts (t.operandKind classes)))
  | t => .error (.type (.notGeneric (t.written classes)))

end Ty

end RouteAtlas
