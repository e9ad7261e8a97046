import RouteAtlas.Module.Member

/-! The route actions that a target such as `module:attribute` names. -/

namespace RouteAtlas

inductive RouteFault where
  | malformedTarget (target : String)
  /-- A module is not there; it would lie in a module that holds no others. -/
  | noModule (asked missing : String) (inside : Option String)
  | relativeModule (name : String)
  | noAttribute (module path : String)
  | notCollection (target : String)
  | foreignItem (target kind : String)
  /-- The function that should have returned the actions failed. -/
  | raised (f : Failure)
  /-- What should have returned the actions cannot be called without arguments. -/
  | notCalled (f : Fault)
deriving Repr

namespace RouteFault

def message (fault : RouteFault) (host : Host := {}) : String :=
  match fault with
  | .malformedTarget t => "Route target must look like 'module:attribute', got '" ++ t ++ "'"
  | .noModule asked missing inside =>
    "Cannot import module '" ++ asked ++ "': No module named '" ++ missing ++ "'" ++
      (inside.map fun p => "; '" ++ p ++ "' is not a package").getD ""
  | .relativeModule n =>
    "the 'package' argument is required to perform a relative import for '" ++ n ++ "'"
  | .noAttribute m p => "'" ++ m ++ "' has no attribute '" ++ p ++ "'"
  | .notCollection t => "'" ++ t ++ "' is not a collection of route actions"
  | .foreignItem t k => "'" ++ t ++ "' contains " ++ k ++ ", expected RouteAction"
  | .raised f => f.message
  | .notCalled f => f.message host

/-- The exit code of those faults that are reported as such. -/
def exitCode? : RouteFault → Option ExitCode
  | .relativeModule _ | .notCalled _ => none
  | .raised f => f.code
  | _ => some .routeLoad

end RouteFault

/-- The name without its last part, or nothing if it has only one. -/
def parentName? (name : String) : Option String :=
  match (Text.splitOn '.' name).dropLast with
  | [] => none
  | ps => some (Text.join "." ps)

namespace Modules

def find? (ms : Modules) (name : String) : Option Module := List.find? (·.name = name) ms

/-- Looks a module up, and first those it would lie in; `n` bounds how many these are. -/
def importFrom (ms : Modules) (asked : String) : Nat → String → Except RouteFault Module
  | 0, name => .error (.noModule asked name none)
  | n + 1, name =>
    match ms.find? name with
    | some m => .ok m
    | none =>
      match parentName? name with
      | none => .error (.noModule asked name none)
      | some parent => do
        let _ ← importFrom ms asked n parent
        throw (.noModule asked name (some parent))

def import? (ms : Modules) (name : String) : Except RouteFault Module :=
  if Text.startsWith "." name then .error (.relativeModule name)
  else importFrom ms name (name.length + 1) name

end Modules

/-- The actions of a row; anything else in it is refused. -/
def rowActions (classes : Registry) (target : String) :
    List Exposed → Except RouteFault (List Action)
  | [] => .ok []
  | .action a :: r => (rowActions classes target r).map (a :: ·)
  | e :: _ => .error (.foreignItem target (e.kindName classes))

/-- What comes of a call without arguments; what cannot be called stands for itself. -/
def Exposed.called (classes : Registry) : Exposed → Except RouteFault Exposed
  | .maker _ e => .ok e
  | .failing f => .error (.raised f)
  | .blocked _ f => .error (.notCalled f)
  | .type t =>
    if t.isCallable then
      match t.instanceIsCollection classes with
      | .ok true => .ok (.row .list [])
      | .ok false => .ok (.other "object")
      | .error f => .error (.notCalled f)
    else .ok (.type t)
  | e => .ok e

/-- The actions that a thing is or holds. -/
def Exposed.actions (classes : Registry) (target : String) (e : Exposed) :
    Except RouteFault (List Action) := do
  match ← e.called classes with
  | .action a => return [a]
  | .row _ items => rowActions classes target items
  | .plain (.list vs) => rowActions classes target (vs.map .plain)
  | _ => throw (.notCollection target)

/-- The actions that a target names. -/
def loadRoutes (classes : Registry) (ms : Modules) (target : String) :
    Except RouteFault (List Action) :=
  match Text.cut ':' target with
  | none => .error (.malformedTarget target)
  | some (name, path) =>
    if name = "" || path = "" then .error (.malformedTarget target)
    else do
      let m ← ms.import? name
      match m.follow? classes (Text.splitOn '.' path) with
      | none => throw (.noAttribute name path)
      | some e => e.actions classes target

end RouteAtlas
