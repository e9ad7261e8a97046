import RouteAtlas.ExitCode
import RouteAtlas.Module.Method
import RouteAtlas.Route.Action
import RouteAtlas.Type.Instance

/-! Modules, and what they expose under a name. -/

namespace RouteAtlas

/-- The kinds of rows whose items can be gone through. -/
inductive RowKind where
  | list
  | tuple
  | iterator
deriving DecidableEq, Repr

def RowKind.word : RowKind → String
  | .list => "list"
  | .tuple => "tuple"
  | .iterator => "list_iterator"

/-- How a function of a module fails: what its failure is called and says, and the exit code that it
carries if it is one of those that the program itself reports. -/
structure Failure where
  kind : String
  message : String
  code : Option ExitCode
deriving DecidableEq, Repr

/-- What stands under a name. -/
inductive Exposed where
  | action (a : Action)
  | row (kind : RowKind) (items : List Exposed)
  /-- A function without arguments, and what it returns. -/
  | maker (kind : String) (result : Exposed)
  /-- A function that fails as its module says. -/
  | failing (f : Failure)
  /-- A function that cannot be called without arguments, or fails when it is. -/
  | blocked (kind : String) (f : Fault)
  /-- A thing with names of its own that can be neither called nor gone through. -/
  | object (kind : String) (members : List (String × Exposed))
  | plain (v : Value)
  | type (t : Ty)

structure Module where
  name : String
  members : List (String × Exposed)

abbrev Modules := List Module

namespace Exposed

def kindName (classes : Registry) : Exposed → String
  | .action _ => "RouteAction"
  | .row k _ => k.word
  | .failing _ => "function"
  | .maker k _ | .blocked k _ => k
  | .object k _ => k
  | .plain v => v.kindName
  | .type t => t.operandKind classes

end Exposed

end RouteAtlas
