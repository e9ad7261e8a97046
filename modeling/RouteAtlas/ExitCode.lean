/-! The codes with which the program ends when it gives up. -/

namespace RouteAtlas

inductive ExitCode where
  | failure
  | usage
  | routeLoad
  | documentLoad
  | unsupportedMethod
  | schemaCollision
deriving DecidableEq, Repr

def ExitCode.number : ExitCode → Nat
  | .failure => 1
  | .usage => 2
  | .routeLoad => 3
  | .documentLoad => 4
  | .unsupportedMethod => 5
  | .schemaCollision => 6

end RouteAtlas
