import RouteAtlas.Fault

/-! The whole number that a value stands for. -/

namespace RouteAtlas.Value

/-- The whole number that a number, without its fraction, or a text stands for. -/
def toInteger (v : Value) : Except Fault Int :=
  match v with
  | .bool b => .ok (if b then 1 else 0)
  | .int n => .ok n
  | .float x =>
    match Value.floatTrunc? x with
    | some n => .ok n
    | none => .error (.notNumeric "float")
  | .str s =>
    match Text.integer? s with
    | some n => .ok n
    | none => .error (.badInteger 10 (Text.quoted s))
  | v => .error (.notNumeric v.kindName)

end RouteAtlas.Value
