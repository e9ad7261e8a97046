import RouteAtlas.Type.CallFault
import RouteAtlas.Value.Member

/-! What methods say when they are called without the arguments that they need. -/

namespace RouteAtlas

/-- The operators of sequences. -/
def repetitions : List String := ["__mul__", "__rmul__", "__imul__"]

/-- The methods of all values that want one other value. -/
def plainPairings : List String := [
  "__delattr__", "__eq__", "__ge__", "__getattribute__", "__gt__", "__le__", "__lt__", "__ne__"]

/-- The methods of a kind that want one other value. -/
def pairings (kind : String) : List String :=
  match kind with
  | "list" => ["__add__", "__contains__", "__delitem__", "__iadd__"]
  | "tuple" => ["__add__", "__contains__", "__getitem__"]
  | "str" => ["__add__", "__contains__", "__getitem__", "__mod__", "__rmod__"]
  | "dict" => ["__delitem__", "__ior__", "__or__", "__ror__"]
  | "int" | "bool" => [
    "__add__", "__and__", "__divmod__", "__floordiv__", "__lshift__", "__mod__", "__mul__",
    "__or__",
    "__radd__", "__rand__", "__rdivmod__", "__rfloordiv__", "__rlshift__", "__rmod__", "__rmul__",
    "__ror__", "__rrshift__", "__rshift__", "__rsub__", "__rtruediv__", "__rxor__", "__sub__",
    "__truediv__", "__xor__"]
  | "float" => [
    "__add__", "__divmod__", "__floordiv__", "__mod__", "__mul__", "__radd__", "__rdivmod__",
    "__rfloordiv__", "__rmod__", "__rmul__", "__rsub__", "__rtruediv__", "__sub__", "__truediv__"]
  | _ => []

/-- The methods of a kind that want exactly one argument and say so under their full name. -/
def singles (kind : String) : List String :=
  ["__format__", "__reduce_ex__"] ++ match kind with
    | "list" => ["__class_getitem__", "__getitem__", "append", "count", "extend", "remove"]
    | "tuple" => ["__class_getitem__", "count"]
    | "dict" => ["__class_getitem__", "__contains__", "__getitem__"]
    | "str" => [
      "format_map", "join", "partition", "removeprefix", "removesuffix", "rpartition", "translate",
      "zfill"]
    | "float" => ["__getformat__", "fromhex"]
    | "list_iterator" => ["__setstate__"]
    | _ => []

/-- How many arguments a method wants at least, if it tells them by its bare name. -/
def leastOf? (kind name : String) : Option Nat :=
  match kind, name with
  | "list", "index" | "tuple", "index" => some 1
  | "dict", "fromkeys" | "dict", "get" | "dict", "pop" | "dict", "setdefault" => some 1
  | "str", "center" | "str", "ljust" | "str", "rjust" | "str", "maketrans" => some 1
  | "str", "replace" => some 2
  | _, _ => none

/-- The searches in a text. -/
def searches : List String := [
  "count", "endswith", "find", "index", "rfind", "rindex", "startswith"]

/-- What a method of a kind lacks when it is called without arguments, if it needs some. -/
def lack? (kind name : String) : Option CallFault :=
  if plainPairings.contains name || (pairings kind).contains name then some (.counted none false 1)
  else if repetitions.contains name then some (.counted (some "") false 1)
  else if name = "__setattr__" || name = "__setitem__" then some (.counted (some "") false 2)
  else if name = "__pow__" || name = "__rpow__" || name = "__get__" then
    some (.counted (some "") true 1)
  else if (singles kind).contains name then some (.exactlyOne (kind ++ "." ++ name))
  else if kind = "str" && searches.contains name then some (.leastOne name)
  else match leastOf? kind name with
    | some n => some (.counted (some name) true n)
    | none =>
      match kind, name with
      | "list", "insert" => some (.counted (some name) false 2)
      | "int", "from_bytes" | "bool", "from_bytes" => some (.first (name ++ "()") "bytes")
      | "list_iterator", "__new__" => some (.noConstructorArgument "object")
      | _, "__new__" => some (.noConstructorArgument kind)
      | "list_iterator", "__reduce__" | "SimpleNamespace", "__reduce__" => none
      | _, "__reduce__" => some (.notSaveable kind)
      | _, _ => none

end RouteAtlas
