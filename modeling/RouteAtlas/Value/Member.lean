/-! The names that values of a kind answer to. -/

namespace RouteAtlas

/-- The names that every value answers to. -/
def commonMembers : List String := [
  "__class__", "__delattr__", "__dir__", "__doc__", "__eq__", "__format__", "__ge__",
  "__getattribute__", "__getstate__", "__gt__", "__hash__", "__init__", "__init_subclass__",
  "__le__", "__lt__", "__ne__", "__new__", "__reduce__", "__reduce_ex__", "__repr__",
  "__setattr__", "__sizeof__", "__str__", "__subclasshook__"]

/-- The further names that values of a kind answer to. -/
def ownMembers (kind : String) : List String :=
  match kind with
  | "type" => [
    "__annotations__", "__base__", "__bases__", "__basicsize__", "__call__", "__dict__",
    "__dictoffset__", "__flags__", "__instancecheck__", "__itemsize__", "__module__", "__mro__",
    "__name__", "__or__", "__prepare__", "__qualname__", "__ror__", "__subclasscheck__",
    "__subclasses__", "__text_signature__", "__weakrefoffset__", "mro"]
  | "int" | "bool" => [
    "__abs__", "__add__", "__and__", "__bool__", "__ceil__", "__divmod__", "__float__", "__floor__",
    "__floordiv__", "__getnewargs__", "__index__", "__int__", "__invert__", "__lshift__", "__mod__",
    "__mul__", "__neg__", "__or__", "__pos__", "__pow__", "__radd__", "__rand__", "__rdivmod__",
    "__rfloordiv__", "__rlshift__", "__rmod__", "__rmul__", "__ror__", "__round__", "__rpow__",
    "__rrshift__", "__rshift__", "__rsub__", "__rtruediv__", "__rxor__", "__sub__", "__truediv__",
    "__trunc__", "__xor__", "as_integer_ratio", "bit_count", "bit_length", "conjugate",
    "denominator", "from_bytes", "imag", "numerator", "real", "to_bytes"]
  | "float" => [
    "__abs__", "__add__", "__bool__", "__ceil__", "__divmod__", "__float__", "__floor__",
    "__floordiv__", "__getformat__", "__getnewargs__", "__int__", "__mod__", "__mul__", "__neg__",
    "__pos__", "__pow__", "__radd__", "__rdivmod__", "__rfloordiv__", "__rmod__", "__rmul__",
    "__round__", "__rpow__", "__rsub__", "__rtruediv__", "__sub__", "__truediv__", "__trunc__",
    "as_integer_ratio", "conjugate", "fromhex", "hex", "imag", "is_integer", "real"]
  | "complex" => [
    "__abs__", "__add__", "__bool__", "__complex__", "__getnewargs__", "__mul__", "__neg__",
    "__pos__", "__pow__", "__radd__", "__rmul__", "__rpow__", "__rsub__", "__rtruediv__", "__sub__",
    "__truediv__", "conjugate", "imag", "real"]
  | "str" => [
    "__add__", "__contains__", "__getitem__", "__getnewargs__", "__iter__", "__len__", "__mod__",
    "__mul__", "__rmod__", "__rmul__", "capitalize", "casefold", "center", "count", "encode",
    "endswith", "expandtabs", "find", "format", "format_map", "index", "isalnum", "isalpha",
    "isascii", "isdecimal", "isdigit", "isidentifier", "islower", "isnumeric", "isprintable",
    "isspace", "istitle", "isupper", "join", "ljust", "lower", "lstrip", "maketrans", "partition",
    "removeprefix", "removesuffix", "replace", "rfind", "rindex", "rjust", "rpartition", "rsplit",
    "rstrip", "split", "splitlines", "startswith", "strip", "swapcase", "title", "translate",
    "upper", "zfill"]
  | "bytes" => [
    "__add__", "__bytes__", "__contains__", "__getitem__", "__getnewargs__", "__iter__", "__len__",
    "__mod__", "__mul__", "__rmod__", "__rmul__", "capitalize", "center", "count", "decode",
    "endswith", "expandtabs", "find", "fromhex", "hex", "index", "isalnum", "isalpha", "isascii",
    "isdigit", "islower", "isspace", "istitle", "isupper", "join", "ljust", "lower", "lstrip",
    "maketrans", "partition", "removeprefix", "removesuffix", "replace", "rfind", "rindex", "rjust",
    "rpartition", "rsplit", "rstrip", "split", "splitlines", "startswith", "strip", "swapcase",
    "title", "translate", "upper", "zfill"]
  | "bytearray" => [
    "__add__", "__alloc__", "__contains__", "__delitem__", "__getitem__", "__iadd__", "__imul__",
    "__iter__", "__len__", "__mod__", "__mul__", "__rmod__", "__rmul__", "__setitem__", "append",
    "capitalize", "center", "clear", "copy", "count", "decode", "endswith", "expandtabs", "extend",
    "find", "fromhex", "hex", "index", "insert", "isalnum", "isalpha", "isascii", "isdigit",
    "islower", "isspace", "istitle", "isupper", "join", "ljust", "lower", "lstrip", "maketrans",
    "partition", "pop", "remove", "removeprefix", "removesuffix", "replace", "reverse", "rfind",
    "rindex", "rjust", "rpartition", "rsplit", "rstrip", "split", "splitlines", "startswith",
    "strip", "swapcase", "title", "translate", "upper", "zfill"]
  | "list" => [
    "__add__", "__class_getitem__", "__contains__", "__delitem__", "__getitem__", "__iadd__",
    "__imul__", "__iter__", "__len__", "__mul__", "__reversed__", "__rmul__", "__setitem__",
    "append", "clear", "copy", "count", "extend", "index", "insert", "pop", "remove", "reverse",
    "sort"]
  | "tuple" => [
    "__add__", "__class_getitem__", "__contains__", "__getitem__", "__getnewargs__", "__iter__",
    "__len__", "__mul__", "__rmul__", "count", "index"]
  | "dict" => [
    "__class_getitem__", "__contains__", "__delitem__", "__getitem__", "__ior__", "__iter__",
    "__len__", "__or__", "__reversed__", "__ror__", "__setitem__", "clear", "copy", "fromkeys",
    "get", "items", "keys", "pop", "popitem", "setdefault", "update", "values"]
  | "set" => [
    "__and__", "__class_getitem__", "__contains__", "__iand__", "__ior__", "__isub__", "__iter__",
    "__ixor__", "__len__", "__or__", "__rand__", "__ror__", "__rsub__", "__rxor__", "__sub__",
    "__xor__", "add", "clear", "copy", "difference", "difference_update", "discard", "intersection",
    "intersection_update", "isdisjoint", "issubset", "issuperset", "pop", "remove",
    "symmetric_difference", "symmetric_difference_update", "union", "update"]
  | "frozenset" => [
    "__and__", "__class_getitem__", "__contains__", "__iter__", "__len__", "__or__", "__rand__",
    "__ror__", "__rsub__", "__rxor__", "__sub__", "__xor__", "copy", "difference", "intersection",
    "isdisjoint", "issubset", "issuperset", "symmetric_difference", "union"]
  | "NoneType" => [
    "__bool__"]
  | "function" => [
    "__annotations__", "__builtins__", "__call__", "__closure__", "__code__", "__defaults__",
    "__dict__", "__get__", "__globals__", "__kwdefaults__", "__module__", "__name__",
    "__qualname__"]
  | "builtin_function_or_method" => [
    "__call__", "__module__", "__name__", "__qualname__", "__self__", "__text_signature__"]
  | "list_iterator" => [
    "__iter__", "__length_hint__", "__next__", "__setstate__"]
  | "range" => [
    "__bool__", "__contains__", "__getitem__", "__iter__", "__len__", "__reversed__", "count",
    "index", "start", "step", "stop"]
  | _ => []

def hasMember (kind name : String) : Bool :=
  commonMembers.contains name || (ownMembers kind).contains name

end RouteAtlas
