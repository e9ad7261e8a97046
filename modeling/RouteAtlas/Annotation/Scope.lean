import RouteAtlas.Type.Subscript
import RouteAtlas.Value.Member

/-!
The names that an annotation can use: those of its module and of the class that it stands in, and
the names that are known everywhere.
-/

namespace RouteAtlas

/-- The classes of no module that stand for no type of their own in documents. -/
def otherClasses : List String := [
  "list", "tuple", "set", "frozenset", "dict", "type", "enumerate", "range", "slice", "memoryview",
  "property", "super", "staticmethod", "classmethod", "map", "filter", "zip", "reversed",
  "ArithmeticError", "AssertionError", "AttributeError", "BaseException", "BaseExceptionGroup",
  "BlockingIOError", "BrokenPipeError", "BufferError", "BytesWarning", "ChildProcessError",
  "ConnectionAbortedError", "ConnectionError", "ConnectionRefusedError", "ConnectionResetError",
  "DeprecationWarning", "EOFError", "EncodingWarning", "Exception", "ExceptionGroup",
  "FileExistsError", "FileNotFoundError", "FloatingPointError", "FutureWarning", "GeneratorExit",
  "ImportError", "ImportWarning", "IndentationError", "IndexError", "InterruptedError",
  "IsADirectoryError", "KeyError", "KeyboardInterrupt", "LookupError", "MemoryError",
  "ModuleNotFoundError", "NameError", "NotADirectoryError", "NotImplementedError", "OSError",
  "OverflowError", "PendingDeprecationWarning", "PermissionError", "ProcessLookupError",
  "RecursionError", "ReferenceError", "ResourceWarning", "RuntimeError", "RuntimeWarning",
  "StopAsyncIteration", "StopIteration", "SyntaxError", "SyntaxWarning", "SystemError",
  "SystemExit",
  "TabError", "TimeoutError", "TypeError", "UnboundLocalError", "UnicodeDecodeError",
  "UnicodeEncodeError", "UnicodeError", "UnicodeTranslateError", "UnicodeWarning", "UserWarning",
  "ValueError", "Warning", "ZeroDivisionError"]

/-- The functions that are known everywhere. -/
def knownFunctions : List String := [
  "abs", "aiter", "all", "anext", "any", "ascii", "bin", "breakpoint", "callable", "chr", "compile",
  "delattr", "dir", "divmod", "eval", "exec", "format", "getattr", "globals", "hasattr", "hash",
  "hex",
  "id", "input", "isinstance", "issubclass", "iter", "len", "locals", "max", "min", "next", "oct",
  "open", "ord", "pow", "print", "repr", "round", "setattr", "sorted", "sum", "vars",
  "__build_class__", "__import__"]

/-- The scalar types whose names are known everywhere. -/
def knownScalar? (name : String) : Option Scalar :=
  match name with
  | "str" => some .str
  | "int" => some .int
  | "bool" => some .bool
  | "float" => some .float
  | "bytes" => some .bytes
  | "bytearray" => some .bytearray
  | "object" => some .object
  | "complex" => some .complex
  | _ => none

/-- What a name that is known everywhere stands for. -/
def knownName? (name : String) : Option Ty :=
  match knownScalar? name with
  | some s => some (.scalar s)
  | none =>
    if otherClasses.contains name then some (.bare ⟨.builtin, name⟩)
    else if knownFunctions.contains name then
      some (.thing "builtin_function_or_method" ("<built-in function " ++ name ++ ">"))
    else match name with
      | "IOError" | "EnvironmentError" => some (.bare ⟨.builtin, "OSError"⟩)
      | "Ellipsis" => some .ellipsis
      | "NotImplemented" => some (.thing "NotImplementedType" name)
      | "__debug__" => some (.plain (.bool true))
      | "exit" | "quit" =>
        some (.thing "Quitter" ("Use " ++ name ++ "() or Ctrl-D (i.e. EOF) to exit"))
      | "copyright" | "credits" | "license" => some (.thing "_Printer" name)
      | "help" => some (.thing "_Helper" name)
      | _ => none

namespace ClassDecl

/-- What is known by a name inside the class itself. -/
def ownName? (d : ClassDecl) (name : String) : Option Ty :=
  match name with
  | "__module__" => some (.plain (.str d.module))
  | "__doc__" => some ((d.doc.map fun s => Ty.plain (.str s)).getD .absent)
  | _ =>
    match d.kind with
    | .namedTuple | .untypedTuple =>
      if d.fields.any (·.1 = name) then some (.thing "_tuplegetter" name) else none
    | .enumeration b entries =>
      (entries.lookup name).map fun v => .thing d.name (memberShown d.name name (b.convert v))
    | _ => none

end ClassDecl

/-- What is known by a name in a module: its classes, and what every module says of itself. -/
def Registry.moduleName? (classes : Registry) (module name : String) : Option Ty :=
  match classes.named? module name with
  | some d => some (.declared d.key)
  | none =>
    match name with
    | "__name__" => some (.plain (.str module))
    | "__doc__" | "__package__" | "__loader__" | "__spec__" => some .absent
    | _ => none

/-- Where an annotation stands: which classes there are, and what names stand for. -/
structure Scope where
  classes : Registry
  lookup : String → Option Ty

/-- The names that the annotations of a class can use. Where they are looked up one by one, the
class comes before its module. -/
def ClassDecl.scope (classes : Registry) (d : ClassDecl) : Scope where
  classes := classes
  lookup name :=
    let inModule (_ : Unit) := classes.moduleName? d.module name
    let inClass (_ : Unit) := d.ownName? name
    match d.kind with
    | .validated =>
      (((inClass ()).orElse fun _ => if name = d.name then some (.declared d.key) else none).orElse
        inModule).orElse fun _ => knownName? name
    | _ => ((inModule ()).orElse inClass).orElse fun _ => knownName? name

end RouteAtlas
