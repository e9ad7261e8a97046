import RouteAtlas.Type.Question

/-! The names types go by: a short one for schemas, a full one for identity, and the text of unions.
-/

namespace RouteAtlas

def Scalar.name : Scalar → String
  | .str => "str"
  | .bool => "bool"
  | .int => "int"
  | .float => "float"
  | .decimal => "Decimal"
  | .bytes => "bytes"
  | .bytearray => "bytearray"
  | .datetime => "datetime"
  | .date => "date"
  | .time => "time"
  | .timedelta => "timedelta"
  | .uuid => "UUID"
  | .object => "object"
  | .complex => "complex"

/-- The module a scalar type is taken from. -/
def Scalar.home : Scalar → String
  | .decimal => "decimal"
  | .datetime | .date | .time | .timedelta => "datetime"
  | .uuid => "uuid"
  | _ => "builtins"

/-- A name with its module, which is left out for names that are always there. -/
def qualified (home name : String) : String :=
  if home = "builtins" then name else home ++ "." ++ name

namespace Ty

/-- A union of two members, one of them the null type. -/
def isPlainOptional (ms : List Ty) : Bool := ms.length = 2 && ms.any isNothing

def declText (classes : Registry) (key : String) : String :=
  match classes.find? key with
  | some d => qualified d.module d.qualifier
  | none => key

mutual

/-- A type as it is written in an expression. -/
def written (classes : Registry) : Ty → String
  | .absent => "None"
  | .nothing => "NoneType"
  | .any => "typing.Any"
  | .ellipsis => "..."
  | .scalar s => qualified s.home s.name
  | .bare g => qualified g.home g.name
  | .applied g ts => qualified g.home g.name ++ "[" ++ writtenArgs classes ts ++ "]"
  | .declared k => declText classes k
  | .declaredOf k _ ts => declText classes k ++ "[" ++ writtenArgs classes ts ++ "]"
  | .forward n => "ForwardRef(" ++ Text.quoted n ++ ")"
  | .plain v => v.literal
  | .thing _ shown => shown
  | .union ms =>
    if isPlainOptional ms then "typing.Optional[" ++ writtenFirst classes ms ++ "]"
    else "typing.Union[" ++ writtenList classes ms ++ "]"
  | .bars ms => writtenBars classes ms
  | .annotated b ns =>
    "typing.Annotated[" ++ written classes b ++ ", " ++ Value.literals ns ++ "]"
  | .literal vs => "typing.Literal[" ++ (if vs.isEmpty then "()" else Value.literals vs) ++ "]"
  | .newtype n _ _ => "app." ++ n
  | .function f [.ellipsis] r =>
    (Generic.mk f "Callable").home ++ ".Callable[..., " ++ written classes r ++ "]"
  | .function f ps r =>
    (Generic.mk f "Callable").home ++ ".Callable[[" ++ writtenList classes ps ++ "], " ++
      written classes r ++ "]"
  | .params ts => "[" ++ writtenList classes ts ++ "]"

def writtenArgs (classes : Registry) : List Ty → String
  | [] => "()"
  | t :: ts => writtenList classes (t :: ts)

def writtenList (classes : Registry) : List Ty → String
  | [] => ""
  | [t] => written classes t
  | t :: ts => written classes t ++ ", " ++ writtenList classes ts

/-- The first member that is not the null type. -/
def writtenFirst (classes : Registry) : List Ty → String
  | [] => ""
  | t :: ts => if isNothing t then writtenFirst classes ts else written classes t

/-- Members with bars between them. -/
def writtenBars (classes : Registry) : List Ty → String
  | [] => ""
  | [t] => if isNothing t then "None" else written classes t
  | t :: ts =>
    (if isNothing t then "None" else written classes t) ++ " | " ++ writtenBars classes ts

end

/-- A class as it is shown by itself. -/
def shownClass (name : String) : String := "<class '" ++ name ++ "'>"

/-- A type as it is shown by itself: a class as one, all else as it is written. -/
def shown (classes : Registry) (t : Ty) : String :=
  match t with
  | .nothing => shownClass "NoneType"
  | .ellipsis => "Ellipsis"
  | .scalar s => shownClass (qualified s.home s.name)
  | .bare g =>
    if g.family = .alias then t.written classes
    else shownClass (qualified g.home g.name)
  | .declared k =>
    match classes.find? k with
    | some ⟨_, .enumeration b _, name, _, _, _, _, _⟩ =>
      "<" ++ (if b.isFlag then "flag '" else "enum '") ++ name ++ "'>"
    | _ => shownClass (declText classes k)
  | t => t.written classes

/-- The short name. -/
def simpleName (classes : Registry) (t : Ty) : String :=
  match t.core with
  | .any => "Any"
  | .ellipsis => "Ellipsis"
  | .scalar s => s.name
  | .bare g => g.name
  | .applied g _ => g.name
  | .declared k => ((classes.find? k).map ClassDecl.name).getD k
  | .declaredOf k _ _ => ((classes.find? k).map ClassDecl.name).getD k
  | .plain v => v.text
  | .union ms => if isPlainOptional ms then "Optional" else "Union"
  | .literal _ => "Literal"
  | .newtype n _ _ => n
  | .function _ _ _ => "Callable"
  | c => c.written classes

/-- The full name, by which types are told apart. -/
def fullName (classes : Registry) (t : Ty) : String :=
  match t.core with
  | .nothing => "builtins.NoneType"
  | .ellipsis => "Ellipsis"
  | .scalar s => s.home ++ "." ++ s.name
  | .bare g => g.home ++ "." ++ g.name
  | .applied g _ => g.home ++ "." ++ g.name
  | .declared k => ((classes.find? k).map ClassDecl.identity).getD k
  | .declaredOf k _ _ => ((classes.find? k).map ClassDecl.identity).getD k
  | .plain v => v.text
  | .union ms => if isPlainOptional ms then "typing.Optional" else "typing.Union"
  | .literal _ => "typing.Literal"
  | .newtype n _ _ => "app." ++ n
  | .function f _ _ => (Generic.mk f "Callable").home ++ ".Callable"
  | c => c.written classes

end Ty

end RouteAtlas
