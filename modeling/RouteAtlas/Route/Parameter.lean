import RouteAtlas.Document.Checked
import RouteAtlas.Document.Basic
import RouteAtlas.Route.Datum
import RouteAtlas.Route.Render
import RouteAtlas.Type.DataType

/-! Rules for query strings and headers, and the parameters that rules document. -/

namespace RouteAtlas

/-- Leaves joined by and, by or, or marked with notes. -/
inductive ParamRule (α : Type) where
  | leaf (a : α)
  /-- Documents nothing. -/
  | empty
  /-- A value that is no rule; it documents nothing. -/
  | foreign (v : Value)
  | both (left right : ParamRule α)
  | either (left right : ParamRule α)
  | noted (rule : ParamRule α) (note : Note)
deriving Inhabited, Repr

structure QueryLeaf where
  name : Value
  ty : Ty
  default : Datum
  /-- Is the parameter required? Null leaves it to the default. -/
  required : Value
deriving Inhabited, Repr

/-- A header that is read as a type; one that is only required or mapped is read as text. -/
inductive HeaderLeaf where
  | capture (name : Value) (ty : Ty)
  | require (name : Value)
  | mapper (name : Value)
deriving Inhabited, Repr

abbrev QueryRule := ParamRule QueryLeaf

abbrev HeaderRule := ParamRule HeaderLeaf

namespace SimpleParameter

/-- Adds a note behind the description. -/
def append (p : SimpleParameter) (note : String) : SimpleParameter :=
  { p with
    description := .str
      (if p.description.isTrue then p.description.text ++ " " ++ note else note) }

/-- The names that are not empty, as one list. -/
def nameList (ps : List SimpleParameter) : String :=
  Text.join ", " (ps.filterMap fun p => p.name.filter (· ≠ ""))

def orNote (others : List SimpleParameter) (kind : String) : String :=
  "Optional if the following " ++ kind ++ " are satisfied: [" ++ nameList others ++ "]"

/-- Marks parameters as optional where the others are satisfied; of two sides one may be empty. -/
def annotateOr (ps others : List SimpleParameter) (kind : String) : List SimpleParameter :=
  if others.isEmpty then ps
  else if ps.isEmpty then others
  else ps.map (·.append (orNote others kind))

/-- The parameters of two alternatives. -/
def alternatives (left right : List SimpleParameter) (kind : String) : List SimpleParameter :=
  if left.isEmpty then right
  else if right.isEmpty then left
  else annotateOr left right kind ++ annotateOr right left kind

end SimpleParameter

namespace ParamRule

/-- What rules for one part of a request, and its leaves, are called. -/
structure Wording (α : Type) where
  family : String
  leafName : α → String
  emptyName : String

/-- The kind of a rule, or of the value in its place. -/
def kindName {α : Type} (w : Wording α) : ParamRule α → String
  | .leaf a => w.leafName a
  | .empty => w.emptyName
  | .foreign v => v.kindName
  | .both _ _ => w.family ++ "And"
  | .either _ _ => w.family ++ "Or"
  | .noted _ _ => w.family ++ "Meta"

/-- Two operands of which the first is a rule, or none is. -/
def combine {α : Type} (w : Wording α) (symbol : String)
    (operate : Value → Value → Except Fault Value) (mk : ParamRule α → ParamRule α → ParamRule α)
    (l r : ParamRule α) : Except Fault (ParamRule α) :=
  match l, r with
  | .foreign v, .foreign w => (operate v w).map .foreign
  | .foreign v, r => .error (.unsupportedOperands symbol v.kindName (r.kindName w))
  | l, r => .ok (mk l r)

def conjunction {α : Type} (w : Wording α) :
    ParamRule α → ParamRule α → Except Fault (ParamRule α) :=
  combine w "&" Value.meet .both

def alternative {α : Type} (w : Wording α) :
    ParamRule α → ParamRule α → Except Fault (ParamRule α) :=
  combine w "|" Value.union .either

def describe {α : Type} (r : ParamRule α) (text : Value) : Except Fault (ParamRule α) :=
  match r with
  | .foreign v => .error (.noMember v.kindName "describe")
  | r => .ok (.noted r (.text text))

def withNote {α : Type} (r : ParamRule α) (n : Note) : Except Fault (ParamRule α) :=
  match r with
  | .foreign v => .error (.noMember v.kindName "with_meta")
  | r => .ok (.noted r n)

/-- The parameters of a rule in order, each leaf made into one by `make`. -/
def collect {α : Type} (make : α → Except Fault SimpleParameter) (kind : String) :
    ParamRule α → Except Fault (List SimpleParameter)
  | .leaf a => do return [← make a]
  | .empty | .foreign _ => .ok []
  | .both l r => do
    let ps ← collect make kind l
    return ps ++ (← collect make kind r)
  | .either l r => do
    let ps ← collect make kind l
    return SimpleParameter.alternatives ps (← collect make kind r) kind
  | .noted (.leaf a) n => do
    let p ← make a
    return [match n.message? with
      | some m => { p with description := m }
      | none => p]
  | .noted r _ => collect make kind r

end ParamRule

/-- The items of a parameter that is documented as an array, and how they are joined. -/
def arrayItems (classes : Registry) (t : Ty) (format : String) :
    Except Fault (Option Primitive × Option String) := do
  if (← t.dataType classes).name ≠ "array" then return (none, none)
  else
    let u ← if t.isOptional then t.unwrap classes.unions else pure t
    let d ← if ← u.element.isPrimitive classes then u.element.dataType classes
      else pure DataType.string
    return (some ⟨d.name, d.format, none, none⟩, some format)

/-- A parameter whose name is a text or none, whose description is likewise, and of which it is told
by a truth value whether it is required. -/
def checkedParameter (name description required : Value) (p : SimpleParameter) :
    Except Fault SimpleParameter :=
  Checked.toExcept <|
    (fun n d r => { p with name := n, description := .ofText? d, required := r }) <$>
      Checked.at_ "name" (Check.nullable Check.text name) <*>
      Checked.at_ "description" (Check.nullable Check.text description) <*>
      Checked.at_ "required" (Check.bool required)

namespace QueryLeaf

def wording : ParamRule.Wording QueryLeaf := ⟨"Query", fun _ => "QueryCapture", "_EmptyQuery"⟩

/-- Required unless it says otherwise or has a default. -/
def isRequired (q : QueryLeaf) : Value :=
  match q.required with
  | .null => .bool q.default.isAbsent
  | r => r

def parameter (classes : Registry) (q : QueryLeaf) : Except Fault SimpleParameter := do
  let d ← q.ty.dataType classes
  let (items, format) ← arrayItems classes q.ty "multi"
  checkedParameter q.name .null q.isRequired
    ⟨none, .null, true, d.name, d.format, q.default.value, items, format⟩

end QueryLeaf

namespace HeaderLeaf

def wording : ParamRule.Wording HeaderLeaf where
  family := "Header"
  leafName
    | .capture _ _ => "HeaderCapture"
    | .require _ => "HeaderRequire"
    | .mapper _ => "HeaderMapper"
  emptyName := "_EmptyHeaderRule"

def name : HeaderLeaf → Value
  | .capture n _ => n
  | .require n => n
  | .mapper n => n

/-- The type that the header is read as. -/
def ty : HeaderLeaf → Ty
  | .capture _ t => t
  | _ => .scalar .str

def parameter (classes : Registry) (h : HeaderLeaf) : Except Fault SimpleParameter := do
  let d ← h.ty.dataType classes
  checkedParameter h.name .null (.bool true)
    ⟨none, .null, true, d.name, d.format, .null, none, none⟩

end HeaderLeaf

def QueryRule.parameters (classes : Registry) (r : QueryRule) :
    Except Fault (List SimpleParameter) :=
  r.collect (QueryLeaf.parameter classes) "params"

def HeaderRule.parameters (classes : Registry) (r : HeaderRule) :
    Except Fault (List SimpleParameter) :=
  r.collect (HeaderLeaf.parameter classes) "headers"

namespace Step

/-- The parameter of a captured segment. -/
def captureParameter (classes : Registry) (name : Value) (t : Ty) (description : Value) :
    Except Fault SimpleParameter := do
  let d ← t.dataType classes
  checkedParameter name description (.bool true)
    ⟨none, .null, true, d.name, d.format, .null, none, none⟩

def tailParameter : SimpleParameter :=
  ⟨some tailName, .null, true, "string", none, .null, none, none⟩

/-- The parameters of a sequence, one for each capture and one for the tail, which comes last. -/
def parameters (classes : Registry) : List Step → Except Fault (List SimpleParameter)
  | [] => .ok []
  | .capture n t d :: r => do
    let p ← captureParameter classes n t d
    return p :: (← parameters classes r)
  | .tail :: _ => .ok [tailParameter]
  | _ :: r => parameters classes r

end Step

/-- Adds the parameters whose names are new. -/
def addNewNames (ps : List SimpleParameter) (more : List SimpleParameter) : List SimpleParameter :=
  more.foldl (fun acc p => if acc.any (·.name = p.name) then acc else acc ++ [p]) ps

/-- The parameters of those sequences of a path that have the template, or of all. -/
def PathRule.parameters (classes : Registry) (rule : PathRule) (template : Option String) :
    Except Fault (List SimpleParameter) := do
  let linear ← rule.linearize
  linear.sequences.foldlM (fun acc s => do
    let chosen : Bool ← match template with
      | some t => (Step.rendered s).map fun u => decide (u = t)
      | none => pure true
    if chosen then return addNewNames acc (← Step.parameters classes s) else return acc) []

end RouteAtlas
