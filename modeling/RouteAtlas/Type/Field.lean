import RouteAtlas.Annotation.Meaning
import RouteAtlas.Named

/-!
The fields of a class with their types. References are read where the class that writes them stands;
a class where one means nothing keeps its annotations as they stand.
-/

namespace RouteAtlas

namespace Ty

mutual

/-- The type without metadata at any depth. -/
def stripped (classes : Registry) : Ty → Except Fault Ty
  | .annotated b _ => stripped classes b
  | .applied g ts => (strippedList classes ts).map (.applied g)
  | .declaredOf k generic ts => (strippedList classes ts).map (.declaredOf k generic)
  | .union ms => do unionOf classes.unions (← strippedList classes ms)
  | .bars ms => do barsOf classes (← strippedList classes ms)
  | .function f ps r => do
    let ps ← strippedList classes ps
    return .function f ps (← stripped classes r)
  | t => .ok t

def strippedList (classes : Registry) : List Ty → Except Fault (List Ty)
  | [] => .ok []
  | t :: ts => do
    let t ← stripped classes t
    return t :: (← strippedList classes ts)

end

end Ty

/-- A field and the type it is documented with. -/
abbrev Field := String × Ty

/-- A field as a class writes it, with that class. -/
structure RawField where
  name : String
  ty : Ty
  owner : ClassDecl
deriving Repr, Inhabited

namespace ClassDecl

/-- Every annotation along the lineage, the most distant class first. -/
def annotations (classes : Registry) (d : ClassDecl) : List RawField :=
  (classes.ancestors d).flatMap fun a => a.fields.map fun f => ⟨f.1, f.2, a⟩

/-- Annotations by name, where a redefinition keeps the place of the first. -/
def merged (fields : List RawField) : List (String × RawField) :=
  fields.foldl (fun acc f => replaceOrAppend f.name f acc) []

/-- Does the class keep a reference where a text is written behind a field? -/
def keepsReferences (d : ClassDecl) : Bool := d.isDictionary || d.isPlaces

/-- The fallback for an annotation that the class writes: a text is any type, unless the class keeps
a reference in its place. -/
def unread (d : ClassDecl) : Ty → Ty
  | .plain (.str s) => if d.keepsReferences then .forward s else .any
  | .absent => if d.keepsReferences then .nothing else .absent
  | t => t

/-- All annotations along the lineage, resolved and without metadata. -/
def resolved (classes : Registry) (d : ClassDecl) : Except Fault (List Field) := do
  let all ← (d.annotations classes).mapM fun f => do
    return (f.name, ← f.ty.resolve (f.owner.scope classes))
  (lastOfNames all).mapM fun f => do return (f.1, ← f.2.stripped classes)

/-- The annotations as they stand: the class's own ones, and for a mapping all of them. -/
def writtenFields (classes : Registry) (d : ClassDecl) : List Field :=
  if d.isDictionary then
    (merged (d.annotations classes)).map fun f => (f.1, f.2.owner.unread f.2.ty)
  else (lastOfNames d.fields).map fun f => (f.1, d.unread f.2)

/-- The fields of a record: those that records along the lineage write. -/
def recordFields (classes : Registry) (d : ClassDecl) : List (String × RawField) :=
  merged ((d.annotations classes).filter fun f => f.owner.isRecord)

/-- All annotations resolved, or else the annotations as they stand. -/
def hints (classes : Registry) (d : ClassDecl) : Except Fault (List Field) :=
  match d.resolved classes with
  | .ok fields => .ok fields
  | .error f => if f.isMeaningless then .ok (d.writtenFields classes) else .error f

/-- The type of a field in a class that looks its annotations up one by one. -/
def validatedField (classes : Registry) (f : RawField) : Except Fault Ty :=
  match f.ty.resolve (f.owner.scope classes) with
  | .ok t => .ok t.core
  | .error e => if e.isUndefined then f.ty.converted.map Ty.core else .error e

/-- The names and types of the fields, in order. -/
def documented (classes : Registry) (d : ClassDecl) : Except Fault (List Field) :=
  match d.kind with
  | .validated =>
    (merged ((d.annotations classes).filter fun f => !Text.startsWith "_" f.name)).mapM fun f => do
      return (f.1, ← validatedField classes f.2)
  | .record _ => do
    let hints ← d.hints classes
    return (d.recordFields classes).map fun f => (f.1, (hints.lookup f.1).getD .any)
  | .untypedTuple => .ok []
  | _ => d.hints classes

/-- Why the annotations are kept as they stand, if they are. -/
def obstacle? (classes : Registry) (d : ClassDecl) : Option Fault :=
  match d.kind, d.resolved classes with
  | .validated, _ | .untypedTuple, _ => none
  | _, .error f => if f.isMeaningless then some f else none
  | _, .ok _ => none

/-- The description that a tuple with named places has if none is written. -/
def placesDoc (d : ClassDecl) : String :=
  let names := d.fields.map (·.1)
  d.name ++ "(" ++ Text.join ", " names ++ (if names.length = 1 then ",)" else ")")

/-- The text from which the description is taken. -/
def docText (d : ClassDecl) : Option String :=
  if d.isPlaces then some (d.doc.getD d.placesDoc) else d.doc

/-- The first paragraph of the text; for a record, not one that looks like a signature. -/
def description (d : ClassDecl) : Option String :=
  match d.docText with
  | none => none
  | some doc =>
    if d.isRecord && Text.startsWith (d.name ++ "(") doc then none
    else
      let first := String.ofList (Text.firstParagraph (Text.trim doc).toList)
      let text := Text.trim first
      if text = "" then none else some text

end ClassDecl

/-- The first fault of annotations that are looked up when their class is declared. -/
def Registry.malformed? (classes : Registry) : Option Fault :=
  classes.decls.findSome? fun d =>
    match d.kind with
    | .validated => match d.documented classes with
      | .ok _ => none
      | .error f => some f
    | _ => none

end RouteAtlas
