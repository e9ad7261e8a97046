import RouteAtlas.LogEntry
import RouteAtlas.Schema.Collect

/-!
What is logged while types are described: types that nothing is known of, classes whose annotations
cannot be resolved, and models as they are registered.
-/

namespace RouteAtlas

/-- The entries for items taken in order, up to the first that is at fault. -/
def logUpToFault {α : Type} (log : α → List LogEntry) (faulty : α → Bool) :
    List α → List LogEntry
  | [] => []
  | a :: as => log a ++ if faulty a then [] else logUpToFault log faulty as

/-- Is the result a fault? -/
def isFault {ε α : Type} : Except ε α → Bool
  | .ok _ => false
  | .error _ => true

namespace Ty

/-- Nothing is known of the type, which is therefore documented as a string. -/
def isUnknown (classes : Registry) (t : Ty) : Bool :=
  !t.isEnum classes && t.unhashable?.isNone && t.scalarData?.isNone && !t.isContainer &&
    !t.isMapping && !t.isModel classes

/-- The log of asking for the kind of data. -/
def dataTypeLog (classes : Registry) (t : Ty) : List LogEntry :=
  match t with
  | .absent | .any => []
  | t => match t.bareType classes.unions with
    | .ok u =>
      if u.isUnknown classes then
        [.detail ("No data type known for " ++ u.shown classes ++
          ", documenting as string")]
      else []
    | .error _ => []

/-- The log of describing a type by a property. -/
def propertyLog (classes : Registry) (t : Ty) : List LogEntry :=
  if ho : t.isOptional = true then
    match hu : t.unwrap classes.unions with
    | .error _ => []
    | .ok u =>
      have := size_unwrap_lt ho hu
      propertyLog classes u
  else if t.isEnum classes then []
  else if 1 < t.members.length then []
  else if hc : t.isContainer = true then
    have := size_element_lt hc
    propertyLog classes t.element
  else if hm : t.isMapping = true then
    have := size_value_lt hm
    propertyLog classes t.value
  else t.dataTypeLog classes
termination_by t.size

end Ty

namespace ClassDecl

/-- The log of finding out the fields: why their annotations are kept as they stand, if they are. -/
def fieldsLog (classes : Registry) (d : ClassDecl) : List LogEntry :=
  match d.obstacle? classes with
  | some u =>
    [.detail ("Could not resolve annotations on " ++ (Ty.declared d.key).shown classes ++
      ": " ++ u.message)]
  | none => []

/-- The log of entering a class among the models. -/
def entryLog (classes : Registry) (d : ClassDecl) : List LogEntry :=
  d.fieldsLog classes ++ match d.documented classes with
    | .error _ => []
    | .ok fields =>
      logUpToFault (fun f => f.2.propertyLog classes)
        (fun f => isFault (f.2.property classes .standard)) fields ++
        if isFault (d.schema classes .standard fields) then []
        else [.detail ("Registered schema model " ++ d.identity)]

end ClassDecl

/-- The classes that are entered on the way to the models of a stack of types, up to one that cannot
be described. -/
def enteredStack (classes : Registry) (stack : List Ty) (known : Models) : List ClassDecl :=
  match stack with
  | [] => []
  | t :: rest =>
    match hd : t.demand classes .standard with
    | .error _ => []
    | .ok (.types ts) =>
      have := Ty.sizes_lt_of_demand hd
      enteredStack classes (ts ++ rest) known
    | .ok (.models _) => enteredStack classes rest known
    | .ok (.model d) =>
      if _hn : known.has d.identity = true then enteredStack classes rest known
      else
        match d.documented classes with
        | .error _ => [d]
        | .ok fields =>
          match d.schema classes .standard fields with
          | .error _ => [d]
          | .ok s =>
            have := Ty.model_of_demand hd
            d :: enteredStack classes (fields.map (·.2) ++ rest) (known ++ [(d.identity, s)])
termination_by (Models.unseen classes.decls known, Ty.sizes stack)
decreasing_by
  · apply Prod.Lex.right
    simp only [Ty.sizes_append, Ty.sizes]
    omega
  · apply Prod.Lex.right
    have := Ty.size_pos t
    simp only [Ty.sizes]
    omega
  · apply Prod.Lex.right
    have := Ty.size_pos t
    simp only [Ty.sizes]
    omega
  · apply Prod.Lex.left
    exact Models.unseen_lt_of_new this (by simpa using _hn) s

/-- The log of gathering the models for types, one type after the other. -/
def collectLog (classes : Registry) (known : Models) : List Ty → List LogEntry
  | [] => []
  | t :: ts =>
    (enteredStack classes [t] known).flatMap (·.entryLog classes) ++
      match collectModels classes .standard t known with
      | .ok known => collectLog classes known ts
      | .error _ => []

end RouteAtlas
