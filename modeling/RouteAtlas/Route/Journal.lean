import RouteAtlas.Route.Action
import RouteAtlas.Schema.Journal

/-!
What is logged while the parameters of an action are found: parameters of types that nothing is
known of, and lists of what cannot stand in a list.
-/

namespace RouteAtlas

def Linear.log (l : Linear) : List LogEntry := l.dropped.map fun n => .warning (droppedMessage n)

/-- The log of finding the items of a parameter. -/
def itemsLog (classes : Registry) (t : Ty) : List LogEntry :=
  t.dataTypeLog classes ++ match t.dataType classes, t.unwrap classes.unions with
    | .ok d, .ok u =>
      if d.name ≠ "array" then []
      else match u.element.isPrimitive classes with
        | .ok false =>
          [.detail ("Array parameter of non-primitive " ++
            u.element.shown classes ++ " documented as strings")]
        | _ => []
    | _, _ => []

namespace QueryLeaf

def log (classes : Registry) (q : QueryLeaf) : List LogEntry :=
  q.ty.dataTypeLog classes ++ if isFault (q.ty.dataType classes) then []
    else itemsLog classes q.ty

end QueryLeaf

namespace ParamRule

/-- The log of the parameters of a rule. A leaf under a note without a text is looked at twice. -/
def log {α : Type} (leafLog : α → List LogEntry) (make : α → Except Fault SimpleParameter) :
    ParamRule α → List LogEntry
  | .leaf a => leafLog a
  | .empty | .foreign _ => []
  | .both l r | .either l r =>
    log leafLog make l ++ if isFault (collect make "" l) then [] else log leafLog make r
  | .noted (.leaf a) n =>
    leafLog a ++ if n.message?.isSome || isFault (make a) then [] else leafLog a
  | .noted r _ => log leafLog make r

end ParamRule

namespace Step

/-- The log of the parameters of a sequence. -/
def log (classes : Registry) : List Step → List LogEntry
  | [] => []
  | .capture _ t _ :: r =>
    t.dataTypeLog classes ++ if isFault (t.dataType classes) then [] else log classes r
  | .tail :: _ => []
  | _ :: r => log classes r

end Step

namespace Action

/-- The log of the parameters at a template, save for that of the body. -/
def parametersLog (classes : Registry) (a : Action) (l : Linear) (template : String) :
    List LogEntry :=
  let chosen := l.sequences.filter fun s => Step.template s = template
  logUpToFault (Step.log classes) (fun s => isFault (Step.parameters classes s)) chosen ++
    if isFault (a.path.parameters classes (some template)) then []
    else a.query.log (QueryLeaf.log classes) (QueryLeaf.parameter classes) ++
      if isFault (a.query.parameters classes) then []
      else a.headers.log (fun h => h.ty.dataTypeLog classes) (HeaderLeaf.parameter classes)

end Action

end RouteAtlas
