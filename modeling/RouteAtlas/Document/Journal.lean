import RouteAtlas.Document.Build
import RouteAtlas.Route.Journal

/-!
What is logged while a document is built. Rules behind a tail are reported whenever a path is
linearised: once for its templates, twice for the operation at each of them, and once for the entry
that says what was merged.
-/

namespace RouteAtlas

def Takeover.log (ts : List Takeover) : List LogEntry := ts.map fun t => .warning t.message

namespace Action

def bodyLog (classes : Registry) (a : Action) : List LogEntry :=
  if a.hasBody && !a.body.isModel classes then a.body.propertyLog classes else []

/-- The log of one response, whose status comes before its type. -/
def responseLog (classes : Registry) : ResultInfo → List LogEntry
  | .ofType t => t.propertyLog classes
  | .statusOfType s t => if isFault (Status.phrase s) then [] else t.propertyLog classes
  | _ => []

/-- The log of the operation at a template. -/
def operationLog (classes : Registry) (a : Action) (l : Linear) (template : String) :
    List LogEntry :=
  l.log ++ l.log ++ a.parametersLog classes l template ++
    if isFault (a.headers.parameters classes) || isFault (a.query.parameters classes) ||
      isFault (a.path.parameters classes (some template)) then []
    else a.bodyLog classes ++
      if isFault (a.bodyParameter classes .standard) then []
      else logUpToFault (responseLog classes) (fun r => isFault (response classes .standard r))
        a.results

/-- The log of gathering the models for the results and the body. -/
def modelsLog (classes : Registry) (a : Action) (known : Models) : List LogEntry :=
  collectLog classes known (a.resultTypes ++ a.bodyTypes)

/-- The log of putting the contribution into a document, if it can be made. -/
def applyLog (classes : Registry) (strict : Bool) (d : Document) (a : Action) (l : Linear) :
    List LogEntry :=
  match a.contribution classes .standard with
  | .error _ => []
  | .ok c => match d.apply strict c with
    | .error _ => []
    | .ok (_, ts) =>
      let templates := l.sequences.map Step.template
      Takeover.log ts ++ l.log ++
        [.detail ("Merged " ++ a.method ++ " " ++ Text.join ", " templates)]

def mergeLog (classes : Registry) (strict : Bool) (d : Document) (a : Action) : List LogEntry :=
  match Verb.ofMethod a.method, a.path.linearize with
  | .ok v, .ok l =>
    let templates := l.sequences.map Step.template
    if isFault a.path.templates then l.log
    else l.log ++ logUpToFault (a.operationLog classes l)
      (fun t => isFault (a.operation classes .standard t)) templates ++
      if isFault (a.operations classes .standard v templates) then []
      else a.modelsLog classes [] ++ a.applyLog classes strict d l
  | _, _ => []

end Action

/-- The log of a build, up to the first action that cannot be documented. -/
def Document.extendLog (classes : Registry) (strict : Bool) (d : Document) :
    List Action → List LogEntry
  | [] => []
  | a :: as =>
    a.mergeLog classes strict d ++ match d.merge classes .standard strict a with
      | .ok (d, _) => extendLog classes strict d as
      | .error _ => []

/-- The log of gathering the models of all actions as one. -/
def collectActionsLog (classes : Registry) (known : Models) : List Action → List LogEntry
  | [] => []
  | a :: as =>
    a.modelsLog classes known ++ match a.collect classes .standard known with
      | .ok known => collectActionsLog classes known as
      | .error _ => []

end RouteAtlas
