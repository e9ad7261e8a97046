import RouteAtlas.Document.Decode
import RouteAtlas.Route.Action
import RouteAtlas.Schema.Collect
import RouteAtlas.Template

/-! The operation that documents an action at one template, and all that an action contributes. -/

namespace RouteAtlas

/-- What is not a schema for a body fits none of the forms of one. -/
def bodyFault : Fault := .invalid (bodyForms.map fun n => ⟨[.str "schema", .str n], "model_type"⟩)

/-- The schema of a request body: a model by reference, any other type by its property. -/
def bodySchema (classes : Registry) (formats : Formats) (t : Ty) : Except Fault BodySchema :=
  if t.isModel classes then .ok (.model (t.simpleName classes) (some (t.fullName classes)))
  else
    match t.property classes formats with
    | .error e => .error e
    | .ok p =>
      match BodySchema.ofProperty? p with
      | some b => .ok b
      | none => .error bodyFault

namespace Action

def bodyParameter (classes : Registry) (formats : Formats) (a : Action) :
    Except Fault (List Parameter) :=
  if a.hasBody then
    (bodySchema classes formats a.body).map fun b =>
      [.body ⟨some "body", some (a.body.simpleName classes), true, some b⟩]
  else .ok []

/-- The parameters from the path, the query, the headers and the body, in this order. -/
def parameters (classes : Registry) (formats : Formats) (a : Action) (template : Option String) :
    Except Fault (List Parameter) := do
  let path ← a.path.parameters classes template
  let query ← a.query.parameters classes
  let headers ← a.headers.parameters classes
  let body ← a.bodyParameter classes formats
  return path.map (.simple .path) ++ query.map (.simple .query) ++ headers.map (.simple .header) ++
    body

/-- The code and the response of one result. -/
def response (classes : Registry) (formats : Formats) :
    ResultInfo → Except Fault (Option (String × Response))
  | .ofType t => do
    let p ← t.property classes formats
    return some ("200", ⟨"OK", some p⟩)
  | .statusOfType s t => do
    let phrase ← Status.phrase s
    let p ← t.property classes formats
    return some (toString (← Status.code s), ⟨phrase, some p⟩)
  | .status s => do
    let phrase ← Status.phrase s
    return some (toString (← Status.code s), ⟨phrase, none⟩)
  | .empty => .ok none
  | .foreign v => .error (.unknownResult v.literal)

/-- The responses by code; a repeated code keeps its place and takes the last response. -/
def responsesFrom (classes : Registry) (formats : Formats) (acc : List (String × Response)) :
    List ResultInfo → Except Fault (List (String × Response))
  | [] => .ok acc
  | r :: rs => do
    match ← response classes formats r with
    | some (code, resp) => responsesFrom classes formats (replaceOrAppend code resp acc) rs
    | none => responsesFrom classes formats acc rs

def responses (classes : Registry) (formats : Formats) (a : Action) :
    Except Fault (List (String × Response)) := responsesFrom classes formats [] a.results

/-- The operation at a template. -/
def operation (classes : Registry) (formats : Formats) (a : Action) (template : String) :
    Except Fault Operation := do
  let summary ← a.path.summary
  let parameters ← a.parameters classes formats (some template)
  let responses ← a.responses classes formats
  Checked.toExcept <|
    (fun summary consumes produces => {
      tags := Template.tags template
      summary := summary
      description := none
      consumes := consumes
      produces := produces
      operationId := some (Template.operationId template a.method)
      parameters := parameters
      responses := responses }) <$>
      Checked.at_ "summary" (Check.nullable Check.text (summary.getD .null)) <*>
      Checked.at_ "consumes" (Check.texts (.list a.consumes)) <*>
      Checked.at_ "produces" (Check.texts (.list a.produces))

/-- The known models with those of the results and the body. -/
def collect (classes : Registry) (formats : Formats) (a : Action) (known : Models) :
    Except Fault Models :=
  (a.resultTypes ++ a.bodyTypes).foldlM (fun ms t => collectModels classes formats t ms) known

end Action

/-- What one action adds to a document. -/
structure Contribution where
  operations : List (String × Verb × Operation)
  models : Models
deriving Inhabited, Repr

namespace Action

/-- The operation at every template, for the verb of the action. -/
def operations (classes : Registry) (formats : Formats) (a : Action) (v : Verb) :
    List String → Except Fault (List (String × Verb × Operation))
  | [] => .ok []
  | t :: ts => do
    let op ← a.operation classes formats t
    return (t, v, op) :: (← operations classes formats a v ts)

def contribution (classes : Registry) (formats : Formats) (a : Action) :
    Except Fault Contribution := do
  let v ← Verb.ofMethod a.method
  let ops ← a.operations classes formats v (← a.path.templates)
  return ⟨ops, ← a.collect classes formats []⟩

end Action

end RouteAtlas
