import RouteAtlas.Document.Operation

/-!
Building a document from actions in order. A later operation replaces the earlier one of the same
path and verb; a later model replaces the earlier one of the same short name.
-/

namespace RouteAtlas

/-- A short name changes hands from one identity to another. -/
structure Takeover where
  name : String
  loser : String
  winner : String
deriving DecidableEq, Repr, Inhabited

def Takeover.message (t : Takeover) : String :=
  "Schema name '" ++ t.name ++ "' already used by " ++ t.loser ++ "; replaced by " ++ t.winner

/-- Adds an identity to the claims on a name. -/
def Claims.add (name identity : String) : Claims → Claims
  | [] => [(name, [identity])]
  | (n, ids) :: r =>
    if n = name then (n, if ids.contains identity then ids else ids ++ [identity]) :: r
    else (n, ids) :: Claims.add name identity r

/-- The identities that claim each short name; models without one claim nothing. -/
def claims (ss : List Schema) : Claims :=
  ss.foldl (fun cs s =>
    match s.id with
    | some i => Claims.add s.name i cs
    | none => cs) []

/-- The short names that more than one identity claims. -/
def nameCollisions (ss : List Schema) : Claims := (claims ss).filter fun c => 1 < c.2.length

/-- Models by short name, a later one in the place of the earlier. -/
def byName (ss : List Schema) : List (String × Schema) :=
  ss.foldl (fun acc s => replaceOrAppend s.name s acc) []

namespace Document

/-- The item of a path, or an empty one. -/
def itemAt (paths : List (String × PathItem)) (template : String) : PathItem :=
  (paths.lookup template).getD .empty

/-- The paths with one operation put in. -/
def putOperation (paths : List (String × PathItem)) (op : String × Verb × Operation) :
    List (String × PathItem) :=
  replaceOrAppend op.1 ((itemAt paths op.1).setSlot op.2.1 op.2.2) paths

def putOperations (paths : List (String × PathItem)) (ops : List (String × Verb × Operation)) :
    List (String × PathItem) := ops.foldl putOperation paths

/-- Definitions while models are put in, with the identities that are known and what changed hands.
-/
structure Merging where
  definitions : List (String × Schema)
  known : List String
  takeovers : List Takeover

/-- Puts a model in unless its identity is known. -/
def putModel (strict : Bool) (m : Merging) (model : String × Schema) : Except Fault Merging :=
  let (identity, s) := model
  if m.known.contains identity then .ok m
  else
    let next (takeovers : List Takeover) : Merging :=
      ⟨replaceOrAppend s.name s m.definitions, m.known ++ [identity], takeovers⟩
    match m.definitions.lookup s.name with
    | none => .ok (next m.takeovers)
    | some old =>
      let collisions := nameCollisions [old, s]
      if collisions.isEmpty then .ok (next m.takeovers)
      else if strict then .error (.nameCollision collisions)
      else .ok (next (m.takeovers ++ [⟨s.name, old.identity, identity⟩]))

def putModels (strict : Bool) (definitions : List (String × Schema)) (models : Models) :
    Except Fault Merging :=
  models.foldlM (putModel strict) ⟨definitions, definitions.map fun d => d.2.identity, []⟩

/-- The document with a contribution, and the names that changed hands. -/
def apply (strict : Bool) (d : Document) (c : Contribution) :
    Except Fault (Document × List Takeover) := do
  let m ← putModels strict d.definitions c.models
  return ({ d with paths := putOperations d.paths c.operations, definitions := m.definitions },
    m.takeovers)

def merge (classes : Registry) (formats : Formats) (strict : Bool) (d : Document) (a : Action) :
    Except Fault (Document × List Takeover) := do
  d.apply strict (← a.contribution classes formats)

/-- A result with the names that changed hands on the way to it. -/
structure Outcome where
  result : Except Fault Document
  takeovers : List Takeover

/-- Takes one step after the other until one fails. -/
def run {α : Type} (step : Document → α → Except Fault (Document × List Takeover)) (d : Document) :
    List α → Outcome
  | [] => ⟨.ok d, []⟩
  | a :: as =>
    match step d a with
    | .error e => ⟨.error e, []⟩
    | .ok (d, ts) =>
      let rest := run step d as
      ⟨rest.result, ts ++ rest.takeovers⟩

/-- Puts in contributions computed beforehand. -/
def fold (strict : Bool) (d : Document) (cs : List Contribution) : Outcome :=
  run (apply strict) d cs

/-- What a build starts from. -/
def start (info : Option Info) (previous : Option Document) : Document :=
  match previous, info with
  | none, i => ofInfo (i.getD ⟨"API", "1.0.0", none⟩)
  | some d, some i => { d with info := i }
  | some d, none => d

/-- Documents every action in order on top of what is there. -/
def extend (classes : Registry) (formats : Formats) (strict : Bool) (d : Document)
    (actions : List Action) : Outcome := run (merge classes formats strict) d actions

def build (classes : Registry) (formats : Formats) (strict : Bool) (info : Option Info)
    (previous : Option Document) (actions : List Action) : Outcome :=
  extend classes formats strict (start info previous) actions

end Document

/-- The models of all actions, gathered as one. -/
def collectActions (classes : Registry) (formats : Formats) (actions : List Action) :
    Except Fault Models :=
  actions.foldlM (fun ms a => a.collect classes formats ms) []

/-- The short names that the models of the actions would fight over. -/
def schemaCollisions (classes : Registry) (formats : Formats) (actions : List Action) :
    Except Fault Claims :=
  (collectActions classes formats actions).map fun ms => nameCollisions (ms.map (·.2))

end RouteAtlas
