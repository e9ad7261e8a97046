import RouteAtlas.Fault

/-! The verbs that a path can hold an operation for. -/

namespace RouteAtlas

inductive Verb where
  | get
  | put
  | post
  | delete
  | patch
  | options
deriving DecidableEq, Repr, Inhabited

namespace Verb

def all : List Verb := [.get, .put, .post, .delete, .patch, .options]

/-- The key of the verb in a path item. -/
def key : Verb → String
  | .get => "get"
  | .put => "put"
  | .post => "post"
  | .delete => "delete"
  | .patch => "patch"
  | .options => "options"

/-- The verb as it stands in a request. -/
def word : Verb → String
  | .get => "GET"
  | .put => "PUT"
  | .post => "POST"
  | .delete => "DELETE"
  | .patch => "PATCH"
  | .options => "OPTIONS"

def ofWord? (w : String) : Option Verb := all.find? (·.word = w)

/-- The verb of a method in any case. -/
def ofMethod (method : String) : Except Fault Verb :=
  match ofWord? (Text.upper method) with
  | some v => .ok v
  | none => .error (.unsupportedMethod method)

theorem ofWord?_word (v : Verb) : ofWord? v.word = some v := by cases v <;> decide

end Verb

end RouteAtlas
