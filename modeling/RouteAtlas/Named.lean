/-! Lists of named things, where a later entry of a name takes the place of an earlier one. -/

namespace RouteAtlas

/-- A later entry of the same name replaces the earlier one in its place. -/
def replaceOrAppend {α : Type} (name : String) (a : α) : List (String × α) → List (String × α)
  | [] => [(name, a)]
  | (n, b) :: r => if n = name then (n, a) :: r else (n, b) :: replaceOrAppend name a r

/-- The last entry of every name, at the place of the first. -/
def lastOfNames {α : Type} (entries : List (String × α)) : List (String × α) :=
  entries.foldl (fun acc e => replaceOrAppend e.1 e.2 acc) []

end RouteAtlas
