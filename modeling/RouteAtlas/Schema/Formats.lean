import RouteAtlas.Schema.Basic
import RouteAtlas.Type.Basic

/-! Types that are documented in a way of their own. -/

namespace RouteAtlas

/-- What replaces the derived description of a type: one property, or models. -/
structure Formats where
  fields : List (Ty × Property)
  models : List (Ty × List Schema)
deriving Inhabited

namespace Formats

def standard : Formats := ⟨[], []⟩

/-- Refuses a type that cannot be a key. -/
def checkKey (t : Ty) : Except Fault Unit :=
  match t.unhashable? with
  | some kind => .error (.unhashable kind)
  | none => .ok ()

/-- Documents a type as one property wherever it stands. -/
def withField (f : Formats) (t : Ty) (p : Property) : Except Fault Formats := do
  checkKey t
  return { f with fields := f.fields ++ [(t, p)] }

/-- Documents a type by models that are given. -/
def withModels (f : Formats) (t : Ty) (ms : List Schema) : Except Fault Formats := do
  checkKey t
  return { f with models := f.models ++ [(t, ms)] }

/-- The last entry for a type; a type that cannot be a key has none. -/
def find? {α : Type} (entries : List (Ty × α)) (t : Ty) : Option α :=
  match t.unhashable? with
  | some _ => none
  | none => (entries.reverse.find? fun e => e.1.same t).map (·.2)

def field? (f : Formats) (t : Ty) : Option Property := find? f.fields t

def models? (f : Formats) (t : Ty) : Option (List Schema) := find? f.models t

end Formats

end RouteAtlas
