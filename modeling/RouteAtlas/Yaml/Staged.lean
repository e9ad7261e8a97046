import RouteAtlas.Yaml.Error

/-!
Results of work done in rounds. A collection is made in one round and filled in the next, so a fault
near the root comes before one further in, wherever they stand in the text.
-/

namespace RouteAtlas.Yaml

/-- A result, or the error that comes up first and how many rounds from now it does. -/
inductive Staged (α : Type) where
  | ok (a : α)
  | error (round : Nat) (e : Error)
deriving Repr

namespace Staged

def map {α β : Type} (f : α → β) : Staged α → Staged β
  | .ok a => .ok (f a)
  | .error n e => .error n e

/-- Both results, or the error of the earlier round; within a round the first one counts. -/
def seq {α β : Type} (f : Staged (α → β)) (x : Staged α) : Staged β :=
  match f, x with
  | .ok f, .ok a => .ok (f a)
  | .ok _, .error n e => .error n e
  | .error m d, .ok _ => .error m d
  | .error m d, .error n e => if n < m then .error n e else .error m d

instance : Applicative Staged where
  pure := .ok
  map := Staged.map
  seq f x := Staged.seq f (x ())

@[simp] theorem seq_ok {α β : Type} (f : α → β) (a : α) :
    (Staged.ok f) <*> (Staged.ok a) = .ok (f a) := rfl

/-- The result of this round. -/
def now {α : Type} : Except Error α → Staged α
  | .ok a => .ok a
  | .error e => .error 0 e

/-- Work that is put off to the next round. -/
def later {α : Type} : Staged α → Staged α
  | .ok a => .ok a
  | .error n e => .error (n + 1) e

/-- All results in order. -/
def all {α : Type} : List (Staged α) → Staged (List α)
  | [] => .ok []
  | x :: xs => List.cons <$> x <*> all xs

def toExcept {α : Type} : Staged α → Except Error α
  | .ok a => .ok a
  | .error _ e => .error e

end Staged

end RouteAtlas.Yaml
