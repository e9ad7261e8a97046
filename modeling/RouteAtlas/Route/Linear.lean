import RouteAtlas.Route.Path

/-!
Linearisation: the sequences of steps that a path rule admits. Every alternative doubles the
sequences that pass through it; a tail ends its sequence.
-/

namespace RouteAtlas

/-- One step of a sequence. -/
inductive Step where
  | literal (segment : Value)
  | capture (name : Value) (ty : Ty) (description : Value)
  | tail
  /-- A note and the rule that it is on, whose own steps follow. -/
  | note {r : PathRule} (n : Note)
deriving Inhabited, Repr

/-- The step that a rule is by itself. -/
def PathRule.step? : PathRule → Option Step
  | .literal s => some (.literal s)
  | .capture n t d => some (.capture n t d)
  | .tail => some .tail
  | .noted r n => some (.note (r := r) n)
  | _ => none

/-- The sequences of a rule, and for each tail with rules behind it how many there are. -/
structure Linear where
  sequences : List (List Step)
  dropped : List Nat
deriving Inhabited, Repr

namespace Linear

def add (out : Linear) (sequence : List Step) : Linear :=
  { out with sequences := out.sequences ++ [sequence] }

def drop (out : Linear) (pending : Nat) : Linear :=
  if pending = 0 then out else { out with dropped := out.dropped ++ [pending] }

end Linear

namespace PathRule

/-- How long the expansion of a rule takes, given how long what follows takes. -/
def cost : PathRule → Nat → Nat
  | .both l r, k => 1 + cost l (cost r k)
  | .either l r, k => 1 + cost l k + cost r k
  | .noted r _, k => 1 + cost r k
  | _, k => 1 + k

def stackCost (stack : List PathRule) : Nat := stack.foldr cost 1

def pendingCost : List (List PathRule × List Step) → Nat
  | [] => 0
  | p :: ps => stackCost p.1 + pendingCost ps

theorem stackCost_cons (r : PathRule) (rs : List PathRule) :
    stackCost (r :: rs) = cost r (stackCost rs) := rfl

theorem stackCost_nil : stackCost [] = 1 := rfl

/-- Works off rules still to be expanded, each stack with the steps taken before it. -/
def expand (pending : List (List PathRule × List Step)) (out : Linear) : Except Fault Linear :=
  match pending with
  | [] => .ok out
  | ([], steps) :: more => expand more (out.add steps)
  | (.either l r :: rest, steps) :: more =>
    expand ((l :: rest, steps) :: (r :: rest, steps) :: more) out
  | (.both l r :: rest, steps) :: more => expand ((l :: r :: rest, steps) :: more) out
  | (.noted r n :: rest, steps) :: more =>
    expand ((r :: rest, steps ++ [.note (r := r) n]) :: more) out
  | (.tail :: rest, steps) :: more =>
    expand more ((out.drop rest.length).add (steps ++ [.tail]))
  | (.literal s :: rest, steps) :: more =>
    expand ((rest, steps ++ [.literal s]) :: more) out
  | (.capture n t d :: rest, steps) :: more =>
    expand ((rest, steps ++ [.capture n t d]) :: more) out
  | (.foreign v :: _, _) :: _ => .error (.notPathRule v.literal)
termination_by pendingCost pending
decreasing_by
  all_goals simp only [pendingCost, stackCost_cons, stackCost_nil, cost]
  all_goals omega

/-- The sequences of rules that follow one another. -/
def linearizeAll (rules : List PathRule) : Except Fault Linear := expand [(rules, [])] ⟨[], []⟩

def linearize (rule : PathRule) : Except Fault Linear := linearizeAll [rule]

end PathRule

/-- The message for rules behind a tail. -/
def droppedMessage (n : Nat) : String := "Dropping " ++ toString n ++ " rule(s) after tail capture"

end RouteAtlas
