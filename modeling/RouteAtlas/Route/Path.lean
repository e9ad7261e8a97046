import RouteAtlas.Type.Basic
import RouteAtlas.Text.Split
import RouteAtlas.Value.Operator

/-! Rules for the path of a route: literals, captures and tails, in sequence or as alternatives. -/

namespace RouteAtlas

/-- What is noted on a rule. A message is a text; any other value is carried along as it is. -/
inductive Note where
  /-- The summary of the route. -/
  | summary (msg : Value)
  /-- Text on one part. -/
  | text (msg : Value)
  | other
deriving Repr, Inhabited

namespace Note

/-- The message of a note that has one. -/
def message? : Note → Option Value
  | .summary m => some m
  | .text m => some m
  | .other => none

end Note

/-- A rule. Segments, names and descriptions are texts where a document is to be written. -/
inductive PathRule where
  /-- A fixed segment; the empty one adds nothing. -/
  | literal (segment : Value)
  | capture (name : Value) (ty : Ty) (description : Value)
  /-- All that remains of the path. -/
  | tail
  | both (left right : PathRule)
  | either (left right : PathRule)
  | noted (rule : PathRule) (note : Note)
  /-- A value that is no rule. -/
  | foreign (v : Value)
deriving Inhabited, Repr

namespace PathRule

def root : PathRule := .literal (.str "")

/-- A text as a rule: its segments one after the other. -/
def ofText (s : String) : PathRule :=
  match Text.segments '/' s with
  | [] => root
  | p :: ps => ps.foldl (fun rule q => .both rule (.literal (.str q))) (.literal (.str p))

/-- A rule as it is, a text by its segments, nothing else. -/
def coerce : PathRule → Except Fault PathRule
  | .foreign (.str s) => .ok (ofText s)
  | .foreign v => .error (.notCoercible v.kindName)
  | r => .ok r

/-- Two operands, where a text beside a rule becomes one. Of two values that are no rules the
operator is the one that values have. -/
def combine (operate : Value → Value → Except Fault Value) (mk : PathRule → PathRule → PathRule)
    (l r : PathRule) : Except Fault PathRule :=
  match l, r with
  | .foreign v, .foreign w => (operate v w).map .foreign
  | l, r => do
    let l ← l.coerce
    return mk l (← r.coerce)

def slash : PathRule → PathRule → Except Fault PathRule := combine Value.divide .both

def alternative : PathRule → PathRule → Except Fault PathRule := combine Value.union .either

/-- A rule with the summary of its route. -/
def describe (r : PathRule) (text : Value) : Except Fault PathRule :=
  match r with
  | .foreign v => .error (.noMember v.kindName "describe")
  | r => .ok (.noted r (.summary text))

def caret (r : PathRule) (text : Value) : Except Fault PathRule :=
  match r with
  | .foreign v => (v.exclusive text).map .foreign
  | r => .ok (.noted r (.summary text))

def withNote (r : PathRule) (n : Note) : Except Fault PathRule :=
  match r with
  | .foreign v => .error (.noMember v.kindName "with_meta")
  | r => .ok (.noted r n)

end PathRule

end RouteAtlas
