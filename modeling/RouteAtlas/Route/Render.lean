import RouteAtlas.Route.Linear

/-! The template and the summary of a sequence of steps. -/

namespace RouteAtlas

/-- A name between braces. -/
def placeholder (name : Value) : String := "\x7b" ++ name.text ++ "\x7d"

def tailName : String := "tail..."

namespace Step

/-- The segment a literal adds: the text without slashes at its ends, if any is left. -/
def literalPart : Value → List String
  | .str segment =>
    let s := Text.trimBy (· = '/') segment
    if s = "" then [] else [s]
  | _ => []

/-- The segments of a sequence, up to its tail. -/
def parts : List Step → List String
  | [] => []
  | .note _ :: r => parts r
  | .literal s :: r => literalPart s ++ parts r
  | .capture n _ _ :: r => placeholder n :: parts r
  | .tail :: _ => [placeholder (.str tailName)]

/-- The path template of a sequence. -/
def template (steps : List Step) : String := "/" ++ Text.join "/" (parts steps)

/-- The first segment in front of a tail that is no text. -/
def untextual? : List Step → Option Value
  | [] => none
  | .literal (.str _) :: r => untextual? r
  | .literal v :: _ => some v
  | .tail :: _ => none
  | _ :: r => untextual? r

/-- The path template of a sequence whose segments are texts. -/
def rendered (steps : List Step) : Except Fault String :=
  match untextual? steps with
  | none => .ok (template steps)
  | some v => .error (.noMember v.kindName "strip")

/-- The first summary before a tail. -/
def summary : List Step → Option Value
  | [] => none
  | .tail :: _ => none
  | .note (.summary m) :: _ => some m
  | _ :: r => summary r

end Step

namespace PathRule

/-- The templates of the sequences of a rule. -/
def templates (rule : PathRule) : Except Fault (List String) :=
  rule.linearize.bind fun l => l.sequences.mapM Step.rendered

/-- The summary of a sequence that has one; a message of null is none. -/
def summaryOf (steps : List Step) : Option Value :=
  match Step.summary steps with
  | some .null => none
  | s => s

/-- The first summary on any sequence. -/
def summary (rule : PathRule) : Except Fault (Option Value) :=
  rule.linearize.map fun l => l.sequences.findSome? summaryOf

end PathRule

end RouteAtlas
