import RouteAtlas.Yaml.Scalar
import RouteAtlas.Yaml.Token.Lexer

/-!
Nodes from tokens: scalars, sequences and mappings, each with a tag that says what it stands for. An
alias is the node of its anchor.
-/

namespace RouteAtlas.Yaml

/-- What a node stands for. -/
inductive Tag where
  | plain (kind : ScalarKind)
  | binary
  | sequence
  | mapping
  | set
  | orderedMapping
  | pairs
  /-- A tag that gives no data. -/
  | unknown
deriving DecidableEq, Repr

inductive Node where
  | scalar (tag : Tag) (text : String)
  | sequence (tag : Tag) (items : List Node)
  | mapping (tag : Tag) (entries : List (Node × Node))

namespace Tag

/-- What the tags of the language begin with. -/
def languageStart : String := "tag:yaml.org,2002:"

def names : List (String × Tag) := [
  ("null", .plain .null), ("bool", .plain .bool), ("int", .plain .int), ("float", .plain .float),
  ("timestamp", .plain .moment), ("merge", .plain .merge), ("value", .plain .value),
  ("str", .plain .str), ("binary", .binary), ("seq", .sequence), ("map", .mapping), ("set", .set),
  ("omap", .orderedMapping), ("pairs", .pairs)]

def ofName (name : String) : Tag :=
  ((Text.dropStart? languageStart name).bind fun n => names.lookup n).getD .unknown

/-- The tag of a scalar: one that is not told, or told by a lone mark, follows from the text. -/
def ofScalar (name : Option String) (text : String) (isPlain : Bool) : Tag :=
  match name with
  | none => .plain (if isPlain then .ofPlain text else .str)
  | some n => if n = "!" then .plain (.ofPlain text) else ofName n

def ofCollection (name : Option String) (default : Tag) : Tag :=
  match name with
  | none => default
  | some n => if n = "!" then default else ofName n

end Tag

namespace Node

def tag : Node → Tag
  | .scalar t _ => t
  | .sequence t _ => t
  | .mapping t _ => t

def empty : Node := .scalar (.plain .null) ""

end Node

/-- Tokens still to be read, and the anchors seen; that of an unfinished node has none yet. -/
structure NodeReader where
  tokens : List Token
  handles : List (String × String)
  anchors : List (String × Option Node)

abbrev Reading := StateT NodeReader (Except Error)

namespace Reading

def fail {α : Type} : Reading α := throw .malformed

/-- The next token, if it can be read. -/
def next? : Reading (Option Token) := do
  match (← get).tokens.head? with
  | some (.unreadable e) => throw e
  | t => return t

def skip : Reading Unit := modify fun s => { s with tokens := s.tokens.tail }

/-- Is the next token one of these? -/
def at_ (ts : List Token) : Reading Bool := do
  match ← next? with
  | some t => return ts.contains t
  | none => return false

/-- Skips a token if it is the next. -/
def accept (t : Token) : Reading Bool := do
  if ← at_ [t] then
    skip
    return true
  else return false

/-- Enters an anchor; one that is there already is refused. -/
def openAnchor (name : Option String) : Reading Unit := do
  match name with
  | none => return ()
  | some a =>
    if ((← get).anchors.lookup a).isSome then fail
    else modify fun s => { s with anchors := (a, none) :: s.anchors }

/-- Gives an anchor its node. -/
def closeAnchor (name : Option String) (n : Node) : Reading Node := do
  match name with
  | none => return n
  | some a =>
    modify fun s => { s with anchors := (a, some n) :: s.anchors.filter (·.1 ≠ a) }
    return n

/-- The name of a tag, its handle replaced by what it stands for. -/
def tagName (handle : Option String) (suffix : String) : Reading String := do
  match handle with
  | none => return suffix
  | some h =>
    match (← get).handles.lookup h with
    | some start => return start ++ suffix
    | none => fail

def anchor? : Reading (Option String) := do
  match ← next? with
  | some (.anchor a) =>
    skip
    return some a
  | _ => return none

def tag? : Reading (Option (Option String × String)) := do
  match ← next? with
  | some (.tag h t) =>
    skip
    return some (h, t)
  | _ => return none

/-- The anchor and the tag in front of a node, in either order. -/
def properties : Reading (Option String × Option String) := do
  let first ← anchor?
  let tag ← tag?
  let anchor ← if first.isNone && tag.isSome then anchor? else pure first
  match tag with
  | none => return (anchor, none)
  | some (h, t) => return (anchor, some (← tagName h t))

def entryEnds : List Token := [.key, .value, .blockEnd]

mutual

/-- A node; `block` admits indented collections, `level` those whose dashes are not indented. -/
def node : Nat → Bool → Bool → Reading Node
  | 0, _, _ => fail
  | fuel + 1, block, level => do
    if let some (.alias a) ← next? then
      skip
      match (← get).anchors.lookup a with
      | some (some n) => return n
      | _ => fail
    else
      let (anchor, tag) ← properties
      let _ ← next?
      openAnchor anchor
      let n ← content fuel block level tag (anchor.isSome || tag.isSome)
      closeAnchor anchor n

/-- What stands behind the properties of a node; with `marked`, it may be nothing. -/
def content : Nat → Bool → Bool → Option String → Bool → Reading Node
  | 0, _, _, _, _ => fail
  | fuel + 1, block, level, tag, marked => do
    match ← next? with
    | some (.scalar text isPlain) =>
      skip
      return .scalar (Tag.ofScalar tag text isPlain) text
    | some .flowSequenceStart =>
      skip
      return .sequence (Tag.ofCollection tag .sequence) (← flowItems fuel true [])
    | some .flowMappingStart =>
      skip
      return .mapping (Tag.ofCollection tag .mapping) (← flowEntries fuel true [])
    | t =>
      if level && t = some .blockEntry then
        return .sequence (Tag.ofCollection tag .sequence) (← levelItems fuel [])
      else if block && t = some .blockSequenceStart then
        skip
        return .sequence (Tag.ofCollection tag .sequence) (← blockItems fuel [])
      else if block && t = some .blockMappingStart then
        skip
        return .mapping (Tag.ofCollection tag .mapping) (← blockEntries fuel [])
      else if marked then return .scalar (Tag.ofScalar tag "" true) ""
      else fail

/-- The node up to one of the tokens that end it, empty if one of them is next. -/
def nodeUnless (ends : List Token) : Nat → Bool → Bool → Reading Node
  | 0, _, _ => fail
  | fuel + 1, block, level => do
    if ← at_ ends then return .empty else node fuel block level

def blockItems : Nat → List Node → Reading (List Node)
  | 0, _ => fail
  | fuel + 1, acc => do
    if ← accept .blockEntry then
      let n ← nodeUnless [.blockEntry, .blockEnd] fuel true false
      blockItems fuel (n :: acc)
    else if ← accept .blockEnd then return acc.reverse
    else fail

def levelItems : Nat → List Node → Reading (List Node)
  | 0, _ => fail
  | fuel + 1, acc => do
    if ← accept .blockEntry then
      let n ← nodeUnless (.blockEntry :: entryEnds) fuel true false
      levelItems fuel (n :: acc)
    else return acc.reverse

def blockEntries : Nat → List (Node × Node) → Reading (List (Node × Node))
  | 0, _ => fail
  | fuel + 1, acc => do
    if ← accept .key then
      let k ← nodeUnless entryEnds fuel true true
      let v ← if ← accept .value then nodeUnless entryEnds fuel true true else pure .empty
      blockEntries fuel ((k, v) :: acc)
    else if ← accept .blockEnd then return acc.reverse
    else fail

def flowItems : Nat → Bool → List Node → Reading (List Node)
  | 0, _, _ => fail
  | fuel + 1, first, acc => do
    if ← accept .flowSequenceEnd then return acc.reverse
    if !first then
      if !(← accept .flowEntry) then fail
    if ← accept .key then
      let k ← nodeUnless [.value, .flowEntry, .flowSequenceEnd] fuel false false
      let v ← if ← accept .value then nodeUnless [.flowEntry, .flowSequenceEnd] fuel false false
        else pure .empty
      flowItems fuel false (.mapping .mapping [(k, v)] :: acc)
    else if ← accept .flowSequenceEnd then return acc.reverse
    else
      let n ← node fuel false false
      flowItems fuel false (n :: acc)

def flowEntries : Nat → Bool → List (Node × Node) → Reading (List (Node × Node))
  | 0, _, _ => fail
  | fuel + 1, first, acc => do
    if ← accept .flowMappingEnd then return acc.reverse
    if !first then
      if !(← accept .flowEntry) then fail
    if ← accept .key then
      let k ← nodeUnless [.value, .flowEntry, .flowMappingEnd] fuel false false
      let v ← if ← accept .value then nodeUnless [.flowEntry, .flowMappingEnd] fuel false false
        else pure .empty
      flowEntries fuel false ((k, v) :: acc)
    else if ← accept .flowMappingEnd then return acc.reverse
    else
      let k ← node fuel false false
      flowEntries fuel false ((k, .empty) :: acc)

end

/-- What stands for the two handles that every document knows. -/
def commonHandles : List (String × String) := [("!", "!"), ("!!", Tag.languageStart)]

/-- The directives in front of a document; each may come once. -/
def directives : List Token → Bool → List (String × String) →
    Except Error (List (String × String) × List Token)
  | .directive (.version major) :: r, seen, hs =>
    if seen || major ≠ 1 then .error .malformed else directives r true hs
  | .directive (.handle n start) :: r, seen, hs =>
    if (hs.lookup n).isSome then .error .malformed else directives r seen ((n, start) :: hs)
  | .directive .other :: r, seen, hs => directives r seen hs
  | .unreadable e :: _, _, _ => .error e
  | ts, _, hs => .ok (hs ++ commonHandles, ts)

def isDocumentEdge : Token → Bool
  | .directive _ | .documentStart | .documentEnd => true
  | _ => false

/-- Nothing but marks of its end may follow a document. -/
def finished (ts : List Token) : Except Error Unit :=
  match ts.dropWhile (· = .documentEnd) with
  | [] => .ok ()
  | r => do
    let _ ← directives r false []
    throw .malformed

/-- The node of a document that is the only one. -/
def whole (handles : List (String × String)) (ts : List Token) : Except Error Node := do
  let (n, s) ← (node (8 * ts.length + 16) true false).run ⟨ts, handles, []⟩
  finished s.tokens
  return n

end Reading

open Reading in
/-- The node of the one document that the tokens hold, if they hold any. -/
def Node.ofTokens (ts : List Token) : Except Error (Option Node) := do
  match ts with
  | [] => return none
  | .directive _ :: _ | .documentStart :: _ =>
    let (handles, r) ← directives ts false []
    match r with
    | .documentStart :: r =>
      if (r.head?.map isDocumentEdge).getD true then
        finished r
        return some .empty
      else return some (← whole handles r)
    | _ => throw .malformed
  | ts => return some (← whole commonHandles ts)

end RouteAtlas.Yaml
