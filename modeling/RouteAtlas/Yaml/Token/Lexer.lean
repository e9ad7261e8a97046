import RouteAtlas.Yaml.Token.Property
import RouteAtlas.Yaml.Token.Block

/-!
Tokens from text. A node may turn out to be a key when the colon behind it is reached; its tokens
then get the mark of a key, and at need the start of a mapping, put in front of them.
-/

namespace RouteAtlas.Yaml

/-- A node that may turn out to be a key. -/
structure KeyCandidate where
  /-- The number of its first token. -/
  number : Nat
  /-- It must turn out to be a key. -/
  required : Bool
  index : Nat
  line : Nat
  column : Nat

structure Lexer where
  cursor : Cursor
  /-- How many flow collections are open. -/
  depth : Nat
  /-- The column of the innermost block, and those of the blocks around it. -/
  indent : Int
  outer : List Int
  /-- May a key begin here? -/
  keyAllowed : Bool
  /-- Candidates, each with the depth at which it stands. -/
  candidates : List (Nat × KeyCandidate)
  /-- Every token with those put in front of it later. -/
  tokens : Array (List Token)

namespace Lexer

def start (text : String) : Lexer := ⟨Cursor.start text, 0, -1, [], true, [], #[]⟩

def inFlow (s : Lexer) : Bool := s.depth ≠ 0

def push (s : Lexer) (t : Token) : Lexer := { s with tokens := s.tokens.push [t] }

def putBefore (s : Lexer) (number : Nat) (ts : List Token) : Lexer :=
  { s with tokens := s.tokens.modify number (ts ++ ·) }

/-- A candidate ends with its line, and with its thousandth character or so. -/
def isStale (s : Lexer) (k : KeyCandidate) : Bool :=
  k.line ≠ s.cursor.line || 1024 < s.cursor.index - k.index

def dropStale (s : Lexer) : Except Error Lexer :=
  if s.candidates.any fun k => s.isStale k.2 && k.2.required then .error .malformed
  else .ok { s with candidates := s.candidates.filter fun k => !s.isStale k.2 }

/-- Gives up the candidate of the present depth. -/
def dropCandidate (s : Lexer) : Except Error Lexer :=
  match s.candidates.lookup s.depth with
  | none => .ok s
  | some k =>
    if k.required then .error .malformed
    else .ok { s with candidates := s.candidates.filter (·.1 ≠ s.depth) }

/-- What begins here may be a key, if one is allowed. -/
def markCandidate (s : Lexer) : Except Error Lexer :=
  if s.keyAllowed then do
    let s ← s.dropCandidate
    let k : KeyCandidate := {
      number := s.tokens.size
      required := !s.inFlow && s.indent = s.cursor.column
      index := s.cursor.index, line := s.cursor.line, column := s.cursor.column }
    return { s with candidates := (s.depth, k) :: s.candidates }
  else .ok s

/-- Ends the blocks that are indented by more than `column`. -/
def closeBlocks (column : Int) : Nat → Lexer → Lexer
  | 0, s => s
  | fuel + 1, s =>
    if !s.inFlow && column < s.indent then
      closeBlocks column fuel
        { s.push .blockEnd with indent := s.outer.headD (-1), outer := s.outer.tail }
    else s

def unwind (column : Int) (s : Lexer) : Lexer := closeBlocks column (s.outer.length + 1) s

/-- Begins a block at a column that is further in. -/
def openBlock (s : Lexer) (column : Nat) : Bool × Lexer :=
  if s.indent < column then (true, { s with indent := column, outer := s.indent :: s.outer })
  else (false, s)

/-- A block opened by what stands here, announced by a token. -/
def announceBlock (s : Lexer) (t : Token) : Lexer :=
  match s.openBlock s.cursor.column with
  | (true, s) => s.push t
  | (false, s) => s

def advance (s : Lexer) (n : Nat) : Lexer := { s with cursor := s.cursor.advance n }

/-- Blanks, comments and breaks; a key may begin on a new line of a block. -/
def skipToToken : Nat → Lexer → Lexer
  | 0, s => s
  | fuel + 1, s =>
    let c := s.cursor.skipComment
    if isBreak c.peek then
      skipToToken fuel
        { s with cursor := c.takeBreak.2, keyAllowed := if s.inFlow then s.keyAllowed else true }
    else { s with cursor := c }

/-- A line that stands between documents. -/
def documentMark (s : Lexer) (t : Token) : Except Error Lexer := do
  let s ← (s.unwind (-1)).dropCandidate
  return ({ s with keyAllowed := false }.advance 3).push t

def directive (host : Host) (s : Lexer) : Except Error Lexer := do
  let s ← (s.unwind (-1)).dropCandidate
  let (t, c) ← directiveToken host s.cursor
  return { s with keyAllowed := false, cursor := c }.push t

def openFlow (s : Lexer) (t : Token) : Except Error Lexer := do
  let s ← s.markCandidate
  return ({ s with depth := s.depth + 1, keyAllowed := true }.advance 1).push t

def closeFlow (s : Lexer) (t : Token) : Except Error Lexer := do
  if !s.inFlow then throw .malformed
  let s ← s.dropCandidate
  return ({ s with depth := s.depth - 1, keyAllowed := false }.advance 1).push t

def flowEntry (s : Lexer) : Except Error Lexer := do
  let s ← s.dropCandidate
  return ({ s with keyAllowed := true }.advance 1).push .flowEntry

/-- A mark that opens a block where a key may begin. -/
def blockMark (s : Lexer) (block : Token) : Except Error Lexer :=
  if s.inFlow then .ok s
  else if s.keyAllowed then .ok (s.announceBlock block)
  else .error .malformed

def blockEntry (s : Lexer) : Except Error Lexer := do
  let s ← s.blockMark .blockSequenceStart
  let s ← s.dropCandidate
  return ({ s with keyAllowed := true }.advance 1).push .blockEntry

def key (s : Lexer) : Except Error Lexer := do
  let s ← s.blockMark .blockMappingStart
  let s ← s.dropCandidate
  return ({ s with keyAllowed := !s.inFlow }.advance 1).push .key

/-- A colon: what stands before it on the line was a key, or a key was announced before. -/
def value (s : Lexer) : Except Error Lexer := do
  let s ← match s.candidates.lookup s.depth with
    | some k =>
      let s := { s with
        candidates := s.candidates.filter (·.1 ≠ s.depth), keyAllowed := false }
      if s.inFlow then pure (s.putBefore k.number [.key])
      else
        let (opened, s) := s.openBlock k.column
        pure (s.putBefore k.number (if opened then [.blockMappingStart, .key] else [.key]))
    | none => do
      let s ← s.blockMark .blockMappingStart
      let s ← s.dropCandidate
      pure { s with keyAllowed := !s.inFlow }
  return (s.advance 1).push .value

/-- A token that may be a key or begin one. -/
def nodePart (s : Lexer) (read : Lexer → Except Error (Token × Cursor)) : Except Error Lexer := do
  let s ← s.markCandidate
  let (t, c) ← read s
  return { s with keyAllowed := false, cursor := c }.push t

def quoted (s : Lexer) (double : Bool) : Except Error Lexer :=
  s.nodePart fun s => do
    let (cs, c) ← quotedScalar double s.cursor
    return (.scalar (String.ofList cs) false, c)

def block (s : Lexer) (fold : Bool) : Except Error Lexer := do
  let s ← s.dropCandidate
  let (cs, c) ← blockScalar fold s.indent s.cursor
  return { s with keyAllowed := true, cursor := c }.push (.scalar (String.ofList cs) false)

def plain (s : Lexer) : Except Error Lexer := do
  let s ← s.markCandidate
  let p := plainScalar s.inFlow (s.indent + 1) s.cursor
  return { s with keyAllowed := p.crossed, cursor := p.cursor }.push
    (.scalar (String.ofList p.text) true)

/-- Can a plain scalar begin here? -/
def atPlain (s : Lexer) : Bool :=
  let ch := s.cursor.peek
  !(isGap ch || "-?:,[]\x7b\x7d#&*!|>'\"%@".toList.contains ch || ch = Char.ofNat 0x60) ||
    (!isGap (s.cursor.peekAt 1) && (ch = '-' || (!s.inFlow && (ch = '?' || ch = ':'))))

/-- The token that begins with the character at the place. -/
def scan (host : Host) (s : Lexer) : Except Error Lexer :=
  let c := s.cursor
  let gap := isGap (c.peekAt 1)
  match c.peek with
  | '[' => s.openFlow .flowSequenceStart
  | '{' => s.openFlow .flowMappingStart
  | ']' => s.closeFlow .flowSequenceEnd
  | '}' => s.closeFlow .flowMappingEnd
  | ',' => s.flowEntry
  | '*' => s.nodePart fun s => (markedName s.cursor).map fun r => (.alias r.1, r.2)
  | '&' => s.nodePart fun s => (markedName s.cursor).map fun r => (.anchor r.1, r.2)
  | '!' => s.nodePart fun s => tagToken s.cursor
  | '\'' => s.quoted false
  | '"' => s.quoted true
  | ch =>
    if ch = '%' && c.column = 0 then s.directive host
    else if c.column = 0 && c.atTriple '-' then s.documentMark .documentStart
    else if c.column = 0 && c.atTriple '.' then s.documentMark .documentEnd
    else if ch = '-' && gap then s.blockEntry
    else if ch = '?' && (s.inFlow || gap) then s.key
    else if ch = ':' && (s.inFlow || gap) then s.value
    else if ch = '|' && !s.inFlow then s.block false
    else if ch = '>' && !s.inFlow then s.block true
    else if s.atPlain then s.plain
    else .error .malformed

/-- The next token with the blocks that end before it; at the end of the text, all blocks end. -/
def step (host : Host) (s : Lexer) : Except Error (Lexer × Bool) := do
  let s ← (skipToToken (s.cursor.rest.length + 1) s).dropStale
  let s := s.unwind s.cursor.column
  if s.cursor.rest.isEmpty then return (← (s.unwind (-1)).dropCandidate, true)
  else return (← s.scan host, false)

/-- How many tokens are settled: those before the first that may turn out to be a key. -/
def settled (s : Lexer) : Nat :=
  (s.candidates.filter fun k => !s.isStale k.2).foldl (fun n k => min n k.2.number) s.tokens.size

/-- One token after the other up to the end of the text; an error stands behind the tokens that were
settled before it came up. -/
def run (host : Host) : Nat → Lexer → List Token
  | 0, s => s.tokens.toList.flatten
  | fuel + 1, s =>
    match s.step host with
    | .error e => (s.tokens.toList.take s.settled).flatten ++ [.unreadable e]
    | .ok (s, true) => s.tokens.toList.flatten
    | .ok (s, false) => run host fuel s

end Lexer

/-- The text without a mark of byte order in front. -/
def withoutByteOrderMark (cs : List Char) : List Char :=
  if cs.head? = some '\ufeff' then cs.tail else cs

/-- The tokens of a text. -/
def Token.ofText (host : Host) (text : String) : Except Error (List Token) :=
  if !text.toList.all isAllowed then .error .malformed
  else
    let s := Lexer.start (String.ofList (withoutByteOrderMark text.toList))
    .ok (Lexer.run host (s.cursor.rest.length + 2) s)

end RouteAtlas.Yaml
