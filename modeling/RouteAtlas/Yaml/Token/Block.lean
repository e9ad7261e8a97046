import RouteAtlas.Yaml.Error
import RouteAtlas.Yaml.Token.Plain

/-! Scalars as indented blocks of lines, kept as they are or folded. -/

namespace RouteAtlas.Yaml

/-- What becomes of the breaks that end a block. -/
inductive Chomping where
  | strip
  | clip
  | keep
deriving DecidableEq, Repr

structure BlockHeader where
  chomping : Chomping
  /-- By how much the lines are indented, if it is told. -/
  increment : Option Nat

def chomping? (c : Char) : Option Chomping :=
  if c = '+' then some .keep else if c = '-' then some .strip else none

/-- An increment is one digit other than zero. -/
def increment? (c : Char) : Except Error (Option Nat) :=
  if c = '0' then .error .malformed
  else if '1' ≤ c && c ≤ '9' then .ok (some (c.toNat - 48))
  else .ok none

/-- The marks behind the sign of the block, in either order, and the rest of their line. -/
def blockHeader (c : Cursor) : Except Error (BlockHeader × Cursor) := do
  let (header, c) ← match chomping? c.peek with
    | some ch => do
      let c := c.next
      let n ← increment? c.peek
      pure (BlockHeader.mk ch n, if n.isSome then c.next else c)
    | none => do
      let n ← increment? c.peek
      let c := if n.isSome then c.next else c
      match n, chomping? c.peek with
      | some _, some ch => pure (BlockHeader.mk ch n, c.next)
      | _, _ => pure (BlockHeader.mk .clip n, c)
  if !(c.peek = ' ' || isEnd c.peek) then throw .malformed
  else
    let c := c.skipComment
    if isEnd c.peek then return (header, c.takeBreak.2) else throw .malformed

/-- Empty lines before the first text, and the deepest column that blanks reach on the way. -/
def leadingLines : Nat → List Char → Nat → Cursor → List Char × Nat × Cursor
  | 0, acc, deepest, c => (acc, deepest, c)
  | fuel + 1, acc, deepest, c =>
    if c.peek = ' ' then
      let c := c.next
      leadingLines fuel acc (max deepest c.column) c
    else if isBreak c.peek then
      let (b, c) := c.takeBreak
      leadingLines fuel (acc ++ b) deepest c
    else (acc, deepest, c)

/-- At most as many blanks as lead to a column. -/
def skipIndent : Nat → Int → Cursor → Cursor
  | 0, _, c => c
  | fuel + 1, indent, c =>
    if (c.column : Int) < indent && c.peek = ' ' then skipIndent fuel indent c.next else c

/-- Empty lines between lines of text. -/
def innerLines (indent : Int) : Nat → List Char → Cursor → List Char × Cursor
  | 0, acc, c => (acc, c)
  | fuel + 1, acc, c =>
    let c := skipIndent (c.rest.length + 1) indent c
    if isBreak c.peek then
      let (b, c) := c.takeBreak
      innerLines indent fuel (acc ++ b) c
    else (acc, c)

/-- Lines of text; `breaks` are the empty lines before the next, `last` is the break before those.
-/
def blockLines (fold : Bool) (chomping : Chomping) (indent : Int) :
    Nat → List Char → List Char → List Char → Cursor → List Char × Cursor
  | 0, acc, _, _, c => (acc, c)
  | fuel + 1, acc, last, breaks, c =>
    if (c.column : Int) = indent && c.peek ≠ '\x00' then
      let acc := acc ++ breaks
      let leading := c.peek = ' ' || c.peek = '\t'
      let (text, c) := c.takeWhile (!isEnd ·)
      let acc := acc ++ text
      let (last, c) := c.takeBreak
      let (breaks, c) := innerLines indent (c.rest.length + 1) [] c
      if (c.column : Int) = indent && c.peek ≠ '\x00' then
        let acc :=
          if fold && last = ['\n'] && !leading && !(c.peek = ' ' || c.peek = '\t') then
            if breaks.isEmpty then acc ++ [' '] else acc
          else acc ++ last
        blockLines fold chomping indent fuel acc last breaks c
      else (acc ++ tail last breaks, c)
    else (acc ++ tail last breaks, c)
where
  tail (last breaks : List Char) : List Char :=
    match chomping with
    | .strip => []
    | .clip => last
    | .keep => last ++ breaks

/-- The block scalar whose sign stands at the place, inside a block indented by `indent`. -/
def blockScalar (fold : Bool) (indent : Int) (c : Cursor) : Except Error (List Char × Cursor) := do
  let (header, c) ← blockHeader c.next
  let least := max 1 (indent + 1)
  match header.increment with
  | none =>
    let (breaks, deepest, c) := leadingLines (c.rest.length + 1) [] 0 c
    let indent := max least (deepest : Int)
    return blockLines fold header.chomping indent (c.rest.length + 1) [] [] breaks c
  | some n =>
    let indent := least + n - 1
    let (breaks, c) := innerLines indent (c.rest.length + 1) [] c
    return blockLines fold header.chomping indent (c.rest.length + 1) [] [] breaks c

end RouteAtlas.Yaml
