import RouteAtlas.Yaml.Error
import RouteAtlas.Yaml.Token.Plain

/-! Scalars between single or double quotes. -/

namespace RouteAtlas.Yaml

/-- The character that one letter behind a backslash stands for. -/
def escapes : List (Char × Char) := [
  ('0', '\x00'), ('a', '\x07'), ('b', '\x08'), ('t', '\t'), ('\t', '\t'), ('n', '\n'),
  ('v', '\x0b'),
  ('f', '\x0c'), ('r', '\r'), ('e', '\x1b'), (' ', ' '), ('"', '"'), ('\\', '\\'), ('/', '/'),
  ('N', '\x85'), ('_', '\xa0'), ('L', '\u2028'), ('P', '\u2029')]

/-- How many hexadecimal digits follow a letter behind a backslash. -/
def escapeDigits : List (Char × Nat) := [('x', 2), ('u', 4), ('U', 8)]

def hexValue? (c : Char) : Option Nat :=
  if '0' ≤ c && c ≤ '9' then some (c.toNat - 48)
  else if 'a' ≤ c && c ≤ 'f' then some (c.toNat - 87)
  else if 'A' ≤ c && c ≤ 'F' then some (c.toNat - 55)
  else none

/-- The number written in exactly `n` hexadecimal digits. -/
def hexNumber? (n : Nat) (cs : List Char) : Option Nat :=
  let ds := cs.take n
  if ds.length < n then none
  else ds.foldlM (fun acc c => (hexValue? c).map (acc * 16 + ·)) 0

/-- The breaks inside quotes up to the next text. -/
def quotedBreaks : Nat → List Char → Cursor → Except Error (List Char × Cursor)
  | 0, _, _ => .error .malformed
  | fuel + 1, acc, c =>
    if c.atSeparator then .error .malformed
    else
      let c := c.skipWhile fun ch => ch = ' ' || ch = '\t'
      if isBreak c.peek then
        let (b, c) := c.takeBreak
        quotedBreaks fuel (acc ++ b) c
      else .ok (acc, c)

/-- Blanks inside quotes: kept within a line, folded at its end. -/
def quotedGap (c : Cursor) : Except Error (List Char × Cursor) := do
  let (blanks, c) := c.takeWhile fun ch => ch = ' ' || ch = '\t'
  if c.peek = '\x00' then throw .malformed
  else if isBreak c.peek then
    let (first, c) := c.takeBreak
    let (more, c) ← quotedBreaks (c.rest.length + 1) [] c
    return (folded first more, c)
  else return (blanks, c)

/-- What a backslash and the characters behind it stand for. -/
def escape (c : Cursor) : Except Error (List Char × Cursor) :=
  let ch := c.peek
  match escapes.lookup ch with
  | some e => .ok ([e], c.next)
  | none =>
    match escapeDigits.lookup ch with
    | some n =>
      match hexNumber? n (c.rest.drop 1) with
      | none => .error .malformed
      | some code =>
        if code < 0x110000 then .ok ([Char.ofNat code], c.advance (n + 1))
        else .error (.noCharacter code)
    | none =>
      if isBreak ch then
        let (_, c) := c.takeBreak
        quotedBreaks (c.rest.length + 1) [] c
      else .error .malformed

/-- The text up to the closing quote, and the place behind it. -/
def quotedFrom (double : Bool) : Nat → List Char → Cursor → Except Error (List Char × Cursor)
  | 0, _, _ => .error .malformed
  | fuel + 1, acc, c =>
    let ch := c.peek
    if ch = '\'' && !double then
      if c.peekAt 1 = '\'' then quotedFrom double fuel ('\'' :: acc) (c.advance 2)
      else .ok (acc.reverse, c.next)
    else if ch = '"' && double then .ok (acc.reverse, c.next)
    else if ch = '\\' && double then do
      let (cs, c) ← escape c.next
      quotedFrom double fuel (cs.reverse ++ acc) c
    else if isGap ch then do
      let (cs, c) ← quotedGap c
      quotedFrom double fuel (cs.reverse ++ acc) c
    else quotedFrom double fuel (ch :: acc) c.next

/-- The scalar whose opening quote stands at the place. -/
def quotedScalar (double : Bool) (c : Cursor) : Except Error (List Char × Cursor) :=
  quotedFrom double (c.rest.length + 1) [] c.next

end RouteAtlas.Yaml
