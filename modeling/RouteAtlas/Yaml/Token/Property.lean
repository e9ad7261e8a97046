import RouteAtlas.Text.Utf8
import RouteAtlas.Yaml.Token
import RouteAtlas.Yaml.Token.Quoted

/-! Anchors, aliases, tags and directives. -/

namespace RouteAtlas.Yaml

/-- A name behind a one-character mark. -/
def markedName (c : Cursor) : Except Error (String × Cursor) :=
  let (cs, c) := c.next.takeWhile isWordChar
  if !cs.isEmpty && (isGap c.peek || "?:,]\x7d%@`".toList.contains c.peek) then
    .ok (String.ofList cs, c)
  else .error .malformed

def isTagChar (c : Char) : Bool := isWordChar c || ";/?:@&=+$,.!~*'()[]".toList.contains c

/-- Bytes that are each written as a percent sign and two digits. -/
def percentBytes : Nat → List UInt8 → Cursor → Except Error (List UInt8 × Cursor)
  | 0, acc, c => .ok (acc, c)
  | fuel + 1, acc, c =>
    if c.peek = '%' then
      match hexNumber? 2 (c.rest.drop 1) with
      | some n => percentBytes fuel (acc ++ [n.toUInt8]) (c.advance 3)
      | none => .error .malformed
    else .ok (acc, c)

/-- The characters of a tag, some of them written as bytes. -/
def tagTextFrom : Nat → List Char → Cursor → Except Error (List Char × Cursor)
  | 0, acc, c => .ok (acc, c)
  | fuel + 1, acc, c =>
    if c.peek = '%' then do
      let (bytes, c) ← percentBytes (c.rest.length + 1) [] c
      match Text.decodeUtf8 bytes with
      | .ok s => tagTextFrom fuel (acc ++ s.toList) c
      | .error _ => throw .malformed
    else if isTagChar c.peek then
      let (cs, c) := c.takeWhile isTagChar
      tagTextFrom fuel (acc ++ cs) c
    else .ok (acc, c)

def tagText (c : Cursor) : Except Error (String × Cursor) := do
  let next ← tagTextFrom (c.rest.length + 1) [] c
  if next.2.index = c.index then throw .malformed
  else return (String.ofList next.1, next.2)

/-- A handle: one exclamation mark, or a name between two. -/
def tagHandle (c : Cursor) : Except Error (String × Cursor) :=
  if c.peek ≠ '!' then .error .malformed
  else if c.peekAt 1 = ' ' then .ok ("!", c.next)
  else
    let (name, after) := c.next.takeWhile isWordChar
    if after.peek = '!' then .ok (String.ofList ('!' :: name ++ ['!']), after.next)
    else .error .malformed

/-- Does the tag have a second exclamation mark, so that it begins with a named handle? -/
def hasNamedHandle (c : Cursor) : Bool :=
  (c.rest.drop 1).takeWhile (fun ch => ch ≠ ' ' && !isEnd ch) |>.contains '!'

/-- The tag at the place: in full between angle brackets, or a handle and the rest. -/
def tagToken (c : Cursor) : Except Error (Token × Cursor) := do
  let (token, c) ←
    if c.peekAt 1 = '<' then do
      let (s, c) ← tagText (c.advance 2)
      if c.peek = '>' then pure (Token.tag none s, c.next) else throw .malformed
    else if isGap (c.peekAt 1) then pure (Token.tag none "!", c.next)
    else do
      let (handle, c) ← if hasNamedHandle c then tagHandle c else pure ("!", c.next)
      let (s, c) ← tagText c
      pure (Token.tag (some handle) s, c)
  if c.peek = ' ' || isEnd c.peek then return (token, c) else throw .malformed

def directiveNumber (host : Host) (c : Cursor) : Except Error (Nat × Cursor) :=
  let (ds, c) := c.takeWhile fun ch => '0' ≤ ch && ch ≤ '9'
  if ds.isEmpty then .error .malformed
  else match host.digitsFault? ds.length with
    | some f => .error (.limit f)
    | none => .ok (ds.foldl (fun n ch => n * 10 + (ch.toNat - 48)) 0, c)

def atDirectiveGap (c : Cursor) : Bool := c.peek = ' ' || isEnd c.peek

def versionDirective (host : Host) (c : Cursor) : Except Error (Directive × Cursor) := do
  let (major, c) ← directiveNumber host (c.skipWhile (· = ' '))
  if c.peek ≠ '.' then throw .malformed
  let (_, c) ← directiveNumber host c.next
  if atDirectiveGap c then return (.version major, c) else throw .malformed

def handleDirective (c : Cursor) : Except Error (Directive × Cursor) := do
  let (name, c) ← tagHandle (c.skipWhile (· = ' '))
  if c.peek ≠ ' ' then throw .malformed
  let (start, c) ← tagText (c.skipWhile (· = ' '))
  if atDirectiveGap c then return (.handle name start, c) else throw .malformed

/-- The directive on the line at whose start the place is. -/
def directiveToken (host : Host) (c : Cursor) : Except Error (Token × Cursor) := do
  let (name, c) := c.next.takeWhile isWordChar
  if name.isEmpty || !atDirectiveGap c then throw .malformed
  let (d, c) ←
    if name = "YAML".toList then versionDirective host c
    else if name = "TAG".toList then handleDirective c
    else pure (Directive.other, c.skipWhile (!isEnd ·))
  let c := c.skipComment
  if isEnd c.peek then return (.directive d, c.takeBreak.2) else throw .malformed

end RouteAtlas.Yaml
