import RouteAtlas.Value.Text
import RouteAtlas.Yaml.Style

/-!
Writing plain data as YAML in indented blocks. Lines are folded at blanks once they are wider than
eighty characters.
-/

namespace RouteAtlas.Yaml

/-- The text written so far, and where it ends. -/
structure Sheet where
  text : String
  column : Nat
  /-- It ends in a blank. -/
  blank : Bool
  /-- The present line holds only blanks and marks of structure. -/
  fresh : Bool

namespace Sheet

def start : Sheet := ⟨"", 0, true, true⟩

/-- A line is folded once it is wider than this. -/
def width : Nat := 80

def put (w : Sheet) (s : String) : Sheet :=
  { w with text := w.text ++ s, column := w.column + s.length }

def newline (w : Sheet) (s : String) : Sheet := ⟨w.text ++ s, 0, true, true⟩

/-- Goes on at a column, on a new line unless the present one is still free there. -/
def indentTo (w : Sheet) (indent : Nat) : Sheet :=
  let w := if !w.fresh || indent < w.column || (w.column = indent && !w.blank) then w.newline "\n"
    else w
  if w.column < indent then
    { w.put (String.ofList (List.replicate (indent - w.column) ' ')) with blank := true }
  else w

/-- A mark of structure; `apart` asks for a blank before it, `start` says that more marks may
follow. -/
def mark (w : Sheet) (m : String) (apart : Bool) (start : Bool) : Sheet :=
  let w := { w.put (if w.blank || !apart then m else " " ++ m) with blank := false }
  { w with fresh := w.fresh && start }

def within (w : Sheet) : Sheet := { w with blank := false, fresh := false }

end Sheet

/-- A run of characters of one kind. -/
inductive Run where
  | word (cs : List Char)
  | blanks (n : Nat)
  | breaks (cs : List Char)

/-- The runs of a text, every character in one. -/
def Run.ofText : List Char → List Run
  | [] => []
  | c :: r =>
    if c = ' ' then
      match ofText r with
      | .blanks n :: rs => .blanks (n + 1) :: rs
      | rs => .blanks 1 :: rs
    else if Style.isTextBreak c then
      match ofText r with
      | .breaks cs :: rs => .breaks (c :: cs) :: rs
      | rs => .breaks [c] :: rs
    else match ofText r with
      | .word cs :: rs => .word (c :: cs) :: rs
      | rs => .word [c] :: rs

namespace Sheet

def blanks (n : Nat) : String := String.ofList (List.replicate n ' ')

/-- Words with blanks between them; one blank of a wide line becomes a new line. -/
def plainRuns (indent : Nat) (fold : Bool) : List Run → Sheet → Sheet
  | [], w => w
  | .word cs :: rs, w => plainRuns indent fold rs (w.put (String.ofList cs))
  | .breaks cs :: rs, w => plainRuns indent fold rs (w.put (String.ofList cs))
  | .blanks n :: rs, w =>
    plainRuns indent fold rs
      (if n = 1 && width < w.column && fold then (w.indentTo indent).within else w.put (blanks n))

def plain (indent : Nat) (fold : Bool) (s : String) (w : Sheet) : Sheet :=
  let w := if w.blank then w else w.put " "
  plainRuns indent fold (Run.ofText s.toList) w.within

def doubledQuotes (cs : List Char) : String :=
  String.join (cs.map fun c => if c = '\'' then "''" else String.singleton c)

/-- Breaks inside quotes: a line feed takes one line more than it counts for. -/
def breakLines (cs : List Char) (w : Sheet) : Sheet :=
  let w := if cs.head? = some '\n' then w.newline "\n" else w
  cs.foldl (fun w c => w.newline (if c = '\n' then "\n" else String.singleton c)) w

/-- As for plain text, but blanks at the ends stay, and breaks are written out. -/
def singleRuns (indent : Nat) (fold : Bool) (first : Bool) : List Run → Sheet → Sheet
  | [], w => w
  | .word cs :: rs, w => singleRuns indent fold false rs (w.put (doubledQuotes cs))
  | .breaks cs :: rs, w => singleRuns indent fold false rs ((breakLines cs w).indentTo indent)
  | .blanks n :: rs, w =>
    singleRuns indent fold false rs
      (if n = 1 && width < w.column && fold && !first && !rs.isEmpty then w.indentTo indent
       else w.put (blanks n))

def single (indent : Nat) (fold : Bool) (s : String) (w : Sheet) : Sheet :=
  (singleRuns indent fold true (Run.ofText s.toList) (w.mark "'" true false)).mark "'" false false

/-- The letters that stand for characters behind a backslash. -/
def escapeLetters : List (Char × Char) := [
  ('\x00', '0'), ('\x07', 'a'), ('\x08', 'b'), ('\t', 't'), ('\n', 'n'), ('\x0b', 'v'),
  ('\x0c', 'f'),
  ('\r', 'r'), ('\x1b', 'e'), ('"', '"'), ('\\', '\\'), ('\x85', 'N'), ('\xa0', '_'),
  ('\u2028', 'L'), ('\u2029', 'P')]

/-- Must the character be escaped between double quotes? -/
def needsEscape (c : Char) : Bool :=
  let n := c.toNat
  c = '"' || c = '\\' || c = '\x85' || c = '\u2028' || c = '\u2029' || c = '\ufeff' ||
    !((0x20 ≤ n && n ≤ 0x7e) || (0xa0 ≤ n && n ≤ 0xd7ff) || (0xe000 ≤ n && n ≤ 0xfffd))

def upperHex (width n : Nat) : String :=
  Text.padLeft width '0' (String.ofList ((Nat.toDigits 16 n).map Char.toUpper))

def escape (c : Char) : String :=
  match escapeLetters.lookup c with
  | some l => String.ofList ['\\', l]
  | none =>
    let n := c.toNat
    if n ≤ 0xff then "\\x" ++ upperHex 2 n
    else if n ≤ 0xffff then "\\u" ++ upperHex 4 n
    else "\\U" ++ upperHex 8 n

/-- Text between double quotes. `held` is read but not written yet, in reverse; `more` says that the
character is not the first. -/
def doubleChars (indent : Nat) (fold : Bool) (more : Bool) (held : List Char) :
    List Char → Sheet → Sheet
  | [], w => w.put (String.ofList held.reverse)
  | c :: r, w =>
    let special := needsEscape c
    let w := if special then (w.put (String.ofList held.reverse)).put (escape c) else w
    let held := if special then [] else held
    let beyond := if special then 1 else 0
    if more && !r.isEmpty && (c = ' ' || special || held.isEmpty) &&
        width + beyond < w.column + held.length && fold then
      let w := (w.put (String.ofList held.reverse ++ "\\")).indentTo indent
      let ahead := if special then r.head? else some c
      let w := if ahead = some ' ' then w.within.put "\\" else w.within
      doubleChars indent fold true (if special then [] else [c]) r w
    else doubleChars indent fold true (if special then [] else c :: held) r w

def double (indent : Nat) (fold : Bool) (s : String) (w : Sheet) : Sheet :=
  (doubleChars indent fold false [] s.toList (w.mark "\"" true false)).mark "\"" false false

/-- A text in its best style; a key is never folded. -/
def scalarText (indent : Nat) (isKey : Bool) (s : String) (w : Sheet) : Sheet :=
  match Style.ofText isKey s with
  | .plain => w.plain indent (!isKey) s
  | .single => w.single indent (!isKey) s
  | .double => w.double indent (!isKey) s

end Sheet

/-- The characters before the first mark of a power of ten, and all from it on. -/
def splitPower (cs : List Char) : List Char × List Char :=
  (cs.takeWhile (· ≠ 'e'), cs.dropWhile (· ≠ 'e'))

/-- A binary number, always with a point. -/
def floatText (x : Float) : String :=
  let t := Decimal.floatText x
  if t = "inf" then ".inf" else if t = "-inf" then "-.inf" else if t = "nan" then ".nan"
  else
    let (m, p) := splitPower t.toList
    if !m.contains '.' && !p.isEmpty then String.ofList (m ++ ['.', '0'] ++ p) else t

/-- The text of a value that is neither a list nor a mapping and needs no style. -/
def bareText? : Value → Option String
  | .null => some "null"
  | .bool b => some (if b then "true" else "false")
  | .int n => some (toString n)
  | .float x => some (floatText x)
  | _ => none

/-- Can the text be a key without a mark in front? It must fit on one line with its hidden tag. -/
def isSimpleKey (s : String) : Bool := s ≠ "" && !Style.isMultiline s && s.length + 5 < 128

/-- Where a node stands. -/
inductive Position where
  | root
  | item
  | entry
deriving DecidableEq

mutual

/-- A value inside a block whose lines begin at column `indent`. -/
def writeNode (indent : Nat) (pos : Position) : Value → Sheet → Sheet
  | .list [], w => (w.mark "[" true false).mark "]" false false
  | .map [], w => (w.mark "\x7b" true false).mark "\x7d" false false
  | .list items, w =>
    let inner := if pos = .root || (pos = .entry && !w.fresh) then indent else indent + 2
    writeItems inner items w
  | .map entries, w => writeEntries (if pos = .root then indent else indent + 2) entries w
  | v, w =>
    match bareText? v with
    | some t => w.plain (indent + 2) true t
    | none => w.scalarText (indent + 2) false v.text

def writeItems (indent : Nat) : List Value → Sheet → Sheet
  | [], w => w
  | v :: vs, w =>
    writeItems indent vs (writeNode indent .item v ((w.indentTo indent).mark "-" true true))

def writeEntries (indent : Nat) : List (Value × Value) → Sheet → Sheet
  | [], w => w
  | (k, v) :: r, w =>
    let w := w.indentTo indent
    let key := k.text
    let w :=
      if isSimpleKey key then (w.scalarText (indent + 2) true key).mark ":" false false
      else
        (((w.mark "?" true true).scalarText (indent + 2) false key).indentTo indent).mark ":" true
          true
    writeEntries indent r (writeNode indent .entry v w)

end

/-- A document, in blocks from the first column on. -/
def write (v : Value) : String := ((writeNode 0 .root v Sheet.start).indentTo 0).text

end RouteAtlas.Yaml
