import RouteAtlas.Decimal.Reader
import RouteAtlas.Text.Blank
import RouteAtlas.Text.Identifier
import RouteAtlas.Text.Integer
import RouteAtlas.Value.Basic

/-!
The tokens of annotations that are written as text: names, words of the language, constants and
signs. Blanks and comments between them count for nothing, and neither do line ends between
brackets.
-/

namespace RouteAtlas.Annotation

inductive Token where
  | name (s : String)
  | word (s : String)
  /-- A number, a text or a row of bytes. -/
  | constant (v : Value)
  | imaginary
  /-- A text with expressions in it, each given as text. -/
  | template (fields : List String)
  | sign (s : String)
deriving Repr, Inhabited

/-- The signs, of which the longest that fits is taken. -/
def signs : List String := [
  "...", "**=", "//=", "<<=", ">>=", "**", "//", "<<", ">>", "<=", ">=", "==", "!=", "<>", "->",
  ":=",
  "+=", "-=", "*=", "/=", "%=", "&=", "|=", "^=", "@=", "+", "-", "*", "/", "%", "@", "&", "|", "^",
  "~", "<", ">", "(", ")", "[", "]", "\x7b", "\x7d", ",", ":", ".", ";", "="]

/-- The text with one line feed for each line end. -/
def withLineFeeds : List Char → List Char
  | [] => []
  | '\r' :: '\n' :: r => '\n' :: withLineFeeds r
  | '\r' :: r => '\n' :: withLineFeeds r
  | c :: r => c :: withLineFeeds r

namespace Number

/-- Digits with single underscores between them, and what is behind them. -/
def digitRun (isDigit : Char → Bool) : List Char → Option (List Char × List Char)
  | '_' :: _ => none
  | cs =>
    let ds := cs.takeWhile fun c => isDigit c || c = '_'
    let rest := cs.drop ds.length
    let doubled := (ds.zip (ds.drop 1)).any fun p => p.1 = '_' && p.2 = '_'
    if ds.isEmpty || ds.getLast? = some '_' || doubled then none
    else some (ds.filter (· ≠ '_'), rest)

/-- May a number end in front of this? A word may follow only if it is one that joins expressions.
-/
def endsBefore (cs : List Char) : Bool :=
  match cs with
  | [] => true
  | c :: _ =>
    !(Text.isPlainLetter c || Text.isPlainDigit c) ||
      ["and", "else", "for", "or", "not", "if", "in", "is"].any fun w => w.toList.isPrefixOf cs

def finish (t : Token) (rest : List Char) : Option (Token × List Char) :=
  if endsBefore rest then some (t, rest) else none

/-- A whole number to a base, where an underscore may stand in front of the digits. -/
def based (base : Nat) (isDigit : Char → Bool) (cs : List Char) : Option (Token × List Char) := do
  let cs := if cs.head? = some '_' then cs.drop 1 else cs
  let (ds, rest) ← digitRun isDigit cs
  let n ← Text.digitsValue? base 0 true ds
  finish (.constant (.int n)) rest

def isHex (c : Char) : Bool :=
  Text.isPlainDigit c || ('a' ≤ c && c ≤ 'f') || ('A' ≤ c && c ≤ 'F')

/-- The power of ten, if one follows, and what is behind it. -/
def power? (cs : List Char) : Option (Option Int × List Char) :=
  match cs with
  | e :: r =>
    if e = 'e' || e = 'E' then
      let (negative, ds) := match r with
        | '-' :: ds => (true, ds)
        | '+' :: ds => (false, ds)
        | ds => (false, ds)
      if (ds.head?.map Text.isPlainDigit).getD false then
        (digitRun Text.isPlainDigit ds).map fun (ds, rest) =>
          let n : Int := Decimal.natOfDigits ds
          (some (if negative then -n else n), rest)
      else some (none, cs)
    else some (none, cs)
  | [] => some (none, cs)

/-- What follows the digits in front of the point. -/
def afterWhole (whole cs : List Char) : Option (Token × List Char) := do
  let (fraction, rest) ← match cs with
    | '.' :: r =>
      if (r.head?.map Text.isPlainDigit).getD false then
        (digitRun Text.isPlainDigit r).map fun (ds, rest) => (some ds, rest)
      else some (some [], r)
    | r => some (none, r)
  let (power, rest) ← power? rest
  match rest with
  | c :: r => if c = 'j' || c = 'J' then return ← finish .imaginary r
  | [] => pure ()
  if fraction.isNone && power.isNone then
    if whole.head? = some '0' && whole.any (· ≠ '0') then none
    else finish (.constant (.int (Decimal.natOfDigits whole))) rest
  else
    let digits := fraction.getD []
    finish (.constant (.float (Decimal.nearest false (Decimal.natOfDigits (whole ++ digits))
      (power.getD 0 - digits.length)))) rest

def read (cs : List Char) : Option (Token × List Char) :=
  match cs with
  | '0' :: c :: r =>
    if c = 'x' || c = 'X' then based 16 isHex r
    else if c = 'o' || c = 'O' then based 8 (fun d => '0' ≤ d && d ≤ '7') r
    else if c = 'b' || c = 'B' then based 2 (fun d => d = '0' || d = '1') r
    else (digitRun Text.isPlainDigit cs).bind fun (ds, rest) => afterWhole ds rest
  | '.' :: _ => afterWhole [] cs
  | _ => (digitRun Text.isPlainDigit cs).bind fun (ds, rest) => afterWhole ds rest

end Number

namespace Quoted

/-- What stands in front of the quote: are these bytes, are backslashes kept, are there expressions?
-/
structure Kind where
  bytes : Bool
  raw : Bool
  template : Bool

def kind? (word : List Char) : Option Kind :=
  match String.ofList (word.map Char.toLower) with
  | "" | "u" => some ⟨false, false, false⟩
  | "b" => some ⟨true, false, false⟩
  | "r" => some ⟨false, true, false⟩
  | "br" | "rb" => some ⟨true, true, false⟩
  | "f" => some ⟨false, false, true⟩
  | "fr" | "rf" => some ⟨false, true, true⟩
  | _ => none

/-- What stands between quotes, and what is behind it. A text between single quotes ends with its
line. -/
def body (quote : List Char) : List Char → Option (List Char × List Char)
  | [] => none
  | '\\' :: c :: r => (body quote r).map fun (b, rest) => ('\\' :: c :: b, rest)
  | c :: r =>
    if quote.isPrefixOf (c :: r) then some ([], r.drop (quote.length - 1))
    else if c = '\n' && quote.length = 1 then none
    else (body quote r).map fun (b, rest) => (c :: b, rest)

/-- The character of so many hexadecimal digits. -/
def hexEscape (n : Nat) (cs : List Char) : Option Nat :=
  let ds := cs.take n
  if ds.length = n && ds.all Number.isHex then Text.digitsValue? 16 0 true ds else none

def simpleEscape? : Char → Option (List Char)
  | '\n' => some []
  | '\\' => some ['\\']
  | '\'' => some ['\'']
  | '"' => some ['"']
  | 'a' => some ['\x07']
  | 'b' => some ['\x08']
  | 'f' => some ['\x0c']
  | 'n' => some ['\n']
  | 'r' => some ['\r']
  | 't' => some ['\t']
  | 'v' => some ['\x0b']
  | _ => none

def isOctal (c : Char) : Bool := '0' ≤ c && c ≤ '7'

/-- The characters that are meant where backslashes announce some. -/
def unescaped (bytes : Bool) : Nat → List Char → Option (List Char)
  | 0, _ => none
  | _ + 1, [] => some []
  | n + 1, '\\' :: c :: r =>
    let hex (width : Nat) : Option (List Char) := do
      let code ← hexEscape width r
      if 0x110000 ≤ code then none
      else return Char.ofNat code :: (← unescaped bytes n (r.drop width))
    match simpleEscape? c with
    | some out => (unescaped bytes n r).map (out ++ ·)
    | none =>
      if isOctal c then
        let ds := (c :: r).take 3 |>.takeWhile isOctal
        let code := ds.foldl (fun k d => k * 8 + (d.toNat - 48)) 0
        (unescaped bytes n ((c :: r).drop ds.length)).map
          (Char.ofNat (if bytes then code % 256 else code) :: ·)
      else if c = 'x' then hex 2
      else if c = 'u' && !bytes then hex 4
      else if c = 'U' && !bytes then hex 8
      else if c = 'N' && !bytes then
        match r with
        | '\x7b' :: r =>
          let word := r.takeWhile (· ≠ '\x7d')
          if word.isEmpty || word.length = r.length then none
          else (unescaped bytes n (r.drop (word.length + 1))).map ('?' :: ·)
        | _ => none
      else (unescaped bytes n r).map fun out => '\\' :: c :: out
  | n + 1, c :: r => (unescaped bytes n r).map (c :: ·)

/-- An expression between braces: its text up to a conversion, a format or the closing brace. -/
def field (depth : Nat) (quote : Option Char) (acc : List Char) :
    List Char → Option (List Char × List Char)
  | [] => none
  | c :: r =>
    match quote with
    | some q => field depth (if c = q then none else quote) (c :: acc) r
    | none =>
      if c = '\'' || c = '"' then field depth (some c) (c :: acc) r
      else if c = '\\' || c = '#' then none
      else if c = '(' || c = '[' || c = '\x7b' then field (depth + 1) none (c :: acc) r
      else if depth = 0 && (c = '\x7d' || c = ':') then some (acc.reverse, c :: r)
      else if (c = '!' || c = '=' || c = '<' || c = '>') && r.head? = some '=' then
        match r with
        | d :: r => field depth none (d :: c :: acc) r
        | [] => none
      else if depth = 0 && (c = '!' || c = '=') then some (acc.reverse, c :: r)
      else if c = ')' || c = ']' || c = '\x7d' then field (depth - 1) none (c :: acc) r
      else field depth none (c :: acc) r

/-- The expressions in a text; `inside` counts the formats of expressions that are being read, of
which no more than one stands in the other. -/
def fields (inside : Nat) : Nat → List Char → Option (List String × List Char)
  | 0, _ => none
  | _ + 1, [] => if 0 < inside then none else some ([], [])
  | n + 1, '\x7b' :: r =>
    if r.head? = some '\x7b' && inside = 0 then fields inside n (r.drop 1)
    else if 1 < inside then none
    else do
      let (text, rest) ← field 0 none [] r
      let rest := match rest with
        | '=' :: rest => rest.dropWhile isBlank
        | rest => rest
      let rest ← match rest with
        | '!' :: c :: rest => if c = 'r' || c = 's' || c = 'a' then some rest else none
        | rest => some rest
      let (inner, rest) ← match rest with
        | ':' :: rest => fields (inside + 1) n rest
        | '\x7d' :: rest => some ([], rest)
        | _ => none
      let (more, rest) ← fields inside n rest
      return (String.ofList text :: inner ++ more, rest)
  | n + 1, '\x7d' :: r =>
    if 0 < inside then some ([], r)
    else if r.head? = some '\x7d' then fields inside n (r.drop 1) else none
  | n + 1, _ :: r => fields inside n r

def token (k : Kind) (b : List Char) : Option Token := do
  if k.bytes && b.any (fun c => 128 ≤ c.toNat) then none
  let cs ← if k.raw then some b else unescaped k.bytes (b.length + 1) b
  if k.bytes then return .constant (.bytes (cs.map fun c => c.toNat.toUInt8))
  else if k.template then
    let (fs, _) ← fields 0 (2 * b.length + 2) b
    if fs.isEmpty then return .constant (.str (String.ofList cs)) else return .template fs
  else return .constant (.str (String.ofList cs))

/-- A text or a row of bytes that begins with its quote. -/
def read (k : Kind) (cs : List Char) : Option (Token × List Char) := do
  let q ← cs.head?
  let quote := if [q, q, q].isPrefixOf cs then [q, q, q] else [q]
  let (b, rest) ← body quote (cs.drop quote.length)
  return (← token k b, rest)

end Quoted

/-- A word: a name, a word of the language, or what stands in front of a quote. -/
def readWord (cs : List Char) : Option (Token × List Char) :=
  let w := cs.takeWhile Text.isWordPart
  let rest := cs.drop w.length
  let quoted := rest.head? = some '\'' || rest.head? = some '"'
  match if quoted then Quoted.kind? w else none with
  | some k => Quoted.read k rest
  | none =>
    let s := String.ofList w
    if Text.reservedWords.contains s then some (.word s, rest)
    else if Text.isName w then some (.name (String.ofList (w.flatMap Text.plainForm)), rest)
    else none

def readSign (cs : List Char) : Option (Token × List Char) :=
  (signs.find? fun s => s.toList.isPrefixOf cs).map fun s => (.sign s, cs.drop s.length)

/-- The next token. -/
def readToken (cs : List Char) : Option (Token × List Char) :=
  match cs with
  | [] => none
  | c :: r =>
    if Text.isPlainDigit c || (c = '.' && (r.head?.map Text.isPlainDigit).getD false) then
      Number.read cs
    else if c = '\'' || c = '"' then Quoted.read ⟨false, false, false⟩ cs
    else if Text.isWordPart c then readWord cs
    else readSign cs

/-- How many brackets are open behind a token. -/
def depthAfter (depth : Nat) : Token → Nat
  | .sign s =>
    if s = "(" || s = "[" || s = "\x7b" then depth + 1
    else if s = ")" || s = "]" || s = "\x7d" then depth - 1
    else depth
  | _ => depth

/-- No more brackets than these can be open. -/
def maxDepth : Nat := 200

def isSpace (c : Char) : Bool := c = ' ' || c = '\t' || c = '\x0c'

/-- Is there nothing but blanks, comments and line ends? The last line must not hold blanks only;
`indented` says that it has begun with some. -/
def isIdle (indented : Bool) : Nat → List Char → Bool
  | 0, _ => false
  | _ + 1, [] => !indented
  | n + 1, c :: r =>
    if c = ' ' || c = '\t' then isIdle true n r
    else if c = '\x0c' || c = '\n' then isIdle false n r
    else if c = '#' then isIdle false n (r.dropWhile (· ≠ '\n'))
    else false

/-- The tokens up to the end of the line that no bracket holds open. -/
def tokensFrom (depth : Nat) : Nat → List Char → Option (List Token)
  | 0, _ => none
  | _ + 1, [] => if depth = 0 then some [] else none
  | n + 1, c :: r =>
    if isSpace c then tokensFrom depth n r
    else if c = '#' then tokensFrom depth n (r.dropWhile (· ≠ '\n'))
    else if c = '\n' then
      if 0 < depth then tokensFrom depth n r
      else if isIdle false (r.length + 1) r then some [] else none
    else if c = '\\' then
      match r with
      | '\n' :: d :: r => tokensFrom depth n (d :: r)
      | _ => none
    else match readToken (c :: r) with
      | some (t, rest) =>
        if maxDepth < depthAfter depth t then none
        else (tokensFrom (depthAfter depth t) n rest).map (t :: ·)
      | none => none

/-- The lines from the first one on that holds more than blanks and a comment. -/
def firstLine : Nat → List Char → List Char
  | 0, cs => cs
  | n + 1, cs =>
    let line := cs.takeWhile (· ≠ '\n')
    let rest := cs.drop line.length
    match line.dropWhile isSpace, rest with
    | [], '\n' :: r => firstLine n r
    | '#' :: _, '\n' :: r => firstLine n r
    | _, _ => cs

/-- The tokens of a text. Its first line must not be indented. -/
def tokens? (s : String) : Option (List Token) :=
  let cs := withLineFeeds s.toList
  if cs.contains '\x00' then none
  else
    let cs := (firstLine (cs.length + 1) cs).dropWhile (· = '\x0c')
    match cs with
    | c :: _ => if isSpace c then none else tokensFrom 0 (cs.length + 1) cs
    | [] => some []

end RouteAtlas.Annotation
