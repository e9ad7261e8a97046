import RouteAtlas.Console.Emoji
import RouteAtlas.Console.Handler
import RouteAtlas.Console.Theme

/-!
Text with tags in square brackets that say how it looks, as in `[bold]x[/bold]`. A tag is closed by
its name or, as the last one opened, by `[/]`; one that stays open ends with the text. A backslash
before a tag makes it plain text. A tag that begins with an at sign says what is to be done on a
click.
-/

namespace RouteAtlas

/-- Why tags cannot be read; `at_` is the place of a tag in the text. -/
inductive MarkupFault where
  /-- A closing tag without a tag to close. -/
  | notOpen (tag : String) (at_ : Nat)
  | nothingOpen (at_ : Nat)
  /-- What is to be done on a click cannot be read. -/
  | badHandler (f : HandlerFault)
  /-- A share of a mixed colour is left out. -/
  | noShare
deriving DecidableEq, Repr

def MarkupFault.message (f : MarkupFault) (host : Host := {}) : String :=
  match f with
  | .notOpen t n =>
    "closing tag '[" ++ t ++ "]' at position " ++ toString n ++ " doesn't match any open tag"
  | .nothingOpen n => "closing tag '[/]' at position " ++ toString n ++ " has nothing to close"
  | .badHandler f => f.message host
  | .noShare => Text.badIntegerMessage 10 "''"

/-- The places from `start` on and before `stop`, and how they look. -/
structure Span where
  start : Nat
  stop : Nat
  look : String
deriving DecidableEq, Repr

/-- Text without tags, with the spans that its tags make; each lies over those before it. -/
structure Marked where
  chars : List Char
  spans : List Span
deriving DecidableEq, Repr

namespace Markup

inductive Token where
  | text (cs : List Char)
  | tag (body : List Char) (at_ : Nat)
deriving DecidableEq, Repr

def startsTag (c : Char) : Bool := ('a' ≤ c && c ≤ 'z') || c = '#' || c = '/' || c = '@'

/-- What stands between the brackets of a tag at the start of the text. -/
def tag? : List Char → Option (List Char)
  | '[' :: c :: r =>
    if startsTag c then
      match r.dropWhile fun c => c ≠ ']' && c ≠ '[' with
      | ']' :: _ => some (c :: r.takeWhile fun c => c ≠ ']' && c ≠ '[')
      | _ => none
    else none
  | _ => none

/-- The tokens of a tag behind backslashes, each two of which stand for one. -/
def escapedTag (escapes : Nat) (body : List Char) (at_ : Nat) : List Token :=
  let half := escapes / 2
  let slashes := if half = 0 then [] else [Token.text (List.replicate half '\\')]
  slashes ++ [if escapes % 2 = 1 then .text ('[' :: body ++ [']']) else .tag body (at_ + 2 * half)]

def flush (pending : List Char) : List Token :=
  if pending.isEmpty then [] else [.text pending.reverse]

/-- Cuts text into tokens; `skip` characters belong to the token before. -/
def scan (at_ skip : Nat) (pending : List Char) : List Char → List Token
  | [] => flush pending
  | c :: r =>
    if 0 < skip then scan (at_ + 1) (skip - 1) pending r
    else
      let escapes := ((c :: r).takeWhile (· = '\\')).length
      match tag? ((c :: r).drop escapes) with
      | some body =>
        flush pending ++ escapedTag escapes body at_ ++
          scan (at_ + 1) (escapes + body.length + 1) [] r
      | none => scan (at_ + 1) 0 (c :: pending) r

def tokens (s : String) : List Token := scan 0 0 [] s.toList

/-- A backslash before a bracket goes. -/
def unescape : List Char → List Char
  | '\\' :: '[' :: r => '[' :: unescape r
  | c :: r => c :: unescape r
  | [] => []

/-- Bell, backspace, vertical tab, form feed and carriage return are never shown. -/
def isShown (c : Char) : Bool := !List.contains [7, 8, 11, 12, 13] c.toNat

/-- A tag that is open, under its normal name, with the value that was given to it. -/
structure OpenTag where
  start : Nat
  name : String
  value : Option String

/-- The words of a tag. -/
def OpenTag.look (t : OpenTag) : String := t.name ++ (t.value.map (" " ++ ·)).getD ""

def normalName (s : String) : Except MarkupFault String :=
  (Style.normalName s).mapError fun _ => .noShare

/-- The innermost open tag of a name, and the others. -/
def close (name : String) : List OpenTag → Option (OpenTag × List OpenTag)
  | [] => none
  | t :: ts =>
    if t.name = name then some (t, ts)
    else (close name ts).map fun (found, rest) => (found, t :: rest)

/-- The span of a tag that is closed. -/
def OpenTag.span (host : Host) (t : OpenTag) (stop : Nat) : Except MarkupFault Span :=
  if !Text.startsWith "@" t.name then .ok ⟨t.start, stop, t.look⟩
  else match (t.value.filter (· ≠ "")).bind (Handler.fault? host) with
    | some f => .error (.badHandler f)
    | none => .ok ⟨t.start, stop, ""⟩

/-- A text as far as it is read: its characters, its closed tags, the last one first, and those
open, the innermost first. -/
structure Reading where
  chars : List Char
  spans : List Span
  stack : List OpenTag

/-- Reads a tag, which stands at a place of the text. -/
def Reading.tag (host : Host) (d : Reading) (body : List Char) (at_ : Nat) :
    Except MarkupFault Reading := do
  let (name, value) := match Text.cut '=' (String.ofList body) with
    | some (n, v) => (n, some v)
    | none => (String.ofList body, none)
  let closing (t : OpenTag) (rest : List OpenTag) : Except MarkupFault Reading := do
    return { d with spans := (← t.span host d.chars.length) :: d.spans, stack := rest }
  match Text.dropStart? "/" name with
  | none => return { d with stack := ⟨d.chars.length, ← normalName name, value⟩ :: d.stack }
  | some name =>
    if Text.trim name = "" then
      match d.stack with
      | [] => throw (.nothingOpen at_)
      | t :: ts => closing t ts
    else match close (← normalName (Text.trim name)) d.stack with
      | some (t, ts) => closing t ts
      | none => throw (.notOpen (String.ofList body) at_)

def Reading.token (host : Host) (d : Reading) : Token → Except MarkupFault Reading
  | .text cs => .ok { d with chars := d.chars ++ (Emoji.drawn 0 (unescape cs)).filter isShown }
  | .tag body at_ => d.tag host body at_

/-- The spans of a text with those of the tags that are still open. Of spans that begin at one
place, one that ends later lies below. -/
def Reading.marked (d : Reading) : Marked :=
  let spans := d.stack.reverse.map (fun t => ⟨t.start, d.chars.length, t.look⟩) ++ d.spans
  ⟨d.chars, spans.mergeSort fun s t => s.start ≤ t.start⟩

end Markup

namespace Marked

/-- The text that tags make. -/
def ofMarkup (host : Host) (s : String) : Except MarkupFault Marked := do
  return ((← (Markup.tokens s).foldlM (Markup.Reading.token host) ⟨[], [], []⟩)).marked

/-- Text that has no tags. -/
def plain (s : String) : Marked := ⟨s.toList.filter Markup.isShown, []⟩

end Marked

end RouteAtlas
