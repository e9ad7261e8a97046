import RouteAtlas.Console.Table
import RouteAtlas.LogEntry

/-! Where a program speaks: data on standard output, messages on standard error. -/

namespace RouteAtlas

/-- How tables are shown. -/
inductive Display where
  | plain
  | drawn
deriving DecidableEq, Repr

/-- What is known of the terminal that a program runs in. -/
structure Terminal where
  /-- Is standard output a terminal, and not a file or a pipe? -/
  interactive : Bool
  environment : List (String × String)
  width : Nat

structure Console where
  display : Display
  colourless : Bool
  quiet : Bool
  verbose : Bool
  /-- How many colours tables can have, if the terminal understands escape codes. -/
  depth : Option ColourDepth
  /-- How wide messages are at most. -/
  width : Nat
  /-- How wide tables are at most. -/
  tableWidth : Nat
  host : Host

/-- The kinds of messages, from what was done to what went wrong. -/
inductive MessageKind where
  | info
  | success
  | warning
  | error
  | debug
deriving DecidableEq, Repr

structure Message where
  kind : MessageKind
  text : String
deriving DecidableEq, Repr

namespace Message

/-- A message as it stands where there are no colours. -/
def bare (m : Message) : String :=
  match m.kind with
  | .info | .success => m.text
  | .warning => "Warning: " ++ m.text
  | .error => "Error: " ++ m.text
  | .debug => "[debug] " ++ m.text

/-- A message with tags for its look; those in its text count as well. -/
def markup (m : Message) : String :=
  match m.kind with
  | .info => m.text
  | .success => "[green]" ++ m.text ++ "[/green]"
  | .warning => "[yellow]Warning:[/yellow] " ++ m.text
  | .error => "[bold red]Error:[/bold red] " ++ m.text
  | .debug => "[dim][debug] " ++ m.text ++ "[/dim]"

end Message

namespace Console

/-- Terminals that understand no escape codes. -/
def simpleTerminals : List String := ["dumb", "unknown"]

end Console

namespace Terminal

def setting? (t : Terminal) (name : String) : Option String := t.environment.lookup name

/-- A number of columns or lines that the environment sets. -/
def size? (t : Terminal) (name : String) : Option Nat :=
  (t.setting? name).bind fun s =>
    if s ≠ "" && s.toList.all Char.isDigit then s.toNat? else none

/-- What kind of terminal the environment tells of. -/
def kind (t : Terminal) : String := Text.lower ((t.setting? "TERM").getD "")

def isSimple (t : Terminal) : Bool := Console.simpleTerminals.contains t.kind

/-- How many colours the terminal shows, by what the environment says. -/
def depth? (t : Terminal) : Option ColourDepth :=
  if t.isSimple then none
  else if
      ["truecolor", "24bit"].contains (Text.lower (Text.trim ((t.setting? "COLORTERM").getD "")))
  then some .full
  else match (Text.splitOn '-' (Text.trim t.kind)).reverse with
    | "256color" :: _ | "kitty" :: _ => some .numbered
    | _ => some .sixteen

def columns (t : Terminal) : Nat := (t.size? "COLUMNS").getD t.width

/-- A simple terminal has eighty columns, unless its size is known. -/
def tableColumns (t : Terminal) : Nat :=
  if t.isSimple && (t.size? "LINES").isNone then 80 else t.columns

end Terminal

namespace Console

/-- Colours are off if they are not wanted, by the caller or by the environment. -/
def refusesColour (noColour : Bool) (term : Terminal) : Bool :=
  noColour || (term.setting? "NO_COLOR").isSome || term.setting? "TERM" = some "dumb"

/-- The console of a terminal; tables are drawn if asked for, or else on a terminal with colours. -/
def make (display : Option Display) (noColour quiet verbose : Bool) (term : Terminal)
    (host : Host := {}) : Console :=
  let colourless := refusesColour noColour term
  let usual : Display := if term.interactive && !colourless then .drawn else .plain
  ⟨display.getD usual, colourless, quiet, verbose, term.depth?, term.columns, term.tableColumns,
    host⟩

def isMuted (c : Console) : MessageKind → Bool
  | .info | .success => c.quiet
  | .debug => !c.verbose
  | .warning | .error => false

/-- What a message adds to standard error, which shows no styles. -/
def messageText (c : Console) (m : Message) : Except MarkupFault String :=
  if c.isMuted m.kind then .ok ""
  else if c.colourless then .ok (m.bare ++ "\n")
  else do
    let text ← Marked.ofMarkup c.host m.markup
    if c.width = 0 then return ""
    let ls := (Glyph.wrap c.width true false text.glyphs).map (Glyph.pieces .plain)
    return String.join (ls.map fun l => Piece.text (Piece.cropped c.width l) ++ "\n")

/-- What an entry of the log adds to standard error: its level in nine columns and its text. -/
def logText (c : Console) (e : LogEntry) : String :=
  if e.isDetail && !c.verbose then ""
  else
    let level := if e.isDetail then "DEBUG    " else "WARNING  "
    match (Glyph.wrap (c.width - 9) true false (Marked.plain e.text).glyphs).map Glyph.text with
    | [] => level ++ "\n"
    | l :: ls => level ++ l ++ "\n" ++ String.join (ls.map fun l => "         " ++ l ++ "\n")

def painter (c : Console) : Painter := fun s t =>
  match c.depth with
  | none => t
  | some d => (if c.colourless then s.colourless else s).paint d t

/-- What a table adds to standard output. -/
def tableText (c : Console) (t : Table) : Except MarkupFault String :=
  match c.display with
  | .plain => .ok t.plain
  | .drawn => t.drawn c.host c.painter c.tableWidth

end Console

end RouteAtlas
