import RouteAtlas.Console.Colour

/-! How text looks on a terminal, in words and as escape codes. -/

namespace RouteAtlas

/-- Ways of showing text, in the order of their codes. -/
inductive Emphasis where
  | bold | dim | italic | underline | blink | fastBlink | reverse | conceal | strike
  | doubleUnderline | frame | encircle | overline
deriving DecidableEq, Repr

namespace Emphasis

def all : List Emphasis := [
  .bold, .dim, .italic, .underline, .blink, .fastBlink, .reverse, .conceal, .strike,
  .doubleUnderline, .frame, .encircle, .overline]

def word : Emphasis → String
  | .bold => "bold"
  | .dim => "dim"
  | .italic => "italic"
  | .underline => "underline"
  | .blink => "blink"
  | .fastBlink => "blink2"
  | .reverse => "reverse"
  | .conceal => "conceal"
  | .strike => "strike"
  | .doubleUnderline => "underline2"
  | .frame => "frame"
  | .encircle => "encircle"
  | .overline => "overline"

def shortWords : List (String × Emphasis) := [
  ("b", .bold), ("d", .dim), ("i", .italic), ("u", .underline), ("r", .reverse), ("c", .conceal),
  ("s", .strike), ("uu", .doubleUnderline), ("o", .overline)]

def ofWord? (w : String) : Option Emphasis :=
  (all.find? (·.word = w)).or (shortWords.lookup w)

def code : Emphasis → Nat
  | .bold => 1
  | .dim => 2
  | .italic => 3
  | .underline => 4
  | .blink => 5
  | .fastBlink => 6
  | .reverse => 7
  | .conceal => 8
  | .strike => 9
  | .doubleUnderline => 21
  | .frame => 51
  | .encircle => 52
  | .overline => 53

end Emphasis

/-- What is switched on or off, and the colours of letters and ground. -/
structure Style where
  switches : List (Emphasis × Bool)
  letters : Option Colour
  ground : Option Colour
deriving DecidableEq, Repr

namespace Style

def plain : Style := ⟨[], none, none⟩

/-- The style with another on top of it. -/
def merge (below above : Style) : Style :=
  ⟨above.switches ++ below.switches, above.letters.or below.letters,
    above.ground.or below.ground⟩

def colourless (s : Style) : Style := ⟨s.switches, none, none⟩

/-- Reads words one after the other; a word that means nothing spoils the style. -/
def readWords (s : Style) : List String → Except LookFault Style
  | [] => .ok s
  | w :: r =>
    match Text.lower w, r with
    | "on", c :: r => do readWords { s with ground := some (← Colour.ofWord c) } r
    | "not", e :: r =>
      match Emphasis.ofWord? e with
      | some e => readWords { s with switches := (e, false) :: s.switches } r
      | none => .error .meaningless
    | w, r =>
      match Emphasis.ofWord? w with
      | some e => readWords { s with switches := (e, true) :: s.switches } r
      | none => do readWords { s with letters := some (← Colour.ofWord w) } r

/-- The style that words say. -/
def ofText (s : String) : Except LookFault Style :=
  match Text.words s with
  | [] | ["none"] => .ok plain
  | ws => readWords plain ws

/-- The words of a style in their usual order. -/
def text (s : Style) : String :=
  let switches := Emphasis.all.filterMap fun e => (s.switches.lookup e).map fun on =>
    if on then e.word else "not " ++ e.word
  let letters := s.letters.toList.map Colour.word
  let ground := s.ground.toList.flatMap fun c => ["on", c.word]
  match switches ++ letters ++ ground with
  | [] => "none"
  | ws => Text.join " " ws

/-- One spelling for all names of a style; other names are only freed of blanks and capitals. -/
def normalName (name : String) : Except LookFault String :=
  match ofText name with
  | .ok s => .ok s.text
  | .error .meaningless => .ok (Text.lower (Text.trim name))
  | .error f => .error f

def codes (depth : ColourDepth) (s : Style) : List Nat :=
  let hue (base : Nat) (c : Colour) : List Nat := (c.hue.reduce depth).codes base
  (Emphasis.all.filter fun e => s.switches.lookup e = some true).map Emphasis.code ++
    s.letters.toList.flatMap (hue 30) ++ s.ground.toList.flatMap (hue 40)

/-- Text between the codes that switch the style on and all styles off. -/
def paint (depth : ColourDepth) (s : Style) (t : String) : String :=
  let codes := s.codes depth
  if codes.isEmpty || t = "" then t
  else "\x1b[" ++ Text.join ";" (codes.map toString) ++ "m" ++ t ++ "\x1b[0m"

end Style

/-- A way to paint text in a style. -/
abbrev Painter := Style → String → String

end RouteAtlas
