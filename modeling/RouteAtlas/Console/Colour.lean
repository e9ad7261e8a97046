import RouteAtlas.Console.ColourTable
import RouteAtlas.Rounding
import RouteAtlas.Text.Case
import RouteAtlas.Text.Integer
import RouteAtlas.Text.Lines

/-!
Colours, in words and as the codes that select them. A terminal that shows fewer colours than were
asked for shows those that come nearest.
-/

namespace RouteAtlas

/-- How many colours a terminal shows. -/
inductive ColourDepth where
  | sixteen
  | numbered
  | full
deriving DecidableEq, Repr

/-- The shares of red, green and blue in a colour. -/
structure Mixture where
  red : UInt8
  green : UInt8
  blue : UInt8
deriving DecidableEq, Repr

/-- The colour that a terminal has by itself, one by its number, or one by its mixture. -/
inductive Hue where
  | own
  | numbered (n : UInt8)
  | mixed (m : Mixture)
deriving DecidableEq, Repr

/-- A colour under the word that it was asked for with. -/
structure Colour where
  word : String
  hue : Hue
deriving DecidableEq, Repr

/-- Why words do not say how something looks. -/
inductive LookFault where
  | meaningless
  /-- A share of a mixed colour is left out. -/
  | noShare
deriving DecidableEq, Repr

namespace Mixture

/-- How far apart two mixtures look. -/
def distance (a b : Mixture) : Nat :=
  let gap (x y : UInt8) : Nat := max x.toNat y.toNat - min x.toNat y.toNat
  let square (x y : UInt8) : Nat := gap x y * gap x y
  let mean := (a.red.toNat + b.red.toNat) / 2
  (512 + mean) * square a.red b.red / 256 + 4 * square a.green b.green +
    (767 - mean) * square a.blue b.blue / 256

/-- The first sixteen numbered colours as terminals with few colours show them. -/
def sixteen : List Mixture := [
  ⟨0, 0, 0⟩, ⟨170, 0, 0⟩, ⟨0, 170, 0⟩, ⟨170, 85, 0⟩, ⟨0, 0, 170⟩, ⟨170, 0, 170⟩, ⟨0, 170, 170⟩,
  ⟨170, 170, 170⟩, ⟨85, 85, 85⟩, ⟨255, 85, 85⟩, ⟨85, 255, 85⟩, ⟨255, 255, 85⟩, ⟨85, 85, 255⟩,
  ⟨255, 85, 255⟩, ⟨85, 255, 255⟩, ⟨255, 255, 255⟩]

/-- The number of the nearest of sixteen colours, the first of equally near ones. -/
def nearest (m : Mixture) : Nat :=
  (sixteen.zipIdx.foldl (fun (best : Nat × Nat) (c, i) =>
    let d := m.distance c
    if d < best.1 then (d, i) else best) (m.distance ⟨0, 0, 0⟩, 0)).2

/-- The shares that the cube of numbered colours is built from. -/
def levels : List UInt8 := [0, 95, 135, 175, 215, 255]

/-- The mixture of a numbered colour behind the first sixteen: a cube of colours, and then greys. -/
def ofNumber (n : Nat) : Mixture :=
  if n < 232 then
    let level (i : Nat) : UInt8 := levels.getD (i % 6) 0
    ⟨level ((n - 16) / 36), level ((n - 16) / 6), level (n - 16)⟩
  else
    let grey := (8 + 10 * (n - 232)).toUInt8
    ⟨grey, grey, grey⟩

/-- Is the saturation of the colour below fifteen hundredths? -/
def isGrey (m : Mixture) : Bool :=
  let high := max m.red.toNat (max m.green.toNat m.blue.toNat)
  let low := min m.red.toNat (min m.green.toNat m.blue.toNat)
  let total := high + low
  high = low || (high - low) * 20 < 3 * (if total ≤ 255 then total else 510 - total)

/-- The number of the nearest colour of the cube or of the greys. -/
def number (m : Mixture) : Nat :=
  if m.isGrey then
    let high := max m.red.toNat (max m.green.toNat m.blue.toNat)
    let low := min m.red.toNat (min m.green.toNat m.blue.toNat)
    match roundedQuotient ((high + low) * 25) 510 with
    | 0 => 16
    | 25 => 231
    | n => 231 + n
  else
    let step (x : UInt8) : Nat :=
      if x < 95 then roundedQuotient x.toNat 95 else roundedQuotient (x.toNat - 55) 40
    16 + 36 * step m.red + 6 * step m.green + step m.blue

end Mixture

namespace Hue

/-- The nearest colour that a terminal shows. -/
def reduce (depth : ColourDepth) : Hue → Hue
  | .own => .own
  | .numbered n =>
    if depth = .sixteen && 16 ≤ n then .numbered (Mixture.ofNumber n.toNat).nearest.toUInt8
    else .numbered n
  | .mixed m =>
    match depth with
    | .full => .mixed m
    | .numbered => .numbered m.number.toUInt8
    | .sixteen => .numbered m.nearest.toUInt8

/-- The codes that select the colour, where `base` is that of the first. -/
def codes (base : Nat) : Hue → List Nat
  | .own => [base + 9]
  | .numbered n =>
    if n < 8 then [base + n.toNat]
    else if n < 16 then [base + 52 + n.toNat]
    else [base + 8, 5, n.toNat]
  | .mixed m => [base + 8, 2, m.red.toNat, m.green.toNat, m.blue.toNat]

end Hue

namespace Colour

/-- The numbered colours by their names. -/
def names : List (String × UInt8) :=
  ((Text.splitOn '\n' ColourTable.entries).flatMap (Text.splitOn ' ')).filterMap fun e =>
    (Text.cut '=' e).map fun (name, n) => (name, (n.toNat?.getD 0).toUInt8)

def hexValue? (c : Char) : Option Nat :=
  if c.isDigit then some (c.toNat - '0'.toNat)
  else if 'a' ≤ c && c ≤ 'f' then some (c.toNat - 'a'.toNat + 10)
  else none

/-- A mixture of six digits to the base sixteen. -/
def ofHex? (cs : List Char) : Option Mixture := do
  match ← cs.mapM hexValue? with
  | [a, b, c, d, e, f] =>
    some ⟨(16 * a + b).toUInt8, (16 * c + d).toUInt8, (16 * e + f).toUInt8⟩
  | _ => none

/-- What stands between a name with a bracket and a closing bracket. -/
def within? (name w : String) : Option String :=
  (Text.dropStart? (name ++ "(") w).bind fun r =>
    if Text.endsWith ")" r then some (String.ofList r.toList.dropLast) else none

/-- A number of up to three digits. -/
def ofNumber? (s : String) : Option UInt8 :=
  if s.length ≤ 3 && s.toList.all Char.isDigit then
    s.toNat?.bind fun n => if n < 256 then some n.toUInt8 else none
  else none

/-- Three shares with commas between them. -/
def ofShares (s : String) : Except LookFault Mixture := do
  let parts := Text.splitOn ',' s
  if parts.length ≠ 3 || !(s.toList.all fun c => c = ',' || (Text.digit? c).isSome) then
    throw .meaningless
  let share (p : String) : Except LookFault Nat :=
    match Text.digitsValue? 10 0 true (Text.plainNumber p.toList) with
    | some n => .ok n
    | none => .error .noShare
  match ← parts.mapM share with
  | [r, g, b] =>
    if r ≤ 255 && g ≤ 255 && b ≤ 255 then return ⟨r.toUInt8, g.toUInt8, b.toUInt8⟩
    else throw .meaningless
  | _ => throw .meaningless

/-- The colour that a word names, in whatever case. -/
def ofWord (w : String) : Except LookFault Colour :=
  let w := Text.lower w
  let known (h : Option Hue) : Except LookFault Colour :=
    match h with
    | some h => .ok ⟨w, h⟩
    | none => .error .meaningless
  if w = "default" then .ok ⟨w, .own⟩
  else match names.lookup w with
    | some n => .ok ⟨w, .numbered n⟩
    | none =>
      match w.toList with
      | '#' :: cs => known ((ofHex? cs).map .mixed)
      | _ =>
        match within? "color" w, within? "rgb" w with
        | some s, _ => known ((ofNumber? s).map .numbered)
        | none, some s => (ofShares s).map fun m => ⟨w, .mixed m⟩
        | none, none => .error .meaningless

end Colour

end RouteAtlas
