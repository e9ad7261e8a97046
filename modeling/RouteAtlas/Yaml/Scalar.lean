import RouteAtlas.Text.Split

/-! What a scalar without quotes stands for, by the form of its text. -/

namespace RouteAtlas.Yaml

/-- The kinds of plain scalars. -/
inductive ScalarKind where
  | null
  | bool
  | int
  | float
  | moment
  /-- The key under which mappings to be merged stand. -/
  | merge
  /-- The key under which a default value stands. -/
  | value
  | str
deriving DecidableEq, Repr

namespace Scalar

def isDigit (c : Char) : Bool := '0' ≤ c && c ≤ '9'

def isDigitLike (c : Char) : Bool := isDigit c || c = '_'

/-- The text without a sign in front. -/
def unsigned : List Char → List Char
  | '+' :: r => r
  | '-' :: r => r
  | r => r

def boolWords : List String := [
  "yes", "Yes", "YES", "no", "No", "NO", "true", "True", "TRUE", "false", "False", "FALSE",
  "on", "On", "ON", "off", "Off", "OFF"]

def nullWords : List String := ["~", "null", "Null", "NULL", ""]

/-- One digit, or two of which the first is at most five: a count of minutes or seconds. -/
def isSixtieth : List Char → Bool
  | [a] => isDigit a
  | [a, b] => '0' ≤ a && a ≤ '5' && isDigit b
  | _ => false

/-- Counts to base sixty set apart by colons, the first of which may be any number. -/
def isSexagesimal (leading : Char → Bool) (cs : List Char) : Bool :=
  match Text.pieces ':' cs with
  | (d :: r) :: g :: gs => leading d && r.all isDigitLike && (g :: gs).all isSixtieth
  | _ => false

def isNonzero (c : Char) : Bool := '1' ≤ c && c ≤ '9'

def isHexDigit (c : Char) : Bool := isDigit c || ('a' ≤ c && c ≤ 'f') || ('A' ≤ c && c ≤ 'F')

def isInt (cs : List Char) : Bool :=
  match unsigned cs with
  | ['0'] => true
  | '0' :: 'b' :: r => !r.isEmpty && r.all fun c => c = '0' || c = '1' || c = '_'
  | '0' :: 'x' :: r => !r.isEmpty && r.all fun c => isHexDigit c || c = '_'
  | '0' :: r => r.all fun c => ('0' ≤ c && c ≤ '7') || c = '_'
  | d :: r => isNonzero d && (r.all isDigitLike || isSexagesimal isNonzero (d :: r))
  | [] => false

/-- Nothing, or a power of ten with a sign. -/
def isPower : List Char → Bool
  | [] => true
  | e :: s :: r => (e = 'e' || e = 'E') && (s = '+' || s = '-') && !r.isEmpty && r.all isDigit
  | _ => false

/-- Digits behind the point and a power of ten. -/
def isFraction (cs : List Char) : Bool := isPower (cs.dropWhile isDigitLike)

def isFloat (cs : List Char) : Bool :=
  let us := unsigned cs
  let whole := us.takeWhile (· ≠ '.')
  match us.drop whole.length with
  | '.' :: r =>
    match whole with
    | [] =>
      ["inf", "Inf", "INF"].contains (String.ofList r) ||
        (us = cs && (["nan", "NaN", "NAN"].contains (String.ofList r) ||
          ((r.head?.map isDigit).getD false && isFraction r)))
    | d :: ds =>
      (isDigit d && ds.all isDigitLike && isFraction r) ||
        (isSexagesimal isDigit (d :: ds) && r.all isDigitLike)
  | _ => false

/-- The parts of a date and a time of day as they are written. -/
structure MomentText where
  year : List Char
  month : List Char
  day : List Char
  clock : Option (List Char × List Char × List Char)
  fraction : List Char
  /-- Sign, hours and minutes of the offset; without a sign it is none. -/
  offset : Option (Option Char × List Char × List Char)

/-- Between `least` and `most` digits and what follows them. -/
def digits? (least most : Nat) (cs : List Char) : Option (List Char × List Char) :=
  let ds := (cs.take most).takeWhile isDigit
  if ds.length < least then none else some (ds, cs.drop ds.length)

def mark? (c : Char) : List Char → Option (List Char)
  | d :: r => if c = d then some r else none
  | [] => none

def isBlankOrTab (c : Char) : Bool := c = ' ' || c = '\t'

/-- Everything behind the seconds and their fraction. -/
def offset? (cs : List Char) : Option (Option (Option Char × List Char × List Char)) :=
  if cs.isEmpty then some none
  else match cs.dropWhile isBlankOrTab with
    | ['Z'] => some (some (none, [], []))
    | s :: r =>
      if s = '+' || s = '-' then do
        let (h, r) ← digits? 1 2 r
        if r.isEmpty then return some (some s, h, [])
        else
          let (m, r) ← digits? 2 2 (← mark? ':' r)
          if r.isEmpty then return some (some s, h, m) else none
      else none
    | [] => none

/-- What stands between a date and a time of day. -/
def dayEnd? : List Char → Option (List Char)
  | [] => none
  | c :: r =>
    if c = 'T' || c = 't' then some r
    else if isBlankOrTab c then some (r.dropWhile isBlankOrTab) else none

def momentText? (cs : List Char) : Option MomentText := do
  let (year, r) ← digits? 4 4 cs
  let (month, r) ← digits? 1 2 (← mark? '-' r)
  let (day, r) ← digits? 1 2 (← mark? '-' r)
  if r.isEmpty then return ⟨year, month, day, none, [], none⟩
  else
    let (hour, r) ← digits? 1 2 (← dayEnd? r)
    let (minute, r) ← digits? 2 2 (← mark? ':' r)
    let (second, r) ← digits? 2 2 (← mark? ':' r)
    let (fraction, r) := match r with
      | '.' :: r => (r.takeWhile isDigit, r.dropWhile isDigit)
      | r => ([], r)
    return ⟨year, month, day, some (hour, minute, second), fraction, ← offset? r⟩

/-- The text without a last line feed, which no form of a scalar speaks of. -/
def withoutLastFeed (cs : List Char) : List Char :=
  if cs.getLast? = some '\n' then cs.dropLast else cs

/-- A date alone is written with two digits for month and day. -/
def isMoment (cs : List Char) : Bool :=
  match momentText? cs with
  | some m => m.clock.isSome || (m.month.length = 2 && m.day.length = 2)
  | none => false

end Scalar

/-- The kind of a plain scalar; a lone line feed is a text. -/
def ScalarKind.ofPlain (text : String) : ScalarKind :=
  let cs := if text = "\n" then ['\n'] else Scalar.withoutLastFeed text.toList
  let s := String.ofList cs
  if Scalar.boolWords.contains s then .bool
  else if Scalar.nullWords.contains s then .null
  else if Scalar.isFloat cs then .float
  else if Scalar.isInt cs then .int
  else if s = "<<" then .merge
  else if s = "=" then .value
  else if Scalar.isMoment cs then .moment
  else .str

end RouteAtlas.Yaml
