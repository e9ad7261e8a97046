import RouteAtlas.Decimal.Notation

/-! Plain data as configuration and document files hold it, with the order of mapping entries kept.
-/

namespace RouteAtlas

structure Date where
  year : Nat
  month : Nat
  day : Nat
deriving DecidableEq, Repr, Inhabited

/-- A date with a time of day, and the offset from universal time in millionths of a second if
it is known. -/
structure Moment where
  date : Date
  hour : Nat
  minute : Nat
  second : Nat
  micro : Nat
  offset : Option Int
deriving DecidableEq, Repr, Inhabited

/-- The number of a day, counted from the day before the first one of the calendar. -/
def Date.number (d : Date) : Int :=
  let month := (d.month + 9) % 12
  let year := if d.month ≤ 2 then d.year - 1 else d.year
  (365 * year + year / 4 - year / 100 + year / 400 + (153 * month + 2) / 5 + d.day : Nat) - 306

/-- Millionths of a second since the first day began, by the clock that the moment is told by. -/
def Moment.clockTime (m : Moment) : Int :=
  (((m.date.number * 24 + m.hour) * 60 + m.minute) * 60 + m.second) * 1000000 + m.micro

/-- Is it the same instant, or the same reading of clocks whose offset is not known? -/
def Moment.same (m n : Moment) : Bool :=
  match m.offset, n.offset with
  | none, none => m.clockTime = n.clockTime
  | some a, some b => m.clockTime - a = n.clockTime - b
  | _, _ => false

inductive Value where
  | null
  | bool (b : Bool)
  | int (n : Int)
  | float (x : Float)
  | str (s : String)
  | bytes (bs : List UInt8)
  | date (d : Date)
  | moment (m : Moment)
  | list (items : List Value)
  | tuple (items : List Value)
  | set (items : List Value)
  | map (entries : List (Value × Value))
deriving Inhabited, Repr

namespace Value

/-- A mapping whose keys are all texts. -/
def object (entries : List (String × Value)) : Value := .map (entries.map fun e => (.str e.1, e.2))

/-- The value of the last entry with this key. -/
def lookup (key : String) : List (Value × Value) → Option Value
  | [] => none
  | (k, v) :: r =>
    match lookup key r with
    | some w => some w
    | none => match k with
      | .str s => if s = key then some v else none
      | _ => none

def get? (key : String) : Value → Option Value
  | .map entries => lookup key entries
  | _ => none

/-- The word for the kind of a value. -/
def kindName : Value → String
  | .null => "NoneType"
  | .bool _ => "bool"
  | .int _ => "int"
  | .float _ => "float"
  | .str _ => "str"
  | .bytes _ => "bytes"
  | .date _ => "date"
  | .moment _ => "datetime"
  | .list _ => "list"
  | .tuple _ => "tuple"
  | .set _ => "set"
  | .map _ => "dict"

/-- The whole number that a finite binary number equals. -/
def floatInt? (x : Float) : Option Int :=
  let bits : Nat := x.toBits.toNat
  let expo : Nat := bits / Nat.pow 2 52 % Nat.pow 2 11
  let frac : Nat := bits % Nat.pow 2 52
  if expo = 2047 then none
  else
    let m : Nat := if expo = 0 then frac else Nat.pow 2 52 + frac
    let e : Int := if expo = 0 then -1074 else (expo : Int) - 1075
    let n := m * Nat.pow 2 e.toNat
    let d := Nat.pow 2 (-e).toNat
    let whole : Int := (n / d : Nat)
    if n % d = 0 then some (if Nat.pow 2 63 ≤ bits then -whole else whole)
    else none

/-- The finite binary number without its fraction. -/
def floatTrunc? (x : Float) : Option Int :=
  let bits : Nat := x.toBits.toNat
  let expo : Nat := bits / Nat.pow 2 52 % Nat.pow 2 11
  let frac : Nat := bits % Nat.pow 2 52
  if expo = 2047 then none
  else
    let m : Nat := if expo = 0 then frac else Nat.pow 2 52 + frac
    let e : Int := if expo = 0 then -1074 else (expo : Int) - 1075
    let n := m * Nat.pow 2 e.toNat / Nat.pow 2 (-e).toNat
    some (if Nat.pow 2 63 ≤ bits then -(n : Int) else (n : Int))

/-- The whole number that a truth value, a whole number or a binary number equals. -/
def whole? : Value → Option Int
  | .bool b => some (if b then 1 else 0)
  | .int n => some n
  | .float x => floatInt? x
  | _ => none

mutual

/-- Equality of contents: numbers by what they count, whatever they are written as. -/
def same : Value → Value → Bool
  | .null, .null => true
  | .str s, .str t => s = t
  | .bytes s, .bytes t => s = t
  | .date s, .date t => s = t
  | .moment s, .moment t => s.same t
  | .float x, .float y => x == y
  | .list xs, .list ys => sameList xs ys
  | .tuple xs, .tuple ys => sameList xs ys
  | .set xs, .set ys => xs.length = ys.length && sameWithin xs ys
  | .map xs, .map ys => xs.length = ys.length && sameEntries xs ys
  | a, b => match a.whole?, b.whole? with
    | some m, some n => m = n
    | _, _ => false

def sameList : List Value → List Value → Bool
  | [], [] => true
  | x :: xs, y :: ys => same x y && sameList xs ys
  | _, _ => false

/-- Is every one of the first values the same as one of the second? -/
def sameWithin : List Value → List Value → Bool
  | [], _ => true
  | x :: xs, ys => ys.any (fun y => same x y) && sameWithin xs ys

def sameEntries : List (Value × Value) → List (Value × Value) → Bool
  | [], _ => true
  | (k, v) :: r, ys => ys.any (fun e => same k e.1 && same v e.2) && sameEntries r ys

end

/-- Enters a value; a key that is there already keeps its place. -/
def putEntry (k v : Value) : List (Value × Value) → List (Value × Value)
  | [] => [(k, v)]
  | (k', v') :: r => if same k' k then (k', v) :: r else (k', v') :: putEntry k v r

/-- Is the value anything but nothing, false, zero or empty? -/
def isTrue : Value → Bool
  | .null => false
  | .bool b => b
  | .int n => n ≠ 0
  | .float x => x != 0.0
  | .str s => s ≠ ""
  | .bytes bs => !bs.isEmpty
  | .date _ => true
  | .moment _ => true
  | .list vs => !vs.isEmpty
  | .tuple vs => !vs.isEmpty
  | .set vs => !vs.isEmpty
  | .map es => !es.isEmpty

/-- A text, or null for want of one. -/
def ofText? : Option String → Value
  | some s => .str s
  | none => .null

/-- Is the value a text or null? -/
def isTextOrNull : Value → Bool
  | .str _ => true
  | .null => true
  | _ => false

/-- Drops every value that repeats an earlier one. -/
def distinct (values : List Value) : List Value :=
  (values.foldl (fun seen v => if seen.any (same v) then seen else v :: seen) []).reverse

end Value

end RouteAtlas
