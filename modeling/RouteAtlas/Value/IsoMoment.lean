import RouteAtlas.Value.Calendar

/-!
Dates and moments in their standard written forms: `2024-01-31` and `20240131`, a week `2024-W05`
or one of its days `2024-W05-3`, with a time of day behind any one character. The forms are told
apart by their bytes, and what ends too early is read as if zeros followed.
-/

namespace RouteAtlas.IsoMoment

abbrev Bytes := List UInt8

def isDigit (b : UInt8) : Bool := 48 ≤ b && b ≤ 57

/-- The number of the first `n` bytes, which must be digits, and what is behind them. -/
def digits? : Nat → Bytes → Nat → Option (Nat × Bytes)
  | 0, bs, acc => some (acc, bs)
  | n + 1, b :: bs, acc => if isDigit b then digits? n bs (acc * 10 + (b.toNat - 48)) else none
  | _ + 1, [], _ => none

def startsWith (c : Char) (bs : Bytes) : Bool := bs.head? = some c.toUInt8

/-- Takes a hyphen away where hyphens separate the parts. -/
def separated? (hyphens : Bool) (bs : Bytes) : Option Bytes :=
  if !hyphens then some bs else if startsWith '-' bs then some (bs.drop 1) else none

/-- The date that the first `length` bytes are told to hold. -/
def date? (bs : Bytes) (length : Nat) : Option Date := do
  let (year, r) ← digits? 4 bs 0
  let hyphens := startsWith '-' r
  let r := if hyphens then r.drop 1 else r
  if startsWith 'W' r then
    let (week, r) ← digits? 2 (r.drop 1) 0
    if bs.length - r.length < length then
      let (day, _) ← digits? 1 (← separated? hyphens r) 0
      Date.ofWeek? year week day
    else Date.ofWeek? year week 1
  else
    let (month, r) ← digits? 2 r 0
    let (day, _) ← digits? 2 (← separated? hyphens r) 0
    return ⟨year, month, day⟩

/-- How many bytes the date takes up in front of a time of day. -/
def dateLength (bs : Bytes) : Nat :=
  let at_ (n : Nat) : UInt8 := bs[n]?.getD 0
  let hyphen := '-'.toUInt8
  if bs.length = 7 then 7
  else if at_ 4 = hyphen then
    if at_ 5 ≠ 'W'.toUInt8 then 10
    else if at_ 8 ≠ hyphen then 8
    else if isDigit (at_ 10) then 8 else 10
  else if at_ 4 = 'W'.toUInt8 then
    let stop := 7 + ((bs.drop 7).takeWhile isDigit).length
    if stop < 9 then stop else if stop % 2 = 0 then 7 else 8
  else 8

/-- What follows the character that a text begins with. -/
def afterCharacter : Bytes → Bytes
  | [] => []
  | b :: bs => bs.drop (if b < 128 then 0 else if b < 224 then 1 else if b < 240 then 2 else 3)

/-- A time of day or an offset: hours, minutes, seconds and millionths, and whether more follows. -/
structure Clock where
  hour : Nat
  minute : Nat
  second : Nat
  micro : Nat
  more : Bool

/-- The fraction of a second within the first `width` bytes. -/
def fraction? (width : Nat) (bs : Bytes) : Option (Nat × Bool) := do
  let n := min width 6
  let (value, r) ← digits? n bs 0
  let value := if n < 6 then value * Nat.pow 10 (6 - n) else value
  let r := r.dropWhile isDigit
  return (value, r.headD 0 ≠ 0)

/-- Reads parts of two digits into `parts` as long as the first `width` bytes reach; `left` parts
may still come, and colons stand between them or not. -/
def clockParts? (colons : Bool) (parts : List Nat) :
    Nat → Nat → Bytes → Option (List Nat × Nat × Bool)
  | 0, width, bs => (fraction? width bs).map fun f => (parts, f)
  | left + 1, width, bs => do
    let (n, r) ← digits? 2 bs 0
    let parts := parts ++ [n]
    let c := r.headD 0
    let colons := if left = 2 then c = ':'.toUInt8 else colons
    if width ≤ 3 then return (parts, 0, c ≠ 0)
    else if colons && c = ':'.toUInt8 then clockParts? colons parts left (width - 3) (r.drop 1)
    else if c = '.'.toUInt8 || c = ','.toUInt8 then
      (fraction? (width - 3) (r.drop 1)).map fun f => (parts, f)
    else if colons then none
    else clockParts? colons parts left (width - 2) r

def clock? (width : Nat) (bs : Bytes) : Option Clock :=
  (clockParts? true [] 3 width bs).map fun (ps, micro, more) =>
    ⟨ps.getD 0 0, ps.getD 1 0, ps.getD 2 0, micro, more⟩

/-- Does an offset begin here? -/
def startsOffset (b : UInt8) : Bool := b = '+'.toUInt8 || b = '-'.toUInt8 || b = 'Z'.toUInt8

/-- A time of day with the offset from universal time that it may end in, in millionths of a second.
-/
def timeOfDay? (bs : Bytes) : Option (Clock × Option Int) := do
  let width := match bs with
    | [] => 0
    | b :: r => if startsOffset b then 0 else 1 + (r.takeWhile fun b => !startsOffset b).length
  let clock ← clock? width bs
  match bs.drop width with
  | [] => if clock.more then none else some (clock, none)
  | sign :: r =>
    if sign = 'Z'.toUInt8 then if r.headD 0 = 0 then some (clock, some 0) else none
    else
      let o ← clock? r.length r
      let seconds : Int := o.hour * 3600 + o.minute * 60 + o.second
      let micros := if seconds = 0 then 0 else seconds * 1000000 + o.micro
      if o.more then none else some (clock, some (if sign = '-'.toUInt8 then -micros else micros))

/-- A date from its written form; nothing if it has not the form of one. -/
def readDate? (s : String) : Option (Except MomentFault Date) :=
  let bs := s.toUTF8.toList
  if bs.length = 7 || bs.length = 8 || bs.length = 10 then (date? bs bs.length).map Date.checked
  else none

/-- A moment from its written form, at midnight if only a date is given. -/
def readMoment? (s : String) : Option (Except MomentFault Moment) := do
  let bs := s.toUTF8.toList
  if bs.length < 7 then none
  else
    let n := dateLength bs
    let date ← date? bs n
    if bs.length ≤ n then return Moment.make date 0 0 0 0 none
    else
      let (c, offset) ← timeOfDay? (afterCharacter (bs.drop n))
      return Moment.make date c.hour c.minute c.second c.micro offset

end RouteAtlas.IsoMoment
