import RouteAtlas.Decimal.Reader
import RouteAtlas.Host

/-! Reading JSON text, with the place and cause of the first mistake. -/

namespace RouteAtlas.Json

open Decimal (isDigit natOfDigits)

/-- What is wrong at a place. -/
inductive Mistake where
  | value
  | propertyName
  | colon
  | comma
  | extraData
  | controlCharacter
  | escape
  | unicodeEscape
  | unterminated
  | byteOrderMark
deriving DecidableEq, Repr

def Mistake.text : Mistake → String
  | .value => "Expecting value"
  | .propertyName => "Expecting property name enclosed in double quotes"
  | .colon => "Expecting ':' delimiter"
  | .comma => "Expecting ',' delimiter"
  | .extraData => "Extra data"
  | .controlCharacter => "Invalid control character at"
  | .escape => "Invalid \\escape"
  | .unicodeEscape => "Invalid \\uXXXX escape"
  | .unterminated => "Unterminated string starting at"
  | .byteOrderMark => "Unexpected UTF-8 BOM (decode using utf-8-sig)"

inductive Error where
  /-- The text is not JSON, seen at the character with this index. -/
  | malformed (mistake : Mistake) (at_ : Nat)
  | limit (f : LimitFault)
deriving DecidableEq, Repr

/-- The mistake with its line, its column and the index of its character. -/
def describe (source : List Char) (mistake : Mistake) (index : Nat) : String :=
  let before := source.take index
  let line := before.count '\n' + 1
  let column := (before.reverse.takeWhile (· ≠ '\n')).length + 1
  mistake.text ++ ": line " ++ toString line ++ " column " ++ toString column ++
    " (char " ++ toString index ++ ")"

def isSpace (c : Char) : Bool := c = ' ' || c = '\t' || c = '\n' || c = '\r'

/-- The rest of the text and the index of its first character. -/
structure Cursor where
  index : Nat
  rest : List Char

namespace Cursor

def advance (c : Cursor) (n : Nat) : Cursor := ⟨c.index + n, c.rest.drop n⟩

def skipSpace (c : Cursor) : Cursor := c.advance (c.rest.takeWhile isSpace).length

end Cursor

def fail {α : Type} (mistake : Mistake) (index : Nat) : Except Error α :=
  .error (.malformed mistake index)

/-- Goes on unless a limit is in the way. -/
def within {α : Type} (fault? : Option LimitFault) (r : Except Error α) : Except Error α :=
  match fault? with
  | some f => .error (.limit f)
  | none => r

def hexDigit? (c : Char) : Option Nat :=
  if '0' ≤ c && c ≤ '9' then some (c.toNat - 48)
  else if 'a' ≤ c && c ≤ 'f' then some (c.toNat - 87)
  else if 'A' ≤ c && c ≤ 'F' then some (c.toNat - 55)
  else none

/-- The value of exactly four hexadecimal digits. -/
def hex4? : List Char → Option Nat
  | [a, b, c, d] => do
    let a ← hexDigit? a
    let b ← hexDigit? b
    let c ← hexDigit? c
    let d ← hexDigit? d
    return ((a * 16 + b) * 16 + c) * 16 + d
  | _ => none

def simpleEscape? : Char → Option Char
  | '"' => some '"'
  | '\\' => some '\\'
  | '/' => some '/'
  | 'b' => some '\x08'
  | 'f' => some '\x0c'
  | 'n' => some '\n'
  | 'r' => some '\r'
  | 't' => some '\t'
  | _ => none

/-- The character behind `\u`, where a pair of halves counts as one; `c` stands behind the `u`. -/
def unicodeEscape (c : Cursor) : Except Error (Char × Cursor) :=
  if c.rest.length ≤ 4 then fail .unicodeEscape (c.index - 1)
  else match hex4? (c.rest.take 4) with
    | none => fail .unicodeEscape (c.index - 1)
    | some high =>
      let next := c.advance 4
      if 0xd800 ≤ high && high < 0xdc00 && next.rest.length > 6 &&
          next.rest.take 2 = ['\\', 'u'] then
        match hex4? ((next.rest.drop 2).take 4) with
        | none => fail .unicodeEscape (next.index + 1)
        | some low =>
          if 0xdc00 ≤ low && low < 0xe000 then
            .ok (Char.ofNat (0x10000 + (high - 0xd800) * 0x400 + (low - 0xdc00)), next.advance 6)
          else .ok ('\ufffd', next)
      else if 0xd800 ≤ high && high < 0xe000 then .ok ('\ufffd', next)
      else .ok (Char.ofNat high, next)

/-- The characters up to the closing quote; `start` is the index of the opening one. -/
def stringBody (start : Nat) : Nat → List Char → Cursor → Except Error (String × Cursor)
  | 0, _, _ => fail .unterminated start
  | fuel + 1, acc, c =>
    match c.rest with
    | [] => fail .unterminated start
    | '"' :: _ => .ok (String.ofList acc.reverse, c.advance 1)
    | '\\' :: r =>
      match r with
      | [] => fail .unterminated start
      | 'u' :: _ => do
        let (ch, next) ← unicodeEscape (c.advance 2)
        stringBody start fuel (ch :: acc) next
      | e :: _ =>
        match simpleEscape? e with
        | none => fail .escape c.index
        | some ch => stringBody start fuel (ch :: acc) (c.advance 2)
    | ch :: _ =>
      if ch.toNat ≤ 0x1f then fail .controlCharacter c.index
      else stringBody start fuel (ch :: acc) (c.advance 1)

/-- A number from its sign, its whole digits, its fraction and its power of ten. -/
def numberOf (negative : Bool) (whole : List Char) (fraction : Option (List Char))
    (power : Option Int) : Value :=
  match fraction, power with
  | none, none => .int (if negative then -(natOfDigits whole : Int) else natOfDigits whole)
  | f, p =>
    let f := f.getD []
    .float (Decimal.nearest negative (natOfDigits (whole ++ f)) (p.getD 0 - f.length))

/-- The power of ten behind `e`, and how many characters it takes. -/
def powerPart : List Char → Option (Int × Nat)
  | e :: r =>
    if e = 'e' || e = 'E' then
      let (negative, signs, r) := match r with
        | '+' :: r => (false, 1, r)
        | '-' :: r => (true, 1, r)
        | r => (false, 0, r)
      let ds := r.takeWhile isDigit
      if ds.isEmpty then none
      else
        let n : Int := natOfDigits ds
        some (if negative then -n else n, 1 + signs + ds.length)
    else none
  | [] => none

def fractionPart : List Char → Option (List Char)
  | '.' :: r =>
    let ds := r.takeWhile isDigit
    if ds.isEmpty then none else some ds
  | _ => none

/-- What stands in the way of a number with so many digits in front, if it is a whole one. -/
def wholeFault? (host : Host) (digits : Nat) (fraction : Option (List Char)) (power : Option Int) :
    Option LimitFault :=
  if fraction.isNone && power.isNone then host.digitsFault? digits else none

def number (host : Host) (c : Cursor) : Except Error (Value × Cursor) := do
  let (negative, body) := match c.rest with
    | '-' :: r => (true, r)
    | r => (false, r)
  let whole := match body with
    | '0' :: _ => ['0']
    | r => r.takeWhile isDigit
  if whole.isEmpty then fail .value c.index
  else
    let r := body.drop whole.length
    let fraction := fractionPart r
    let r := r.drop ((fraction.map (·.length + 1)).getD 0)
    let power := powerPart r
    let v := numberOf negative whole fraction (power.map (·.1))
    let used := (if negative then 1 else 0) + whole.length + (fraction.map (·.length + 1)).getD 0 +
      (power.map (·.2)).getD 0
    within (wholeFault? host whole.length fraction (power.map (·.1))) (.ok (v, c.advance used))

/-- The words that stand for a value. -/
def words : List (List Char × Value) :=
  [("null".toList, .null), ("true".toList, .bool true), ("false".toList, .bool false),
    ("NaN".toList, .float (0.0 / 0.0)), ("Infinity".toList, .float (1.0 / 0.0)),
    ("-Infinity".toList, .float (-1.0 / 0.0))]

/-- Puts an entry in place: the last value of a key counts, at the place of its first. -/
def putEntry (key : String) (v : Value) : List (String × Value) → List (String × Value)
  | [] => [(key, v)]
  | (k, w) :: r => if k = key then (k, v) :: r else (k, w) :: putEntry key v r

section

variable (host : Host)

mutual

/-- A value behind so many brackets that are open. -/
def value (depth : Nat) : Nat → Cursor → Except Error (Value × Cursor)
  | 0, c => fail .value c.index
  | fuel + 1, c =>
    match c.rest with
    | '"' :: r => do
      let (s, next) ← stringBody c.index (r.length + 1) [] (c.advance 1)
      return (.str s, next)
    | '{' :: _ =>
      let next := (c.advance 1).skipSpace
      within (host.depthFault? depth) (match next.rest with
        | '}' :: _ => .ok (.map [], next.advance 1)
        | _ => members (depth + 1) fuel [] next)
    | '[' :: _ =>
      let next := (c.advance 1).skipSpace
      within (host.depthFault? depth) (match next.rest with
        | ']' :: _ => .ok (.list [], next.advance 1)
        | _ => elements (depth + 1) fuel [] next)
    | _ =>
      match words.find? fun w => w.1.isPrefixOf c.rest with
      | some (w, v) => .ok (v, c.advance w.length)
      | none => number host c

def elements (depth : Nat) : Nat → List Value → Cursor → Except Error (Value × Cursor)
  | 0, _, c => fail .value c.index
  | fuel + 1, acc, c => do
    let (v, next) ← value depth fuel c
    let next := next.skipSpace
    match next.rest with
    | ']' :: _ => return (.list (v :: acc).reverse, next.advance 1)
    | ',' :: _ => elements depth fuel (v :: acc) (next.advance 1).skipSpace
    | _ => fail .comma next.index

def members (depth : Nat) : Nat → List (String × Value) → Cursor → Except Error (Value × Cursor)
  | 0, _, c => fail .value c.index
  | fuel + 1, acc, c => do
    match c.rest with
    | '"' :: r =>
      let (key, next) ← stringBody c.index (r.length + 1) [] (c.advance 1)
      let next := next.skipSpace
      match next.rest with
      | ':' :: _ =>
        let (v, next) ← value depth fuel (next.advance 1).skipSpace
        let next := next.skipSpace
        match next.rest with
        | '}' :: _ => return (Value.object (putEntry key v acc), next.advance 1)
        | ',' :: _ => members depth fuel (putEntry key v acc) (next.advance 1).skipSpace
        | _ => fail .comma next.index
      | _ => fail .colon next.index
    | _ => fail .propertyName c.index

end

end

/-- The one value that the text holds. -/
def parse (source : String) (host : Host := {}) : Except Error Value := do
  let cs := source.toList
  if cs.head? = some '\ufeff' then fail .byteOrderMark 0
  else
    let (v, next) ← value host 0 (cs.length + 1) (Cursor.skipSpace ⟨0, cs⟩)
    let next := next.skipSpace
    if next.rest.isEmpty then return v else fail .extraData next.index

/-- The message for an error in `source`. -/
def Error.message (e : Error) (source : String) (host : Host := {}) : String :=
  match e with
  | .malformed m i => describe source.toList m i
  | .limit f => f.message host

end RouteAtlas.Json
