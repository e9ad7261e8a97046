import RouteAtlas.Text.Blank

/-! Whole numbers written in any of the world's decimal digits. -/

namespace RouteAtlas.Text

/-- The zeros of the decimal digit blocks, each followed by the digits up to nine. -/
def digitZeros : List Nat := [
  0x30, 0x660, 0x6f0, 0x7c0, 0x966, 0x9e6, 0xa66, 0xae6, 0xb66, 0xbe6, 0xc66, 0xce6, 0xd66, 0xde6,
  0xe50, 0xed0, 0xf20, 0x1040, 0x1090, 0x17e0, 0x1810, 0x1946, 0x19d0, 0x1a80, 0x1a90, 0x1b50,
  0x1bb0, 0x1c40, 0x1c50, 0xa620, 0xa8d0, 0xa900, 0xa9d0, 0xa9f0, 0xaa50, 0xabf0, 0xff10, 0x104a0,
  0x10d30, 0x11066, 0x110f0, 0x11136, 0x111d0, 0x112f0, 0x11450, 0x114d0, 0x11650, 0x116c0,
  0x11730, 0x118e0, 0x11950, 0x11c50, 0x11d50, 0x11da0, 0x16a60, 0x16ac0, 0x16b50, 0x1d7ce,
  0x1d7d8, 0x1d7e2, 0x1d7ec, 0x1d7f6, 0x1e140, 0x1e2f0, 0x1e950, 0x1fbf0]

def digit? (c : Char) : Option Nat :=
  (digitZeros.find? fun z => z ≤ c.toNat && c.toNat < z + 10).map (c.toNat - ·)

/-- A blank of the oldest character set. -/
def isPlainBlank (c : Char) : Bool := c = ' ' || ('\t' ≤ c && c ≤ '\r')

/-- A digit of any script as the plain digit, a blank of any script as the plain blank. Where no
number can hold the character, a question mark stands for it. -/
def plainChar (c : Char) : Char :=
  if c.toNat < 127 then c
  else if isBlank c then ' '
  else ((digit? c).map fun d => Char.ofNat (48 + d)).getD '?'

/-- The text of a number in plain characters, without the blanks at its ends. -/
def plainNumber (cs : List Char) : List Char := trimList isPlainBlank (cs.map plainChar)

/-- The value of a plain digit or letter as a digit. -/
def letterDigit? (c : Char) : Option Nat :=
  if '0' ≤ c && c ≤ '9' then some (c.toNat - 48)
  else if 'a' ≤ c && c ≤ 'z' then some (c.toNat - 87)
  else if 'A' ≤ c && c ≤ 'Z' then some (c.toNat - 55)
  else none

/-- Digits with single underscores between them; `pending` says that a digit must come next. -/
def digitsValue? (base acc : Nat) (pending : Bool) : List Char → Option Nat
  | [] => if pending then none else some acc
  | '_' :: r => if pending then none else digitsValue? base acc true r
  | c :: r =>
    match letterDigit? c with
    | some d => if d < base then digitsValue? base (acc * base + d) false r else none
    | none => none

/-- The letters that announce a base behind a zero. -/
def baseLetters : Nat → List Char
  | 2 => ['b', 'B']
  | 8 => ['o', 'O']
  | 16 => ['x', 'X']
  | _ => []

/-- The digits behind the announcement of the base, which an underscore may follow. -/
def withoutBaseMark (base : Nat) : List Char → List Char
  | '0' :: c :: r =>
    if (baseLetters base).contains c then
      match r with
      | '_' :: r => r
      | r => r
    else '0' :: c :: r
  | cs => cs

/-- A whole number to a base with an optional sign, blanks around it and underscores between its
digits. -/
def integerOfBase? (base : Nat) (cs : List Char) : Option Int :=
  let read (r : List Char) : Option Nat := digitsValue? base 0 true (withoutBaseMark base r)
  match plainNumber cs with
  | '-' :: r => (read r).map fun n => -(n : Int)
  | '+' :: r => (read r).map fun n => (n : Int)
  | r => (read r).map fun n => (n : Int)

/-- A whole number to base ten. -/
def integer? (s : String) : Option Int := integerOfBase? 10 s.toList

/-- What is said of a text, given as a literal, that is no number to a base; a long one is cut. -/
def badIntegerMessage (base : Nat) (literal : String) : String :=
  "invalid literal for int() with base " ++ toString base ++ ": " ++
    String.ofList (literal.toList.take 200)

end RouteAtlas.Text
