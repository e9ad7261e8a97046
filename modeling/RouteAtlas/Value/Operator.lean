import RouteAtlas.Fault

/-!
The operators `/`, `|`, `&` and `^` on plain data: division of numbers, the operations on the bits
of whole numbers, which are as if infinitely many bits stood before them, and the union of mappings.
-/

namespace RouteAtlas

namespace Bits

/-- The bits of the first number that the second has not. -/
def without (m n : Nat) : Nat := m ^^^ (m &&& n)

/-- A whole number below zero is the complement of the one that `-n - 1` is. -/
def either : Int → Int → Int
  | .ofNat m, .ofNat n => .ofNat (m ||| n)
  | .ofNat m, .negSucc n => .negSucc (without n m)
  | .negSucc m, .ofNat n => .negSucc (without m n)
  | .negSucc m, .negSucc n => .negSucc (m &&& n)

def both : Int → Int → Int
  | .ofNat m, .ofNat n => .ofNat (m &&& n)
  | .ofNat m, .negSucc n => .ofNat (without m n)
  | .negSucc m, .ofNat n => .ofNat (without n m)
  | .negSucc m, .negSucc n => .negSucc (m ||| n)

def oneOf : Int → Int → Int
  | .ofNat m, .ofNat n => .ofNat (m ^^^ n)
  | .ofNat m, .negSucc n => .negSucc (m ^^^ n)
  | .negSucc m, .ofNat n => .negSucc (m ^^^ n)
  | .negSucc m, .negSucc n => .ofNat (m ^^^ n)

end Bits

/-- The binary number nearest to a quotient, if it is not too large for one. The digits of the
quotient beyond those that count leave one mark behind where they are not all zero. -/
def quotient? (m n : Nat) : Option Float :=
  let shift : Int := 62 + (Nat.log2 n : Int) - (Nat.log2 m : Int)
  let num := m * Nat.pow 2 shift.toNat
  let den := n * Nat.pow 2 (-shift).toNat
  let q := num / den
  let x := (Float.ofNat (if num % den = 0 then q else q ||| 1)).scaleB (-shift)
  if x.isFinite then some x else none

namespace Value

/-- Is it a whole number or a truth value? -/
def isWhole : Value → Bool
  | .int _ | .bool _ => true
  | _ => false

/-- The binary number nearest to a whole number. -/
def floatOf (n : Int) : Except Fault Float :=
  if n = 0 then .ok 0.0
  else match quotient? n.natAbs 1 with
    | some x => .ok (if n < 0 then -x else x)
    | none => .error .tooLargeForFloat

/-- The binary number that a number is taken for. -/
def toFloat? (v : Value) : Option (Except Fault Float) :=
  match v with
  | .float x => some (.ok x)
  | v => v.whole?.map floatOf

def unsupported (symbol : String) (a b : Value) : Fault :=
  .unsupportedOperands symbol a.kindName b.kindName

/-- The quotient of two numbers. -/
def divide (a b : Value) : Except Fault Value :=
  if a.isWhole && b.isWhole then
    match a.whole?, b.whole? with
    | some m, some n =>
      if n = 0 then .error (.divisionByZero "division")
      else if m = 0 then .ok (.float (if n < 0 then -0.0 else 0.0))
      else match quotient? m.natAbs n.natAbs with
        | some x => .ok (.float (if (m < 0) = (n < 0) then x else -x))
        | none => .error .quotientTooLarge
    | _, _ => .error (unsupported "/" a b)
  else
    match a.toFloat?, b.toFloat? with
    | some x, some y => do
      let x ← x
      let y ← y
      if y == 0.0 then throw (.divisionByZero "float division") else return .float (x / y)
    | _, _ => .error (unsupported "/" a b)

/-- An operation on truth values or on the bits of whole numbers. -/
def bitwise (symbol : String) (onBools : Bool → Bool → Bool) (onInts : Int → Int → Int)
    (a b : Value) : Except Fault Value :=
  match a, b with
  | .bool x, .bool y => .ok (.bool (onBools x y))
  | a, b =>
    if a.isWhole && b.isWhole then
      match a.whole?, b.whole? with
      | some m, some n => .ok (.int (onInts m n))
      | _, _ => .error (unsupported symbol a b)
    else .error (unsupported symbol a b)

/-- The entries of both mappings, or the bits that either number has. -/
def union (a b : Value) : Except Fault Value :=
  match a, b with
  | .map xs, .map ys => .ok (.map (ys.foldl (fun es e => putEntry e.1 e.2 es) xs))
  | a, b => bitwise "|" or Bits.either a b

def meet : Value → Value → Except Fault Value := bitwise "&" and Bits.both

def exclusive : Value → Value → Except Fault Value := bitwise "^" xor Bits.oneOf

/-- What a value holds one after the other: a text its characters, a mapping its keys. -/
def row : Value → Except Fault (List Value)
  | .list vs | .tuple vs | .set vs => .ok vs
  | .str s => .ok (s.toList.map fun c => .str (String.ofList [c]))
  | .bytes bs => .ok (bs.map fun b => .int b.toNat)
  | .map es => .ok (es.map (·.1))
  | v => .error (.notIterable v.kindName)

end Value

end RouteAtlas
