/-!
The shortest decimal that reads back as a given binary number. A positive number `m * 2 ^ e` owns
the reals that round to it; among the decimals inside, one with fewest digits is chosen, and of two
of these the nearer.
-/

namespace RouteAtlas.Decimal

/-- The reals that round to `value / scale`: from `low / scale` to `high / scale`. -/
structure Interval where
  low : Nat
  value : Nat
  high : Nat
  scale : Nat
  closed : Bool

/-- The interval of `m * 2 ^ e`; below a power of two the numbers lie closer together. -/
def interval (m : Nat) (e : Int) (atBoundary : Bool) : Interval :=
  let up := Nat.pow 2 (e - 2).toNat
  let down := Nat.pow 2 (2 - e).toNat
  { low := (4 * m - if atBoundary then 1 else 2) * up
    value := 4 * m * up
    high := (4 * m + 2) * up
    scale := down
    closed := m % 2 = 0 }

/-- Is `10 ^ k` at most `n / d`? -/
def powerLe (n d : Nat) (k : Int) : Bool :=
  Nat.pow 10 k.toNat * d ≤ n * Nat.pow 10 (-k).toNat

/-- The greatest `k` with `10 ^ k` at most `n / d`, sought near a guess from binary lengths. -/
def leadingExponent (n d : Nat) : Int :=
  let guess := (((Nat.log2 n : Int) - Nat.log2 d) * 30103).fdiv 100000
  ((List.range 5).map fun (i : Nat) => guess + 2 - i).find? (powerLe n d) |>.getD (guess - 3)

/-- The better of the two neighbours of the value on the grid of step `10 ^ u`, if one is inside. -/
def gridPoint? (iv : Interval) (u : Int) : Option Nat :=
  let up := Nat.pow 10 (-u).toNat
  let unit := Nat.pow 10 u.toNat * iv.scale
  let v := iv.value * up
  let below := v / unit
  let inside (d : Nat) : Bool :=
    if iv.closed then iv.low * up ≤ d * unit && d * unit ≤ iv.high * up
    else iv.low * up < d * unit && d * unit < iv.high * up
  let a := inside below && below ≠ 0
  let b := inside (below + 1)
  if a && b then
    let da := v - below * unit
    let db := (below + 1) * unit - v
    some (if da < db || (da = db && below % 2 = 0) then below else below + 1)
  else if a then some below else if b then some (below + 1) else none

/-- Digits and exponent of the shortest decimal: the number is `digits * 10 ^ exponent`. -/
def shortest (m : Nat) (e : Int) (atBoundary : Bool) : Nat × Int :=
  let iv := interval m e atBoundary
  let k := leadingExponent iv.value iv.scale
  ((List.range 17).findSome? fun (i : Nat) =>
    (gridPoint? iv (k - i)).map fun d => (d, k - (i : Int))).getD (iv.value / iv.scale, 0)

end RouteAtlas.Decimal
