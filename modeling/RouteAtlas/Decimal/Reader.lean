/-! Binary numbers from decimal text. -/

namespace RouteAtlas.Decimal

/-- The binary number nearest to `digits * 10 ^ exponent`; every number below `10 ^ (-330)` rounds
to zero and every one from `10 ^ 310` on is beyond all finite ones. -/
def nearest (negative : Bool) (digits : Nat) (exponent : Int) : Float :=
  let lead : Int := exponent + (toString digits).length
  let x :=
    if digits = 0 || lead < -330 then 0.0
    else if 312 < lead then 1.0 / 0.0
    else if exponent < 0 then Float.ofScientific digits true exponent.natAbs
    else Float.ofScientific digits false exponent.natAbs
  if negative then -x else x

def isDigit (c : Char) : Bool := '0' ≤ c && c ≤ '9'

def natOfDigits (cs : List Char) : Nat := cs.foldl (fun n c => n * 10 + (c.toNat - 48)) 0

/-- Digits behind an optional sign. -/
def signedDigits? (cs : List Char) : Option Int :=
  let (negative, ds) := match cs with
    | '-' :: r => (true, r)
    | '+' :: r => (false, r)
    | r => (false, r)
  if ds.isEmpty || !ds.all isDigit then none
  else some (if negative then -(natOfDigits ds : Int) else natOfDigits ds)

/-- The words for what is no finite number, in lower case. -/
def wordFloat? (cs : List Char) : Option Float :=
  let w := String.ofList cs
  if w = "inf" || w = "infinity" then some (1.0 / 0.0)
  else if w = "nan" then some (0.0 / 0.0)
  else none

/-- The number that digits with an optional point and an optional power of ten make. -/
def unsignedFloat? (cs : List Char) : Option Float :=
  let whole := cs.takeWhile isDigit
  let rest := cs.drop whole.length
  let (fraction, rest) := match rest with
    | '.' :: r => (r.takeWhile isDigit, r.dropWhile isDigit)
    | r => ([], r)
  if whole.isEmpty && fraction.isEmpty then none
  else
    let digits := natOfDigits (whole ++ fraction)
    match rest with
    | [] => some (nearest false digits (-fraction.length))
    | e :: r =>
      if e = 'e' || e = 'E' then
        (signedDigits? r).map fun p => nearest false digits (p - fraction.length)
      else none

end RouteAtlas.Decimal
