import RouteAtlas.Decimal.Shortest

/-! The text of a binary64 number. -/

namespace RouteAtlas.Decimal

/-- Exponents from `positionalFrom` up to, and not including, `positionalBelow` are written without
a power of ten. -/
structure Positional where
  positionalFrom : Int
  positionalBelow : Int

/-- Numbers from 1e-4 and below 1e16 are written in full. -/
def standard : Positional := ⟨-4, 16⟩

def trimZeros (cs : List Char) : List Char := (cs.reverse.dropWhile (· = '0')).reverse

def exponentText (e : Int) : String :=
  let digits := toString e.natAbs
  (if e < 0 then "-" else "+") ++ (if digits.length < 2 then "0" ++ digits else digits)

/-- The text of `digits * 10 ^ exponent`, where `digits` is not zero. -/
def render (n : Positional) (digits : Nat) (exponent : Int) : String :=
  let all := (toString digits).toList
  let ds := trimZeros all
  let lead := exponent + all.length - 1
  if n.positionalFrom ≤ lead && lead < n.positionalBelow then
    if lead < 0 then
      "0." ++ String.ofList (List.replicate (-lead - 1).toNat '0' ++ ds)
    else
      let whole := (lead + 1).toNat
      let front := ds.take whole ++ List.replicate (whole - ds.length) '0'
      let back := ds.drop whole
      String.ofList front ++ "." ++ (if back.isEmpty then "0" else String.ofList back)
  else
    match ds with
    | [] => "0.0"
    | d :: [] => String.singleton d ++ "e" ++ exponentText lead
    | d :: r => String.singleton d ++ "." ++ String.ofList r ++ "e" ++ exponentText lead

/-- The shortest text that reads back as the same number. -/
def floatText (x : Float) : String :=
  let bits : Nat := x.toBits.toNat
  let negative := Nat.pow 2 63 ≤ bits
  let expo : Nat := bits / Nat.pow 2 52 % Nat.pow 2 11
  let frac : Nat := bits % Nat.pow 2 52
  let sign := if negative then "-" else ""
  if expo = 2047 then (if frac = 0 then sign ++ "inf" else "nan")
  else if expo = 0 && frac = 0 then sign ++ "0.0"
  else
    let (d, k) :=
      if expo = 0 then shortest frac (-1074) false
      else shortest (Nat.pow 2 52 + frac) ((expo : Int) - 1075) (frac = 0 && expo > 1)
    sign ++ render standard d k

end RouteAtlas.Decimal
