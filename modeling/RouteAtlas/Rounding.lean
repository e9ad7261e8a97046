/-! Division to the nearest whole number. -/

namespace RouteAtlas

/-- The quotient to the nearest whole number; a half goes to the even one. -/
def roundedQuotient (n d : Nat) : Nat :=
  let q := n / d
  let r := n % d
  if 2 * r < d || (2 * r = d && q % 2 = 0) then q else q + 1


end RouteAtlas
