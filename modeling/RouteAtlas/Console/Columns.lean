import RouteAtlas.Rounding

/-!
How wide the columns of a table are. Where they do not fit, the widest ones give up what they have
more than the next ones, all of them the same.
-/

namespace RouteAtlas.Columns

def total (widths : List Nat) : Nat := widths.foldl (· + ·) 0

/-- Takes `excess` from the columns of which the flag is set, evenly, but from none more than
`most`; `count` flags are set. -/
def takeEvenly (excess count : Nat) : List (Bool × Nat × Nat) → List Nat
  | [] => []
  | (true, most, w) :: r =>
    let share := min most (roundedQuotient excess count)
    (w - share) :: takeEvenly (excess - share) (count - 1) r
  | (false, _, w) :: r => w :: takeEvenly excess count r

/-- Takes `excess` from the columns that `takes` picks, of those with anything to give. -/
def reduce (excess : Nat) (takes : Nat → Bool) (most : Nat → Nat) (widths : List Nat) : List Nat :=
  let flagged := widths.map fun w => (takes w && 0 < most w, most w, w)
  takeEvenly excess (flagged.filter (·.1)).length flagged

/-- Brings the widest columns down to the next ones, until all fit into the width. -/
def level (width : Nat) : Nat → List Nat → List Nat
  | 0, widths => widths
  | fuel + 1, widths =>
    let excess := total widths - width
    let widest := widths.foldl max 0
    let next := (widths.filter (· ≠ widest)).foldl max 0
    if excess = 0 || widest = next then widths
    else level width fuel (reduce excess (· = widest) (fun _ => min excess (widest - next)) widths)

/-- The widths of columns whose contents would take so much, within a width for all of them. -/
def fitting (width : Nat) (wanted : List Nat) : List Nat :=
  if total wanted ≤ width then wanted
  else
    let leveled := level width (total wanted) wanted
    if total leveled ≤ width then leveled
    else reduce (total leveled - width) (fun _ => true) id leveled

end RouteAtlas.Columns
