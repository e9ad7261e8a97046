import RouteAtlas.Value.Basic

/-!
The order in which a set gives its members. A set is a table of a power of two places, more than
five thirds as many as it has members. A number lies at the place that its remainder by a prime
names, or at one of the next nine, or at one further on that is worked out from the remainder.
-/

namespace RouteAtlas.Scatter

/-- The prime that remainders are taken by. -/
def modulus : Nat := Nat.pow 2 61 - 1

/-- The remainder with the sign of the number, as a word of sixty-four bits; minus one counts as
minus two. -/
def word (negative : Bool) (remainder : Nat) : Nat :=
  if negative && 0 < remainder then Nat.pow 2 64 - (if remainder = 1 then 2 else remainder)
  else remainder

/-- The word of a number; dividing by two is taking the sixtieth power of two times. -/
def word? : Value → Option Nat
  | .float x =>
    let bits : Nat := x.toBits.toNat
    let expo : Nat := bits / Nat.pow 2 52 % Nat.pow 2 11
    let frac : Nat := bits % Nat.pow 2 52
    if expo = 2047 then none
    else
      let m : Nat := if expo = 0 then frac else Nat.pow 2 52 + frac
      let e : Int := if expo = 0 then -1074 else (expo : Int) - 1075
      some (word (Nat.pow 2 63 ≤ bits) (m * Nat.pow 2 (e % 61).toNat % modulus))
  | v => v.whole?.map fun n => word (n < 0) (n.natAbs % modulus)

structure Table where
  places : Array (Option (Nat × Value))
  count : Nat

namespace Table

def empty (size : Nat) : Table := ⟨Array.replicate size none, 0⟩

/-- The first empty place among the next `n` from `i` on. -/
def vacant? (t : Table) (i : Nat) : Nat → Option Nat
  | 0 => none
  | n + 1 =>
    match t.places[i]? with
    | some none => some i
    | _ => t.vacant? (i + 1) n

/-- The place for a word, sought at `i` and where `rest` leads to from there. -/
def placeFrom (t : Table) (i rest : Nat) : Nat → Nat
  | 0 => i
  | n + 1 =>
    let size := t.places.size
    match t.vacant? i (if i + 9 < size then 10 else 1) with
    | some j => j
    | none =>
      let rest := rest / 32
      t.placeFrom ((i * 5 + 1 + rest) % size) rest n

def put (t : Table) (w : Nat) (v : Value) : Table :=
  let i := t.placeFrom (w % t.places.size) w (t.places.size + 16)
  ⟨t.places.setIfInBounds i (some (w, v)), t.count + 1⟩

def members (t : Table) : List (Nat × Value) := t.places.toList.filterMap id

/-- The least size of a table that is above `n`. -/
def sizeAbove (n : Nat) : Nat :=
  (List.range 64).foldl (fun size _ => if size ≤ n then size * 2 else size) 8

/-- The members in a table of more than `n` places. -/
def resized (t : Table) (n : Nat) : Table :=
  t.members.foldl (fun u m => u.put m.1 m.2) (empty (sizeAbove n))

/-- A new member, after which the table grows if it is too full. -/
def add (t : Table) (w : Nat) (v : Value) : Table :=
  let t := t.put w v
  if t.count * 5 < (t.places.size - 1) * 3 then t
  else t.resized (if 50000 < t.count then t.count * 2 else t.count * 4)

end Table

/-- Different members in the order of the set, whose table has room for `n` from the start. What is
no number stays where it is. -/
def arranged (n : Nat) (vs : List Value) : List Value :=
  match vs.mapM word? with
  | none => vs
  | some ws =>
    let start := Table.empty (if n * 5 < 7 * 3 then 8 else Table.sizeAbove (n * 2))
    ((ws.zip vs).foldl (fun t m => t.add m.1 m.2) start).members.map (·.2)

/-- The set of the keys of a mapping, which are different. -/
def ofKeys (vs : List Value) : List Value := arranged vs.length vs

end RouteAtlas.Scatter
