import RouteAtlas.Fault

/-!
Type expressions as they annotate fields, parameters and bodies. Equality of types is by meaning:
the members of a union have no order, and metadata counts.
-/

namespace RouteAtlas

/-- Types without parts that have a fixed meaning. -/
inductive Scalar where
  | str
  | bool
  | int
  | float
  | decimal
  | bytes
  | bytearray
  | datetime
  | date
  | time
  | timedelta
  | uuid
  | object
  | complex
deriving DecidableEq, Repr, Inhabited

/-- Where the name of a generic class is taken from. -/
inductive Family where
  | builtin
  | abstract
  | collection
  | alias
deriving DecidableEq, Repr, Inhabited

/-- The name of a generic class. -/
structure Generic where
  family : Family
  name : String
deriving DecidableEq, Repr, Inhabited

inductive Ty where
  /-- No type is given. -/
  | absent
  /-- The type of the null value. -/
  | nothing
  | any
  | ellipsis
  | scalar (s : Scalar)
  | bare (g : Generic)
  | applied (g : Generic) (args : List Ty)
  /-- A declared class, by its key. -/
  | declared (key : String)
  /-- A declared class with arguments; those of a `generic` class are types. -/
  | declaredOf (key : String) (generic : Bool) (args : List Ty)
  /-- A text that is to be read as a type. -/
  | forward (text : String)
  /-- A value, which is no type; a text stands for itself. -/
  | plain (v : Value)
  /-- What is neither a type nor plain data, by its kind and the way it is shown. -/
  | thing (kind shown : String)
  | union (members : List Ty)
  /-- A union written with bars. -/
  | bars (members : List Ty)
  | annotated (base : Ty) (notes : List Value)
  | literal (values : List Value)
  /-- A name of its own for a type. Mentions of one and the same name bear one mark; without a mark
  it is made where it stands, and mentioned nowhere else. -/
  | newtype (name : String) (base : Ty) (mark : Option Nat := none)
  /-- Functions, by what is written for them. -/
  | function (family : Family) (params : List Ty) (result : Ty)
  /-- A list of parameter types, which is no type itself. -/
  | params (tys : List Ty)
deriving Inhabited, Repr

namespace Generic

/-- The class that an alias stands for; any other name stands for itself. -/
def origin (g : Generic) : Generic :=
  match g.family with
  | .alias =>
    match g.name with
    | "List" => ⟨.builtin, "list"⟩
    | "Dict" => ⟨.builtin, "dict"⟩
    | "Set" => ⟨.builtin, "set"⟩
    | "FrozenSet" => ⟨.builtin, "frozenset"⟩
    | "Tuple" => ⟨.builtin, "tuple"⟩
    | "Type" => ⟨.builtin, "type"⟩
    | "AbstractSet" => ⟨.abstract, "Set"⟩
    | "Deque" => ⟨.collection, "deque"⟩
    | "DefaultDict" => ⟨.collection, "defaultdict"⟩
    | "OrderedDict" => ⟨.collection, "OrderedDict"⟩
    | "Counter" => ⟨.collection, "Counter"⟩
    | "ChainMap" => ⟨.collection, "ChainMap"⟩
    | n => ⟨.abstract, n⟩
  | _ => g

def home (g : Generic) : String :=
  match g.family with
  | .builtin => "builtins"
  | .abstract => "collections.abc"
  | .collection => "collections"
  | .alias => "typing"

end Generic

namespace Ty

mutual

/-- The number of parts, where a generic name without arguments counts for its element too. -/
def size : Ty → Nat
  | .bare _ => 2
  | .applied _ args => 2 + sizes args
  | .declaredOf _ _ args => 2 + sizes args
  | .union ms => 2 + sizes ms
  | .bars ms => 2 + sizes ms
  | .annotated b _ => 1 + size b
  | .newtype _ b _ => 1 + size b
  | .function _ ps r => 3 + sizes ps + size r
  | .params ts => 2 + sizes ts
  | .literal _ => 2
  | _ => 1

def sizes : List Ty → Nat
  | [] => 0
  | t :: ts => size t + sizes ts

end

theorem size_pos (t : Ty) : 0 < t.size := by
  cases t <;> simp only [size] <;> omega

theorem sizes_append (xs ys : List Ty) : sizes (xs ++ ys) = sizes xs + sizes ys := by
  induction xs with
  | nil => simp [sizes]
  | cons x xs ih => simp only [List.cons_append, sizes, ih]; omega

theorem sizes_le_of_sublist {xs ys : List Ty} (h : xs.Sublist ys) : sizes xs ≤ sizes ys := by
  induction h with
  | slnil => exact Nat.le_refl _
  | cons a _ ih => simp only [sizes]; omega
  | cons_cons a _ ih => simp only [sizes]; omega

/-- The type without metadata around it. -/
def core : Ty → Ty
  | .annotated b _ => core b
  | t => t

theorem size_core_le (t : Ty) : t.core.size ≤ t.size := by
  fun_induction core t with
  | case1 b _ ih => simp only [size]; omega
  | case2 => exact Nat.le_refl _

/-- The type that a value stands for: none for the null value. -/
def ofValue : Value → Ty
  | .null => .absent
  | v => .plain v

/-- The kind of the first value that cannot be a key. -/
def noteKind? (vs : List Value) : Option String :=
  vs.findSome? fun v => match v with
    | .list _ | .map _ | .set _ => some v.kindName
    | _ => none

mutual

/-- The kind of the first part that cannot be a key. -/
def unhashable? : Ty → Option String
  | .applied _ args => unhashables? args
  | .declaredOf _ _ args => unhashables? args
  | .plain v => noteKind? [v]
  | .thing kind _ => if kind = "slice" then some kind else none
  | .union ms => unhashables? ms
  | .bars ms => unhashables? ms
  | .annotated b notes => (unhashable? b).or (noteKind? notes)
  | .literal vs => noteKind? vs
  | .function _ ps r => (unhashables? ps).or (unhashable? r)
  | .params _ => some "list"
  | _ => none

def unhashables? : List Ty → Option String
  | [] => none
  | t :: ts => (unhashable? t).or (unhashables? ts)

end

mutual

/-- Do two types mean the same? A type that is named anew is like no other. -/
def same : Ty → Ty → Bool
  | .absent, .absent => true
  | .nothing, .nothing => true
  | .any, .any => true
  | .ellipsis, .ellipsis => true
  | .scalar s, .scalar t => s = t
  | .bare g, .bare h => g = h
  | .applied g xs, .applied h ys => g = h && sameList xs ys
  | .declared k, .declared l => k = l
  | .declaredOf k _ xs, .declaredOf l _ ys => k = l && sameList xs ys
  | .forward n, .forward m => n = m
  | .plain v, .plain w => Value.same v w
  | .thing k s, .thing l t => k = l && s = t
  | .union xs, .union ys => sameWithin xs ys && xs.length = ys.length
  | .union xs, .bars ys => sameWithin xs ys && xs.length = ys.length
  | .bars xs, .union ys => sameWithin xs ys && xs.length = ys.length
  | .bars xs, .bars ys => sameWithin xs ys && xs.length = ys.length
  | .annotated b ms, .annotated c ns => same b c && Value.same (.list ms) (.list ns)
  | .literal vs, .literal ws => vs.all (sameLiteral ws) && ws.all (sameLiteral vs)
  | .function f ps r, .function g qs s => f = g && sameList ps qs && same r s
  | .params xs, .params ys => sameList xs ys
  | .newtype _ _ m, .newtype _ _ n => m.isSome && m = n
  | _, _ => false

def sameList : List Ty → List Ty → Bool
  | [], [] => true
  | x :: xs, y :: ys => same x y && sameList xs ys
  | _, _ => false

def sameWithin : List Ty → List Ty → Bool
  | [], _ => true
  | x :: xs, ys => ys.any (fun y => same x y) && sameWithin xs ys

/-- Is a value of the same kind among these? -/
def sameLiteral (vs : List Value) (v : Value) : Bool :=
  vs.any fun w => Value.same v w && v.kindName = w.kindName

end

/-- Drops every type that means the same as an earlier one. -/
def distinct : List Ty → List Ty → List Ty
  | _, [] => []
  | seen, t :: ts => if seen.any (same t) then distinct seen ts else t :: distinct (t :: seen) ts

theorem distinct_sublist (seen ts : List Ty) : (distinct seen ts).Sublist ts := by
  fun_induction distinct seen ts with
  | case1 => exact List.Sublist.slnil
  | case2 seen t ts _ ih => exact ih.cons t
  | case3 seen t ts _ ih => exact ih.cons_cons t

end Ty

end RouteAtlas
