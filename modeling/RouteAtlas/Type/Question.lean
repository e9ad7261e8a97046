import RouteAtlas.Type.Union

/-! What can be asked of a type: is it optional, a container, a mapping, a model, and what it holds.
-/

namespace RouteAtlas

/-- How the parts of a generic class are documented. -/
inductive Shape where
  | sequence
  | unique
  | mapping
deriving DecidableEq, Repr

/-- The shape of a class that is not an alias. -/
def Generic.classShape? (g : Generic) : Option Shape :=
  match g.family with
  | .builtin =>
    if g.name = "list" || g.name = "tuple" then some .sequence
    else if g.name = "set" || g.name = "frozenset" then some .unique
    else if g.name = "dict" then some .mapping else none
  | .abstract =>
    if g.name = "Sequence" || g.name = "MutableSequence" || g.name = "Collection" ||
      g.name = "Iterable" then some .sequence
    else if g.name = "Set" || g.name = "MutableSet" then some .unique
    else if g.name = "Mapping" || g.name = "MutableMapping" then some .mapping else none
  | _ => none

namespace Ty

/-- A bare name of an abstract class has no shape. -/
def shape? (t : Ty) : Option Shape :=
  match t.core with
  | .bare g => if g.family = .builtin || g.family = .alias then g.origin.classShape? else none
  | .applied g _ => g.origin.classShape?
  | _ => none

def isContainer (t : Ty) : Bool := t.shape? = some .sequence || t.shape? = some .unique

def isUnique (t : Ty) : Bool := t.shape? = some .unique

def isMapping (t : Ty) : Bool := t.shape? = some .mapping

/-- The arguments of a type; the parameters of a function are one of them. -/
def args (t : Ty) : List Ty :=
  match t.core with
  | .applied _ ts => ts
  | .declaredOf _ _ ts => ts
  | .union ms => ms
  | .bars ms => ms
  | .literal vs => vs.map ofValue
  | .function _ [.ellipsis] r => [.ellipsis, r]
  | .function _ ps r => [.params ps, r]
  | _ => []

/-- The first argument, or any type. -/
def element (t : Ty) : Ty := t.args.head?.getD .any

/-- The second of two arguments, or any type. -/
def value (t : Ty) : Ty :=
  match t.args with
  | [_, v] => v
  | _ => .any

/-- The members of a union; any other type is its only member. -/
def members (t : Ty) : List Ty :=
  match t.core with
  | .union ms => ms
  | .bars ms => ms
  | c => [c]

def isNothing : Ty → Bool
  | .nothing => true
  | _ => false

def isOptional (t : Ty) : Bool :=
  match t.core with
  | .union ms => ms.any isNothing
  | .bars ms => ms.any isNothing
  | _ => false

/-- The type without the null type among its members, which make a union again. -/
def unwrap (t : Ty) (rule : UnionRule := .byKeys) : Except Fault Ty :=
  if t.isOptional then
    match t.members.filter (!isNothing ·) with
    | [u] => .ok u
    | us => unionOf rule us
  else .ok t.core

def decl? (classes : Registry) (t : Ty) : Option ClassDecl :=
  match t.core with
  | .declared k => classes.find? k
  | _ => none

def model? (classes : Registry) (t : Ty) : Option ClassDecl :=
  (t.decl? classes).filter (·.isModel)

def isModel (classes : Registry) (t : Ty) : Bool := (t.model? classes).isSome

/-- The values of the members, if the type is an enumeration. -/
def enumValues? (classes : Registry) (t : Ty) : Option (List Value) :=
  match t.decl? classes with
  | some d => match d.kind with
    | .enumeration b ms => some (b.listed d.name ms)
    | _ => none
  | none => none

def isEnum (classes : Registry) (t : Ty) : Bool := (t.enumValues? classes).isSome

/-- Is there metadata around the type? -/
def isAnnotated : Ty → Bool
  | .annotated _ _ => true
  | _ => false

theorem sizes_filter_lt {ms : List Ty} (h : ms.any isNothing = true) :
    sizes (ms.filter (!isNothing ·)) < sizes ms := by
  induction ms with
  | nil => simp at h
  | cons m ms ih =>
    have hle := sizes_le_of_sublist (List.filter_sublist (p := (!isNothing ·)) (l := ms))
    have hp := size_pos m
    by_cases hm : isNothing m = true
    · simp only [List.filter_cons, hm, Bool.not_true, Bool.false_eq_true, if_false, sizes]
      omega
    · have hr : ms.any isNothing = true := by simpa [hm] using h
      have := ih hr
      simp only [List.filter_cons, hm, Bool.not_false, if_true, sizes]
      omega

theorem members_of_isOptional {t : Ty} (h : t.isOptional = true) :
    t.members.any isNothing = true ∧ 2 + sizes t.members ≤ t.size := by
  have hc := size_core_le t
  unfold isOptional at h
  unfold members
  split at h <;> simp_all [size]

/-- Unwrapping an optional type leaves a smaller one. -/
theorem size_unwrap_lt {t u : Ty} {rule : UnionRule} (ho : t.isOptional = true)
    (h : t.unwrap rule = .ok u) : u.size < t.size := by
  obtain ⟨hn, hs⟩ := members_of_isOptional ho
  have hlt := sizes_filter_lt hn
  unfold unwrap at h
  simp only [ho, if_true] at h
  split at h
  next v hv =>
    have := Except.ok.inj h
    subst this
    rw [hv] at hlt
    simp only [sizes] at hlt
    omega
  next =>
    have := size_unionOf_le h
    omega

theorem size_head_lt (ts : List Ty) : (ts.head?.getD .any).size < 2 + sizes ts := by
  cases ts with
  | nil => simp [size, sizes]
  | cons t ts => simp only [List.head?_cons, Option.getD_some, sizes]; omega

theorem size_element_lt {t : Ty} (h : t.isContainer = true) : t.element.size < t.size := by
  have hc := size_core_le t
  unfold isContainer shape? at h
  unfold element args
  cases hcore : t.core <;> simp only [hcore, size] at h hc ⊢ <;> try simp at h
  case bare g => simp only [List.head?_nil, Option.getD_none, size]; omega
  case applied g ts => have := size_head_lt ts; omega

theorem size_value_lt {t : Ty} (h : t.isMapping = true) : t.value.size < t.size := by
  have hc := size_core_le t
  unfold isMapping shape? at h
  unfold value args
  split at h <;> simp_all [size]
  · omega
  next g ts heq =>
    split
    · simp_all [sizes]; omega
    · simp only [size]; omega

end Ty

end RouteAtlas
