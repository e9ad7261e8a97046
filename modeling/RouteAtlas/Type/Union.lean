import RouteAtlas.Annotation.Expression
import RouteAtlas.Type.Class

/-!
Unions of types. A member that is a union gives its members, and no member stands twice. A text
among the members is a reference, which must be an expression.
-/

namespace RouteAtlas.Ty

/-- The members a type brings into a union. -/
def asMembers : Ty → List Ty
  | .union ms => ms
  | .bars ms => ms
  | .absent => [.nothing]
  | t => [t]

/-- One member is that member, more are a union. -/
def ofMembers (mk : List Ty → Ty) : List Ty → Ty
  | [t] => t
  | ts => mk ts

/-- What keeps the members of a union from being told apart. -/
def memberFault? (rule : UnionRule) (ms : List Ty) : Option String :=
  match rule with
  | .byKeys => unhashables? ms
  | .byComparing => none

/-- The union of types, as far as its members can be told apart. -/
def unionOf (rule : UnionRule) (ts : List Ty) : Except Fault Ty :=
  let ms := ts.flatMap asMembers
  match memberFault? rule ms with
  | some kind => .error (.unhashable kind)
  | none => .ok (ofMembers .union (distinct [] ms))

/-- A reference to what a text says. -/
def reference (text : String) : Except Fault Ty :=
  if text = "" then .error (.type .emptyReference)
  else match Annotation.Expression.ofText? text with
    | some _ => .ok (.forward text)
    | none => .error (.badForwardReference text)

/-- What stands for a type where only types can: a text is a reference, the missing type the null
type. -/
def converted : Ty → Except Fault Ty
  | .absent => .ok .nothing
  | .plain (.str s) => reference s
  | t => .ok t

/-- The union of what stands for types. -/
def join (ts : List Ty) (rule : UnionRule := .byKeys) : Except Fault Ty :=
  if ts.isEmpty then .error (.type .noUnionMembers)
  else do unionOf rule (← ts.mapM converted)

/-- Is the type one whose bars make a union of the older spelling? -/
def isSpelledOut : Ty → Bool
  | .union _ | .annotated _ _ | .literal _ | .newtype _ _ _ | .forward _ => true
  | .declaredOf _ generic _ => generic
  | .bare g => g.family = .alias
  | .applied g _ => g.family = .alias
  | .function f _ _ => f = .alias
  | _ => false

/-- Can the type stand beside a bar? -/
def joinsByBar : Ty → Bool
  | .absent | .nothing | .any | .scalar _ | .declared _ | .bars _ => true
  | .bare g => g.family ≠ .alias
  | .applied g _ => g.family ≠ .alias
  | .function f _ _ => f ≠ .alias
  | .declaredOf _ generic _ => !generic
  | _ => false

/-- The kind of the class that a declared class is an instance of. -/
def classOperand (d : ClassDecl) : String :=
  match d.kind with
  | .enumeration _ _ => "EnumType"
  | .dictionary => "_TypedDictMeta"
  | .validated => "ModelMetaclass"
  | _ => "type"

/-- The collections that are declared by what they can do. -/
def collectionsByAbility : List String := ["ChainMap", "UserDict", "UserList", "UserString"]

/-- The kind of operand a type is. -/
def operandKind (classes : Registry) : Ty → String
  | .plain v => v.kindName
  | .thing kind _ => kind
  | .params _ => "list"
  | .ellipsis => "ellipsis"
  | .absent => "NoneType"
  | .any => "_AnyMeta"
  | .bars _ => "types.UnionType"
  | .function _ _ _ => "_CallableGenericAlias"
  | .applied g _ => if g.family = .alias then "_GenericAlias" else "types.GenericAlias"
  | .declaredOf _ generic _ => if generic then "_GenericAlias" else "types.GenericAlias"
  | .bare g =>
    if g.family = .abstract || collectionsByAbility.contains g.name then "ABCMeta" else "type"
  | .declared k => ((classes.find? k).map classOperand).getD "type"
  | .union _ => "_UnionGenericAlias"
  | .annotated _ _ => "_AnnotatedAlias"
  | .literal _ => "_LiteralGenericAlias"
  | .newtype _ _ _ => "NewType"
  | .forward _ => "ForwardRef"
  | _ => "type"

def isAbsent : Ty → Bool
  | .absent => true
  | _ => false

/-- Two types with a bar between them. -/
def bar (classes : Registry) (l r : Ty) : Except Fault Ty :=
  if l.isSpelledOut || r.isSpelledOut then join [l, r] classes.unions
  else if l.joinsByBar && r.joinsByBar && !(l.isAbsent && r.isAbsent) then
    .ok (ofMembers .bars (distinct [] (asMembers l ++ asMembers r)))
  else .error (.unsupportedOperands "|" (l.operandKind classes) (r.operandKind classes))

/-- Types with bars between them, from the left. -/
def barsOf (classes : Registry) : List Ty → Except Fault Ty
  | [] => .ok (.bars [])
  | t :: ts => ts.foldlM (bar classes) t

/-- A type with metadata, which must be of some module; metadata around metadata is one list. -/
def annotate (t : Ty) (notes : List Value) : Except Fault Ty :=
  match t with
  | .annotated b ns => .ok (.annotated b (ns ++ notes))
  | .ellipsis => .error (.noMember "ellipsis" "__module__")
  | .plain v => .error (.noMember v.kindName "__module__")
  | t => .ok (.annotated t notes)

theorem sizes_asMembers_le (t : Ty) : sizes t.asMembers ≤ t.size := by
  cases t <;> simp only [asMembers, sizes, size] <;> omega

theorem size_ofMembers_le (mk : List Ty → Ty) (hmk : ∀ ts, (mk ts).size = 2 + sizes ts)
    (ts : List Ty) : (ofMembers mk ts).size ≤ 2 + sizes ts := by
  unfold ofMembers
  split
  · simp only [sizes]; omega
  · exact Nat.le_of_eq (hmk _)

theorem sizes_flatMap_asMembers_le (ts : List Ty) : sizes (ts.flatMap asMembers) ≤ sizes ts := by
  induction ts with
  | nil => simp [sizes]
  | cons t ts ih =>
    have := sizes_asMembers_le t
    simp only [List.flatMap_cons, sizes_append, sizes]
    omega

/-- A union is no larger than its members and itself. -/
theorem size_unionOf_le {rule : UnionRule} {ts : List Ty} {u : Ty} (h : unionOf rule ts = .ok u) :
    u.size ≤ 2 + sizes ts := by
  unfold unionOf at h
  simp only at h
  split at h
  · simp at h
  · have hu := Except.ok.inj h
    subst hu
    have h1 :=
      size_ofMembers_le .union (fun _ => by simp [size]) (distinct [] (ts.flatMap asMembers))
    have h2 := sizes_le_of_sublist (distinct_sublist [] (ts.flatMap asMembers))
    have h3 := sizes_flatMap_asMembers_le ts
    omega

end RouteAtlas.Ty
