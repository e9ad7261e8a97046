import RouteAtlas.Annotation.Scope
import RouteAtlas.Value.Operator

/-!
What annotations mean. A text is read as an expression and worked out where it stands: names stand
for classes, brackets give a type its arguments, bars join types, and all else is computed on
values, which are no types. A text that this gives is read in turn.
-/

namespace RouteAtlas

/-- What an expression stands for: one thing, or a tuple of things. -/
inductive Meaning where
  | one (t : Ty)
  | tuple (ts : List Ty)
deriving Inhabited, Repr

namespace Meaning

/-- The meaning as one thing. -/
def toTy (classes : Registry) : Meaning → Ty
  | .one t => t
  | .tuple ts =>
    .thing "tuple" (match ts with
      | [t] => "(" ++ t.shown classes ++ ",)"
      | ts => "(" ++ Text.join ", " (ts.map (Ty.shown classes)) ++ ")")

/-- Does the meaning count as true? -/
def isTrue : Meaning → Bool
  | .tuple ts => !ts.isEmpty
  | .one .absent => false
  | .one (.params ts) => !ts.isEmpty
  | .one (.plain v) =>
    match v with
    | .bool b => b
    | .str s => s ≠ ""
    | .bytes bs => !bs.isEmpty
    | .float x => !(x == 0.0)
    | .int n => n ≠ 0
    | _ => true
  | .one _ => true

def truth (b : Bool) : Meaning := .one (.plain (.bool b))

/-- What the meaning holds one after the other. -/
def row (classes : Registry) : Meaning → Except Fault (List Ty)
  | .tuple ts | .one (.params ts) => .ok ts
  | .one (.plain v) => do return (← v.row).map Ty.ofValue
  | .one t => .error (.notIterable (t.operandKind classes))

/-- The value as plain data, if it is some. -/
def data? : Ty → Option Value
  | .plain v => some v
  | .absent => some .null
  | _ => none

/-- The thing at a place, which is counted from the end if it is below zero. -/
def itemAt (classes : Registry) (kind : String) (ts : List Ty) (index : Ty) : Except Fault Ty :=
  match index with
  | .plain v =>
    if v.isWhole then
      let n := v.whole?.getD 0
      let i := if n < 0 then n + ts.length else n
      match if i < 0 then none else ts[i.toNat]? with
      | some t => .ok t
      | none => .error (.type (.beyondEnd kind))
    else .error (.type (.badPosition kind v.kindName))
  | t => .error (.type (.badPosition kind (t.operandKind classes)))

/-- What stands in brackets behind something. -/
def subscript (classes : Registry) (m index : Meaning) : Except Fault Meaning :=
  let i := index.toTy classes
  match m with
  | .tuple ts => (Meaning.itemAt classes "tuple" ts i).map .one
  | .one (.params ts) => (Meaning.itemAt classes "list" ts i).map .one
  | .one (.plain (.str s)) => do
    (Meaning.itemAt classes "str" ((← (Value.str s).row).map .plain) i).map .one
  | .one (.plain (.map _)) => .error (.type (.unknownMember (i.shown classes)))
  | .one t =>
    (t.subscript classes (match index with
      | .tuple ts => ts
      | .one i => [i])).map .one

/-- What something knows by a name. -/
def member (s : Scope) (m : Meaning) (name : String) : Except Fault Meaning :=
  let ofKind (kind : String) : Except Fault Meaning :=
    if hasMember kind name then .ok (.one (.thing "method" (kind ++ "." ++ name)))
    else .error (.noMember kind name)
  let ofClass (kind tag : String) : Except Fault Meaning :=
    if hasMember kind name || hasMember "type" name then
      .ok (.one (.thing "method" (tag ++ "." ++ name)))
    else .error (.type (.noClassMember tag name))
  let named (shown : String) (orElse : Except Fault Meaning) : Except Fault Meaning :=
    if name = "__name__" || name = "__qualname__" then .ok (.one (.plain (.str shown))) else orElse
  match m with
  | .tuple _ => ofKind "tuple"
  | .one (.params _) => ofKind "list"
  | .one (.scalar c) => named c.name (ofClass c.name c.tag)
  | .one (.bare g) => named g.name (ofClass g.name g.name)
  | .one (.declared k) =>
    match s.classes.find? k with
    | none => ofClass "object" k
    | some d =>
      match d.ownName? name with
      | some t => .ok (.one t)
      | none =>
        match d.kind with
        | .validated | .enumeration _ _ =>
          if hasMember "object" name || hasMember "type" name then named d.name (ofClass "object" k)
          else .error (.type (.noModelMember name))
        | .dictionary => named d.name (ofClass "dict" d.name)
        | .namedTuple | .untypedTuple => named d.name (ofClass "tuple" d.name)
        | _ => named d.name (ofClass "object" d.name)
  | .one t => ofKind (t.operandKind s.classes)

/-- Two meanings with an operator between them. -/
def combine (classes : Registry) (op : String) (l r : Meaning) : Except Fault Meaning :=
  let bad : Fault :=
    .unsupportedOperands op ((l.toTy classes).operandKind classes)
      ((r.toTy classes).operandKind classes)
  match l, r with
  | .one a, .one b =>
    match data? a, data? b with
    | some v, some w =>
      let value (x : Except Fault Value) : Except Fault Meaning := x.map fun v => .one (.ofValue v)
      match v, w with
      | .str x, .str y => if op = "+" then .ok (.one (.plain (.str (x ++ y)))) else .error bad
      | v, w =>
        match op with
        | "|" => if a.isAbsent && b.isAbsent then .error bad else value (v.union w)
        | "&" => value (v.meet w)
        | "^" => value (v.exclusive w)
        | "/" => value (v.divide w)
        | _ =>
          if v.isWhole && w.isWhole then
            let m := v.whole?.getD 0
            let n := w.whole?.getD 0
            match op with
            | "+" => value (.ok (.int (m + n)))
            | "-" => value (.ok (.int (m - n)))
            | "*" => value (.ok (.int (m * n)))
            | "//" =>
              if n = 0 then .error (.divisionByZero "integer division or modulo")
              else value (.ok (.int (m.fdiv n)))
            | "%" =>
              if n = 0 then .error (.divisionByZero "integer modulo")
              else value (.ok (.int (m.fmod n)))
            | "@" => .error bad
            | _ => .ok (.one (.thing "int" op))
          else if v.whole?.isSome && w.whole?.isSome && op ≠ "@" && op ≠ "<<" && op ≠ ">>" then
            .ok (.one (.thing "float" op))
          else .error bad
    | _, _ => if op = "|" then (a.bar classes b).map .one else .error bad
  | .tuple xs, .tuple ys => if op = "+" then .ok (.tuple (xs ++ ys)) else .error bad
  | .one _, .tuple _ | .tuple _, .one _ =>
    if op = "|" then
      if (l.toTy classes).isSpelledOut || (r.toTy classes).isSpelledOut then
        .error (.type (.rowOfTypes ((r.toTy classes).shown classes)))
      else .error bad
    else .error bad

/-- Two meanings compared. -/
def compare (classes : Registry) (op : String) (l r : Meaning) : Except Fault Bool :=
  let a := l.toTy classes
  let b := r.toTy classes
  match op with
  | "==" | "is" => .ok (a.same b)
  | "!=" | "is not" => .ok (!a.same b)
  | "in" => do return (← r.row classes).any (Ty.same a)
  | "not in" => do return !(← r.row classes).any (Ty.same a)
  | op =>
    match (data? a).bind Value.whole?, (data? b).bind Value.whole?, data? a, data? b with
    | some m, some n, _, _ => .ok (ordered op (m < n) (m = n))
    | _, _, some (.str x), some (.str y) => .ok (ordered op (x < y) (x = y))
    | _, _, _, _ => .error (.type (.unordered op (a.operandKind classes) (b.operandKind classes)))
where
  ordered (op : String) (less equal : Bool) : Bool :=
    match op with
    | "<" => less
    | "<=" => less || equal
    | ">" => !less && !equal
    | _ => !less

/-- A sign in front of a meaning. -/
def negated (classes : Registry) (op : String) (m : Meaning) : Except Fault Meaning :=
  if op = "not" then .ok (truth !m.isTrue)
  else
    let t := m.toTy classes
    match data? t with
    | some (.float x) =>
      if op = "~" then .error (.type (.unsupportedOperand op "float"))
      else .ok (.one (.plain (.float (if op = "-" then -x else x))))
    | some v =>
      if v.isWhole then
        let n := v.whole?.getD 0
        .ok (.one (.plain (.int (if op = "-" then -n else if op = "~" then -n - 1 else n))))
      else .error (.type (.unsupportedOperand op v.kindName))
    | none => .error (.type (.unsupportedOperand op (t.operandKind classes)))

/-- What a call gives. -/
def call (classes : Registry) (m : Meaning) (args : List Ty) : Except Fault Meaning :=
  let t := m.toTy classes
  let made (kind : String) : Except Fault Meaning := .ok (.one (.thing kind (kind ++ "()")))
  match t, args with
  | .bare ⟨.builtin, "type"⟩, [.absent] => .ok (.one .nothing)
  | .bare ⟨.builtin, "list"⟩, _ => .ok (.one (.params []))
  | .bare ⟨.builtin, "tuple"⟩, [] => .ok (.tuple [])
  | .bare ⟨.builtin, "dict"⟩, _ => .ok (.one (.plain (.map [])))
  | .bare ⟨.builtin, "set"⟩, _ => .ok (.one (.plain (.set [])))
  | .nothing, [] => .ok (.one .absent)
  | .scalar .str, [] => .ok (.one (.plain (.str "")))
  | .scalar .int, [] => .ok (.one (.plain (.int 0)))
  | .scalar .bool, [] => .ok (.one (.plain (.bool false)))
  | .scalar .float, [] => .ok (.one (.plain (.float 0.0)))
  | .scalar c, _ => made c.name
  | .bare g, _ => made g.name
  | .declared k, _ => made (((classes.find? k).map ClassDecl.name).getD k)
  | .thing "builtin_function_or_method" n, _ => made n
  | .thing "method" n, _ => made n
  | t, _ => .error (.type (.notCallable (t.operandKind classes)))

end Meaning

namespace Annotation.Expression

mutual

/-- What an expression means where it stands. -/
def meaning (s : Scope) : Expression → Except Fault Meaning
  | .name n =>
    match s.lookup n with
    | some t => .ok (.one t)
    | none => .error (.type (.undefined n))
  | .constant v => .ok (.one (.ofValue v))
  | .ellipsis => .ok (.one .ellipsis)
  | .imaginary => .ok (.one (.thing "complex" "1j"))
  | .template es => do
    let _ ← meanings s es
    return .one (.thing "str" "''")
  | .tuple es => do return .tuple (← meanings s es)
  | .list es => do return .one (.params (← meanings s es))
  | .set es => do
    match Ty.unhashables? (← meanings s es) with
    | some kind => throw (.unhashable kind)
    | none => return .one (.plain (.set []))
  | .dict ks vs => do
    let keys ← meanings s ks
    let _ ← meanings s vs
    match Ty.unhashables? keys with
    | some kind => throw (.unhashable kind)
    | none => return .one (.plain (.map []))
  | .spread => .ok (.one .absent)
  | .starred e => meaning s e
  | .attribute e n => do (← meaning s e).member s n
  | .subscript e i => do
    let m ← meaning s e
    m.subscript s.classes (← meaning s i)
  | .slice parts => do
    let _ ← meanings s parts
    return .one (.thing "slice" "slice()")
  | .call f args => do
    let m ← meaning s f
    m.call s.classes (← meanings s args)
  | .keyword _ e => meaning s e
  | .prefixed op e => do (← meaning s e).negated s.classes op
  | .operation op l r => do
    let l ← meaning s l
    l.combine s.classes op (← meaning s r)
  | .both l r => do
    let m ← meaning s l
    if m.isTrue then meaning s r else return m
  | .either l r => do
    let m ← meaning s l
    if m.isTrue then return m else meaning s r
  | .comparison first ops others => do compared s (← meaning s first) ops others
  | .conditional c yes no => do
    if (← meaning s c).isTrue then meaning s yes else meaning s no
  | .lambda => .ok (.one (.thing "function" "<function <lambda>>"))
  | .comprehension kind source => do
    let _ ← (← meaning s source).row s.classes
    match kind with
    | "list" => return .one (.params [])
    | "set" => return .one (.plain (.set []))
    | "dict" => return .one (.plain (.map []))
    | _ => return .one (.thing "generator" "<generator object <genexpr>>")
  | .assigned _ e => meaning s e

/-- What expressions mean one after the other, those with a star by what they hold. -/
def meanings (s : Scope) : List Expression → Except Fault (List Ty)
  | [] => .ok []
  | .starred e :: es => do
    let ts ← (← meaning s e).row s.classes
    return ts ++ (← meanings s es)
  | e :: es => do
    let t := (← meaning s e).toTy s.classes
    return t :: (← meanings s es)

/-- Comparisons one after the other, each of which must hold for the next to count. -/
def compared (s : Scope) (m : Meaning) : List String → List Expression → Except Fault Meaning
  | op :: ops, e :: es => do
    let n ← meaning s e
    let holds ← m.compare s.classes op n
    if holds && !ops.isEmpty then compared s n ops es else return Meaning.truth holds
  | _, _ => .ok (Meaning.truth true)

end

/-- What an expression stands for as a type. -/
def type (s : Scope) (e : Expression) : Except Fault Ty := do
  let m ← e.meaning s
  match m with
  | .tuple _ => throw (.type (.rowOfTypes ((m.toTy s.classes).shown s.classes)))
  | .one (.thing "tuple" shown) => throw (.type (.rowOfTypes shown))
  | .one t => t.converted

end Annotation.Expression

/-- Nesting deeper than this is left as it is written. -/
def annotationDepth : Nat := 400

namespace Ty

/-- A text as the reference that it is. -/
def referenced : Ty → Except Fault Ty
  | .plain (.str s) => reference s
  | t => .ok t

/-- The type with every reference replaced by what it stands for; a reference that stands for itself
is left. Arguments that are kept as they stand are first all taken as references. -/
def resolveWithin (s : Scope) : Nat → List String → Ty → Except Fault Ty
  | 0, _, t => .ok t
  | n + 1, seen, t =>
    let each (ts : List Ty) : Except Fault (List Ty) := ts.mapM (resolveWithin s n seen)
    let eachText (ts : List Ty) : Except Fault (List Ty) := do each (← ts.mapM referenced)
    match t with
    | .forward text =>
      if seen.contains text then .ok t
      else match Annotation.Expression.ofText? text with
        | none => .error (.badForwardReference text)
        | some e => do resolveWithin s n (text :: seen) (← e.type s)
    | .applied g ts =>
      (if g.family = .alias then each ts else eachText ts).map (.applied g)
    | .declaredOf k generic ts =>
      (if generic then each ts else eachText ts).map (.declaredOf k generic)
    | .union ms => do unionOf s.classes.unions (← each ms)
    | .bars ms => do barsOf s.classes (← each ms)
    | .annotated b ns => do (← resolveWithin s n seen b).annotate ns
    | .function .alias ps r => do
      let ps ← each ps
      return .function .alias ps (← resolveWithin s n seen r)
    | .function f ps r => do
      let ps ← ps.mapM referenced
      let r ← r.referenced
      let ps ← each ps
      return .function f ps (← resolveWithin s n seen r)
    | t => .ok t

/-- What an annotation stands for: a text is a reference, and the missing type the null type. -/
def resolve (s : Scope) (t : Ty) : Except Fault Ty := do
  resolveWithin s annotationDepth [] (← t.converted)

end Ty

end RouteAtlas
