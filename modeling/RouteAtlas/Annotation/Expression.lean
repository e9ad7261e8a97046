import RouteAtlas.Annotation.Token
import RouteAtlas.Text.Split

/-!
Annotations as expressions: names, constants and displays, joined by operators, attributes,
subscripts and calls. What cannot be read as one expression is refused as a whole.
-/

namespace RouteAtlas.Annotation

inductive Expression where
  | name (s : String)
  | constant (v : Value)
  | ellipsis
  | imaginary
  | template (fields : List Expression)
  | tuple (items : List Expression)
  | list (items : List Expression)
  | set (items : List Expression)
  /-- As many values as keys; the value of a spread is a mapping. -/
  | dict (keys values : List Expression)
  | spread
  | starred (e : Expression)
  | attribute (e : Expression) (name : String)
  | subscript (e index : Expression)
  | slice (parts : List Expression)
  | call (f : Expression) (args : List Expression)
  /-- An argument by name, or a mapping of such arguments. -/
  | keyword (name : Option String) (e : Expression)
  | prefixed (op : String) (e : Expression)
  | operation (op : String) (left right : Expression)
  | both (left right : Expression)
  | either (left right : Expression)
  | comparison (first : Expression) (ops : List String) (others : List Expression)
  | conditional (condition yes no : Expression)
  | lambda
  | comprehension (kind : String) (source : Expression)
  | assigned (name : String) (e : Expression)
deriving Inhabited, Repr

abbrev Tokens := List Token

/-- How tightly an operator binds. -/
def opLevel? (s : String) : Option Nat :=
  match s with
  | "|" => some 0
  | "^" => some 1
  | "&" => some 2
  | "<<" | ">>" => some 3
  | "+" | "-" => some 4
  | "*" | "/" | "//" | "%" | "@" => some 5
  | _ => none

/-- A comparison that begins here. -/
def comparisonOp? : Tokens → Option (String × Tokens)
  | .word "not" :: .word "in" :: r => some ("not in", r)
  | .word "in" :: r => some ("in", r)
  | .word "is" :: .word "not" :: r => some ("is not", r)
  | .word "is" :: r => some ("is", r)
  | .sign s :: r => if ["==", "!=", "<=", "<", ">=", ">"].contains s then some (s, r) else none
  | _ => none

mutual

/-- Can a value be put where the expression stands? -/
def isTarget : Expression → Bool
  | .name _ | .attribute _ _ | .subscript _ _ => true
  | .tuple es | .list es => areTargets es
  | .starred e => isTarget e
  | _ => false

def areTargets : List Expression → Bool
  | [] => true
  | e :: es => isTarget e && areTargets es

end

/-- Texts that stand one behind the other are one text, and rows of bytes likewise. -/
def joinTexts (v : Value) : Tokens → Option (Value × Tokens)
  | .constant (.str t) :: r =>
    match v with
    | .str s => joinTexts (.str (s ++ t)) r
    | .bytes _ => none
    | v => some (v, .constant (.str t) :: r)
  | .constant (.bytes t) :: r =>
    match v with
    | .bytes s => joinTexts (.bytes (s ++ t)) r
    | .str _ => none
    | v => some (v, .constant (.bytes t) :: r)
  | r => some (v, r)

/-- The parameters of a function: the names seen so far and whether one had a default, whether a
slash and a star have been read, and whether the star still needs a name. -/
structure Params where
  names : List String
  defaulted : Bool
  slash : Bool
  star : Bool
  needsName : Bool
  closed : Bool

def Params.add? (p : Params) (name : String) (hasDefault : Bool) : Option Params :=
  if p.names.contains name || p.closed then none
  else if !hasDefault && p.defaulted && !p.star then none
  else some { p with
    names := name :: p.names, defaulted := p.defaulted || hasDefault, needsName := false }

/-- How the arguments of a call may go on: by place, by name, or by mappings of names only. -/
structure CallState where
  named : Bool
  spread : Bool
  names : List String

mutual

def expression : Nat → Tokens → Option (Expression × Tokens)
  | 0, _ => none
  | n + 1, .word "lambda" :: r => do
    let r ← parameters n ⟨[], false, false, false, false, false⟩ r
    let (_, r) ← expression n r
    return (.lambda, r)
  | n + 1, ts => do
    let (e, r) ← disjunction n ts
    match r with
    | .word "if" :: r =>
      let (c, r) ← disjunction n r
      match r with
      | .word "else" :: r =>
        let (o, r) ← expression n r
        return (.conditional c e o, r)
      | _ => none
    | r => return (e, r)

/-- The parameters of a function up to the colon. -/
def parameters : Nat → Params → Tokens → Option (Tokens)
  | 0, _, _ => none
  | n + 1, p, ts => do
    let after (p : Params) (r : Tokens) : Option (Tokens) :=
      match r with
      | .sign "," :: r => parameters n p r
      | .sign ":" :: r => if p.needsName then none else some r
      | _ => none
    match ts with
    | .sign ":" :: r => if p.needsName then none else some r
    | .name s :: .sign "=" :: r =>
      let (_, r) ← expression n r
      after (← p.add? s true) r
    | .name s :: r => after (← p.add? s false) r
    | .sign "/" :: r =>
      if p.slash || p.star || p.closed || p.names.isEmpty then none
      else after { p with slash := true } r
    | .sign "*" :: .name s :: r =>
      if p.star || p.closed then none else after (← { p with star := true }.add? s false) r
    | .sign "*" :: r =>
      if p.star || p.closed then none else after { p with star := true, needsName := true } r
    | .sign "**" :: .name s :: r =>
      if p.needsName then none
      else after { (← { p with star := true }.add? s false) with closed := true } r
    | _ => none

/-- An expression, or a name that is given one. -/
def namedExpression : Nat → Tokens → Option (Expression × Tokens)
  | 0, _ => none
  | n + 1, .name s :: .sign ":=" :: r => do
    let (e, r) ← expression n r
    return (.assigned s e, r)
  | n + 1, ts => expression n ts

def disjunction : Nat → Tokens → Option (Expression × Tokens)
  | 0, _ => none
  | n + 1, ts => do
    let (e, r) ← conjunction n ts
    match r with
    | .word "or" :: r =>
      let (f, r) ← disjunction n r
      return (.either e f, r)
    | r => return (e, r)

def conjunction : Nat → Tokens → Option (Expression × Tokens)
  | 0, _ => none
  | n + 1, ts => do
    let (e, r) ← inversion n ts
    match r with
    | .word "and" :: r =>
      let (f, r) ← conjunction n r
      return (.both e f, r)
    | r => return (e, r)

def inversion : Nat → Tokens → Option (Expression × Tokens)
  | 0, _ => none
  | n + 1, .word "not" :: r => do
    let (e, r) ← inversion n r
    return (.prefixed "not" e, r)
  | n + 1, ts => do
    let (e, r) ← operators n 0 ts
    let (ops, others, r) ← comparisons n r
    return (if ops.isEmpty then e else .comparison e ops others, r)

def comparisons : Nat → Tokens → Option (List String × List Expression × Tokens)
  | 0, _ => none
  | n + 1, ts =>
    match comparisonOp? ts with
    | none => some ([], [], ts)
    | some (op, r) => do
      let (e, r) ← operators n 0 r
      let (ops, es, r) ← comparisons n r
      return (op :: ops, e :: es, r)

/-- Operators that bind at least as tightly as a level. -/
def operators : Nat → Nat → Tokens → Option (Expression × Tokens)
  | 0, _, _ => none
  | n + 1, level, ts =>
    if 5 < level then factor n ts
    else do
      let (e, r) ← operators n (level + 1) ts
      operands n level e r

/-- What the operators of a level join to what is on their left. -/
def operands : Nat → Nat → Expression → Tokens → Option (Expression × Tokens)
  | 0, _, _, _ => none
  | n + 1, level, e, .sign s :: r =>
    if opLevel? s = some level then do
      let (f, r) ← operators n (level + 1) r
      operands n level (.operation s e f) r
    else some (e, .sign s :: r)
  | _ + 1, _, e, r => some (e, r)

def factor : Nat → Tokens → Option (Expression × Tokens)
  | 0, _ => none
  | n + 1, .sign s :: r =>
    if s = "+" || s = "-" || s = "~" then do
      let (e, r) ← factor n r
      return (.prefixed s e, r)
    else power n (.sign s :: r)
  | n + 1, ts => power n ts

def power : Nat → Tokens → Option (Expression × Tokens)
  | 0, _ => none
  | n + 1, ts => do
    let (e, r) ← atom n ts
    let (e, r) ← trailers n e r
    match r with
    | .sign "**" :: r =>
      let (f, r) ← factor n r
      return (.operation "**" e f, r)
    | r => return (e, r)

/-- Attributes, subscripts and calls behind an expression. -/
def trailers : Nat → Expression → Tokens → Option (Expression × Tokens)
  | 0, _, _ => none
  | n + 1, e, .sign "." :: .name s :: r => trailers n (.attribute e s) r
  | _ + 1, _, .sign "." :: _ => none
  | n + 1, e, .sign "[" :: r => do
    let (items, tuple, r) ← indices n r
    let index := match items, tuple with
      | [i], false => i
      | is, _ => .tuple is
    trailers n (.subscript e index) r
  | n + 1, e, .sign "(" :: r => do
    let (args, r) ← arguments n ⟨false, false, []⟩ true r
    trailers n (.call e args) r
  | _ + 1, e, r => some (e, r)

/-- What stands between the brackets of a subscript, and whether it is a tuple. -/
def indices : Nat → Tokens → Option (List Expression × Bool × Tokens)
  | 0, _ => none
  | n + 1, ts => do
    let (e, r) ← match ts with
      | .sign "*" :: r => do
        let (e, r) ← expression n r
        pure (Expression.starred e, r)
      | ts => index n ts
    let starred := match e with
      | .starred _ => true
      | _ => false
    match r with
    | .sign "]" :: r => return ([e], starred, r)
    | .sign "," :: .sign "]" :: r => return ([e], true, r)
    | .sign "," :: r =>
      let (es, _, r) ← indices n r
      return (e :: es, true, r)
    | _ => none

/-- An expression, or a slice with some of its bounds. -/
def index : Nat → Tokens → Option (Expression × Tokens)
  | 0, _ => none
  | n + 1, ts => do
    let (low, r) ← match ts with
      | .sign ":" :: _ => some ([], ts)
      | ts => (namedExpression n ts).map fun (e, r) => ([e], r)
    match r with
    | .sign ":" :: r =>
      let bound (r : Tokens) : Option (List Expression × Tokens) :=
        match r with
        | .sign ":" :: _ | .sign "]" :: _ | .sign "," :: _ => some ([], r)
        | r => (expression n r).map fun (e, r) => ([e], r)
      let (high, r) ← bound r
      let (step, r) ← match r with
        | .sign ":" :: r => bound r
        | r => some ([], r)
      return (.slice (low ++ high ++ step), r)
    | r => match low with
      | [e] => return (e, r)
      | _ => none

/-- The arguments of a call up to the closing bracket; `first` says that none has been read. -/
def arguments : Nat → CallState → Bool → Tokens → Option (List Expression × Tokens)
  | 0, _, _, _ => none
  | n + 1, s, first, ts => do
    let after (s : CallState) (e : Expression) (r : Tokens) :
        Option (List Expression × Tokens) :=
      match r with
      | .sign ")" :: r => some ([e], r)
      | .sign "," :: r => (arguments n s false r).map fun (es, r) => (e :: es, r)
      | _ => none
    match ts with
    | .sign ")" :: r => some ([], r)
    | .sign "*" :: r =>
      let (e, r) ← expression n r
      if s.spread then none else after s (.starred e) r
    | .sign "**" :: r =>
      let (e, r) ← expression n r
      after { s with named := true, spread := true } (.keyword none e) r
    | .name k :: .sign "=" :: r =>
      let (e, r) ← expression n r
      if s.names.contains k then none
      else after { s with named := true, names := k :: s.names } (.keyword (some k) e) r
    | ts =>
      let (e, r) ← namedExpression n ts
      match r with
      | .word "for" :: _ =>
        let (source, r) ← clauses n r
        match r with
        | .sign ")" :: r => if first then some ([.comprehension "generator" source], r) else none
        | _ => none
      | r => if s.named then none else after s e r

/-- The clauses of a comprehension, of which the source of the first one is kept. -/
def clauses : Nat → Tokens → Option (Expression × Tokens)
  | 0, _ => none
  | n + 1, .word "for" :: r => do
    let r ← targets n r
    let (source, r) ← disjunction n r
    let r ← conditions n r
    match r with
    | .word "for" :: _ =>
      let (_, r) ← clauses n r
      return (source, r)
    | r => return (source, r)
  | _ + 1, _ => none

def conditions : Nat → Tokens → Option (Tokens)
  | 0, _ => none
  | n + 1, .word "if" :: r => do
    let (_, r) ← disjunction n r
    conditions n r
  | _ + 1, r => some r

/-- The names that a clause binds, up to its source. -/
def targets : Nat → Tokens → Option (Tokens)
  | 0, _ => none
  | n + 1, ts => do
    let ts := match ts with
      | .sign "*" :: r => r
      | ts => ts
    let (e, r) ← operators n 0 ts
    if !isTarget e then none
    match r with
    | .word "in" :: r => some r
    | .sign "," :: .word "in" :: r => some r
    | .sign "," :: r => targets n r
    | _ => none

def atom : Nat → Tokens → Option (Expression × Tokens)
  | 0, _ => none
  | n + 1, ts =>
    match ts with
    | .name s :: r => some (.name s, r)
    | .word "None" :: r => some (.constant .null, r)
    | .word "True" :: r => some (.constant (.bool true), r)
    | .word "False" :: r => some (.constant (.bool false), r)
    | .constant v :: r => do
      let (v, r) ← joinTexts v r
      match v, r with
      | .str _, .template _ :: _ => atom n r
      | .bytes _, .template _ :: _ => none
      | v, r => return (.constant v, r)
    | .imaginary :: r => some (.imaginary, r)
    | .template fields :: r => do
      let es ← fields.mapM fun f => do
        let (e, r) ← group n (← tokens? ("(" ++ f ++ ")")).tail
        if r.isEmpty then some e else none
      match r with
      | .constant (.str _) :: _ | .template _ :: _ =>
        let (more, r) ← atom n r
        return (.template (es ++ [more]), r)
      | .constant (.bytes _) :: _ => none
      | r => return (.template es, r)
    | .sign "..." :: r => some (.ellipsis, r)
    | .sign "(" :: .sign ")" :: r => some (.tuple [], r)
    | .sign "(" :: r => group n r
    | .sign "[" :: .sign "]" :: r => some (.list [], r)
    | .sign "[" :: r => do
      let (es, _, source, r) ← items n "]" true r
      return (match source with
        | some s => .comprehension "list" s
        | none => .list es, r)
    | .sign "\x7b" :: .sign "\x7d" :: r => some (.dict [] [], r)
    | .sign "\x7b" :: r => braces n r
    | _ => none

/-- What stands behind an opening bracket: one expression, or several as a tuple. -/
def group : Nat → Tokens → Option (Expression × Tokens)
  | 0, _ => none
  | n + 1, ts => do
    let (es, comma, source, r) ← items n ")" true ts
    match source, es with
    | some s, _ => return (.comprehension "generator" s, r)
    | none, [.starred e] => if comma then return (.tuple [.starred e], r) else none
    | none, [e] => return (if comma then .tuple [e] else e, r)
    | none, es => return (.tuple es, r)

/-- Items up to a closing bracket, whether a comma is among them, and the source if they are given
by a comprehension. -/
def items : Nat → String → Bool → Tokens →
    Option (List Expression × Bool × Option Expression × Tokens)
  | 0, _, _, _ => none
  | n + 1, close, first, ts => do
    let (e, r) ← match ts with
      | .sign "*" :: r => do
        let (e, r) ← operators n 0 r
        pure (Expression.starred e, r)
      | ts => namedExpression n ts
    match r with
    | .word "for" :: _ =>
      let starred := match e with
        | .starred _ => true
        | _ => false
      if !first || starred then none
      let (source, r) ← clauses n r
      match r with
      | .sign s :: r => if s = close then return ([], false, some source, r) else none
      | _ => none
    | .sign "," :: .sign s :: r =>
      if s = close then return ([e], true, none, r)
      else
        let (es, _, source, r) ← items n close false (.sign s :: r)
        return (e :: es, true, source, r)
    | .sign "," :: r =>
      let (es, _, source, r) ← items n close false r
      return (e :: es, true, source, r)
    | .sign s :: r => if s = close then return ([e], false, none, r) else none
    | _ => none

/-- A set or a mapping behind its opening brace. -/
def braces : Nat → Tokens → Option (Expression × Tokens)
  | 0, _ => none
  | n + 1, ts =>
    match ts with
    | .sign "**" :: _ => entries n ts
    | .sign "*" :: _ => do
      let (es, _, _, r) ← items n "\x7d" true ts
      return (.set es, r)
    | ts => do
      let (_, r) ← namedExpression n ts
      match r with
      | .sign ":" :: _ => entries n ts
      | _ =>
        let (es, _, source, r) ← items n "\x7d" true ts
        return (match source with
          | some s => .comprehension "set" s
          | none => .set es, r)

/-- The entries of a mapping up to the closing brace. -/
def entries : Nat → Tokens → Option (Expression × Tokens)
  | 0, _ => none
  | n + 1, ts => do
    let (k, v, r) ← match ts with
      | .sign "**" :: r => do
        let (e, r) ← operators n 0 r
        pure (Expression.spread, e, r)
      | ts => do
        let (k, r) ← expression n ts
        match r with
        | .sign ":" :: r => do
          let (v, r) ← expression n r
          pure (k, v, r)
        | _ => none
    match r with
    | .word "for" :: _ =>
      let (source, r) ← clauses n r
      match k, r with
      | .spread, _ => none
      | _, .sign "\x7d" :: r => return (.comprehension "dict" source, r)
      | _, _ => none
    | .sign "\x7d" :: r => return (.dict [k] [v], r)
    | .sign "," :: .sign "\x7d" :: r => return (.dict [k] [v], r)
    | .sign "," :: r =>
      let (more, r) ← entries n r
      match more with
      | .dict ks vs => return (.dict (k :: ks) (v :: vs), r)
      | _ => none
    | _ => none

end

/-- Expressions with commas between them, of which several or a last comma make a tuple. -/
def expressions (fuel : Nat) : Nat → Tokens → Option (List Expression × Bool)
  | 0, _ => none
  | n + 1, ts => do
    let (e, r) ← expression fuel ts
    match r with
    | [] => return ([e], false)
    | [.sign ","] => return ([e], true)
    | .sign "," :: r =>
      let (es, _) ← expressions fuel n r
      return (e :: es, true)
    | _ => none

namespace Expression

/-- The expression that a text is. A text that begins with a star is the first of what it unpacks.
-/
def ofText? (text : String) : Option Expression := do
  let text := if Text.startsWith "*" text then "(" ++ text ++ ",)[0]" else text
  let ts ← tokens? text
  match ← expressions (24 * (text.length + 2)) (ts.length + 1) ts with
  | ([e], false) => return e
  | (es, _) => return .tuple es

end Expression

end RouteAtlas.Annotation
