import RouteAtlas.Annotation.Literal
import RouteAtlas.Host
import RouteAtlas.Text.Identifier
import RouteAtlas.Text.Quoted

/-!
What a tag says that is to be done on a click: a name with dots, and values for it in brackets,
which have to be written out.
-/

namespace RouteAtlas

/-- Why what is to be done on a click cannot be read. -/
inductive HandlerFault where
  /-- A part of what is said should be an expression and is none. -/
  | noExpression (part said problem : String)
  /-- It is an expression but no value written out. -/
  | noValue (part said : String)
deriving DecidableEq, Repr

def HandlerFault.message (host : Host) : HandlerFault → String
  | .noExpression part said problem =>
    "error parsing " ++ Text.quoted part ++ " in " ++ Text.quoted said ++ "; " ++ problem
  | .noValue part said => "error parsing " ++ Text.quoted said ++ "; " ++ host.expressionText part

namespace Handler

open Annotation

/-- The brackets that open something, with those that close it. -/
def brackets : List (Char × Char) := [('(', ')'), ('[', ']'), ('\x7b', '\x7d')]

/-- How many characters a quoted text takes behind its first quote, if it ends. -/
def quotedLength? (quote : List Char) (count : Nat) : List Char → Option Nat
  | [] => none
  | ['\\'] => none
  | '\\' :: _ :: r => quotedLength? quote (count + 2) r
  | c :: r =>
    if quote.isPrefixOf (c :: r) then some (count + quote.length)
    else if c = '\n' && quote.length = 1 then none
    else quotedLength? quote (count + 1) r

/-- As many digits to the base sixteen as a code point is told with. -/
def codePoint (c : Char) : String :=
  "U+" ++ Text.upper (Text.hex 4 c.toNat)

/-- How many characters a number takes, or what is wrong with it. -/
def numberLength (cs : List Char) : Except String Nat :=
  match Number.read cs with
  | some (_, r) => .ok (cs.length - r.length)
  | none =>
    let digits := cs.takeWhile Char.isDigit
    if ["0x", "0X"].any fun p => p.toList.isPrefixOf cs then .error "invalid hexadecimal literal"
    else if digits.head? = some '0' && digits.any (· ≠ '0') then
      .error ("leading zeros in decimal integer literals are not permitted; " ++
        "use an 0o prefix for octal integers")
    else .error "invalid decimal literal"

/-- The open brackets behind a text, or what is wrong with its numbers, quotes and brackets. -/
def scan (line skip : Nat) (stack : List Char) : List Char → Except String (List Char)
  | [] => .ok stack
  | c :: r =>
    let line := if c = '\n' then line + 1 else line
    if 0 < skip then scan line (skip - 1) stack r
    else if c = '\'' || c = '"' then
      let triple := [c, c].isPrefixOf r
      let quote := List.replicate (if triple then 3 else 1) c
      match quotedLength? quote 0 (r.drop (quote.length - 1)) with
      | some n => scan line (n + quote.length - 1) stack r
      | none =>
        let last := if triple then line + (r.filter (· = '\n')).length else line
        .error ("unterminated " ++ (if triple then "triple-quoted " else "") ++
          "string literal (detected at line " ++ toString last ++ ")")
    else if c.isDigit then do
      scan line ((← numberLength (c :: r)) - 1) stack r
    else if Text.isWordPart c && Text.isNamePart c then
      scan line (r.takeWhile Text.isWordPart).length stack r
    else if c = '#' then scan line (r.takeWhile (· ≠ '\n')).length stack r
    else if c = '\\' && r.head? ≠ some '\n' then
      .error "unexpected character after line continuation character"
    else if (brackets.lookup c).isSome then
      if maxDepth ≤ stack.length then .error "too many nested parentheses"
      else scan line 0 (c :: stack) r
    else if brackets.any (·.2 = c) then
      match stack with
      | [] => .error ("unmatched '" ++ String.singleton c ++ "'")
      | o :: os =>
        if brackets.lookup o = some c then scan line 0 os r
        else .error ("closing parenthesis '" ++ String.singleton c ++
          "' does not match opening parenthesis '" ++ String.singleton o ++ "'")
    else if 127 < c.toNat && !Text.isNamePart c then
      if !Text.isPrintable c then .error ("invalid non-printable character " ++ codePoint c)
      else .error ("invalid character '" ++ String.singleton c ++ "' (" ++ codePoint c ++ ")")
    else scan line 0 stack r

/-- What is said of tokens that stand between brackets or behind a comma, if they are no expression.
-/
def complaintAt (fuel : Nat) (ts : List Token) : Option String :=
  let start := match ts with
    | .name _ :: .constant (.str _) :: _ => none
    | .name "match" :: _ | .name "case" :: _ | .name "_" :: _ => none
    | ts => disjunction fuel ts
  match start.bind fun (_, r) => expression fuel r with
  | some _ => some "invalid syntax. Perhaps you forgot a comma?"
  | none =>
    let assigned (r : List Token) : Bool := match disjunction fuel r with
      | some (_, .sign "=" :: _) | some (_, .sign ":=" :: _) | none => false
      | _ => true
    match ts with
    | .name _ :: .sign "=" :: r =>
      if assigned r then some "invalid syntax. Maybe you meant '==' or ':=' instead of '='?"
      else none
    | .constant _ :: .sign "=" :: r =>
      if assigned r then
        some "cannot assign to literal here. Maybe you meant '==' instead of '='?"
      else none
    | _ => none

/-- The first complaint about tokens, of which so many brackets are open. -/
def complaint? (fuel depth : Nat) : List Token → Option String
  | [] => none
  | t :: r =>
    let depth := depthAfter depth t
    let starts := match t with
      | .sign s => ["(", "[", "\x7b", ",", ":"].contains s
      | _ => false
    (if 0 < depth && starts then complaintAt fuel r else none).or (complaint? fuel depth r)

/-- The text with brackets on a line behind it that close those open. -/
def closed (s : String) (stack : List Char) : String :=
  if stack.isEmpty then s
  else s ++ "\n" ++ String.ofList (stack.filterMap fun o => brackets.lookup o)

/-- Would the text be an expression if something were put behind it? -/
def isUnfinished (s : String) (stack : List Char) : Bool :=
  (Expression.ofText? (closed s stack)).isSome ||
    (Expression.ofText? (closed (s ++ " x") stack)).isSome

/-- What is wrong with a text that should be an expression. -/
def problem? (s : String) : Option String :=
  if (Expression.ofText? s).isSome && !Text.startsWith "*" s then none
  else match scan 1 0 [] s.toList with
    | .error e => some e
    | .ok stack =>
      let fuel := 24 * (s.length + 2)
      let complaint := (tokens? (closed s stack)).bind fun ts =>
        (complaint? fuel 0 ts).or (if stack.isEmpty then none else complaintAt fuel ts)
      match stack with
      | [] => complaint.getD "invalid syntax"
      | o :: _ =>
        if complaint.isSome || isUnfinished s stack then
          "'" ++ String.singleton o ++ "' was never closed"
        else "invalid syntax"

/-- The expression in what a tag says: the values of a handler with a plain name, or else all of it.
-/
def expression (s : String) : String :=
  let cs := s.toList
  let name := cs.takeWhile fun c => c = '.' || Text.isNamePart c
  match cs.drop name.length with
  | [] => "()"
  | '(' :: r => if r.getLast? = some ')' && !r.contains '\n' then String.ofList ('(' :: r) else s
  | _ => s

/-- What is wrong with an expression that has a number with too many digits. -/
def longNumber? (host : Host) (tokens : List (List Char × Token)) : Option String :=
  tokens.findSome? fun t => (host.digitsFault? (decimalDigits t.1 t.2)).map fun f =>
    f.message host ++
      " - Consider hexadecimal for huge integer literals to avoid decimal conversion limits."

/-- What keeps a handler from being read. -/
def fault? (host : Host) (said : String) : Option HandlerFault :=
  let part := expression (Text.trim said)
  let tokens := lexemes (part.length + 1) part.toList
  match (problem? part).or (longNumber? host tokens) with
  | some problem => some (.noExpression part said problem)
  | none =>
    if (Expression.ofText? part).any Expression.isLiteral && !tokens.any fun t => isTemplate t.1 t.2
    then none
    else some (.noValue part said)

end Handler

end RouteAtlas
