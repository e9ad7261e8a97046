import RouteAtlas.Decimal.Reader
import RouteAtlas.Fault
import RouteAtlas.Value.IsoMoment
import RouteAtlas.Value.Scatter

/-! Default values of parameters, and how each is written in a document. -/

namespace RouteAtlas

inductive Datum where
  | plain (v : Value)
  /-- A member of an enumeration. -/
  | member (owner name : String) (v : Value)
  | list (items : List Datum)
  | tuple (items : List Datum)
  | set (items : List Datum)
  | frozenSet (items : List Datum)
  | map (entries : List (String × Datum))
  | decimal (text : String)
  | uuid (text : String)
deriving Inhabited, Repr

/-- A decimal number: sign, digits and power of ten. -/
structure DecimalNumber where
  negative : Bool
  digits : List Char
  exponent : Int

namespace DecimalNumber

def isDigit (c : Char) : Bool := '0' ≤ c && c ≤ '9'

/-- The characters of a number in plain form: digits of any script as plain ones, other blanks as
the plain one, no underscores. Nothing else stands beyond the plain characters. -/
def plain? (s : String) : Option (List Char) :=
  ((Text.trim s).toList.filter (· ≠ '_')).mapM fun c =>
    if c.toNat < 128 then some c
    else if isBlank c then some ' '
    else (Text.digit? c).map fun d => Char.ofNat (48 + d)

/-- The digits without zeros in front of them. -/
def significant (cs : List Char) : List Char := cs.dropWhile (· = '0')

/-- The sign that a number may begin with, and what is behind it. -/
def sign : List Char → Bool × List Char
  | '-' :: r => (true, r)
  | '+' :: r => (false, r)
  | r => (false, r)

/-- The power of ten behind the mark, if the text ends with one. -/
def power? : List Char → Option Int
  | [] => some 0
  | e :: r => if e = 'e' || e = 'E' then Decimal.signedDigits? r else none

def ofPlain? (cs : List Char) : Option DecimalNumber :=
  let (negative, cs) := sign cs
  let whole := cs.takeWhile isDigit
  let rest := cs.drop whole.length
  let (fraction, rest) := match rest with
    | '.' :: r => (r.takeWhile isDigit, r.dropWhile isDigit)
    | r => ([], r)
  if whole.isEmpty && fraction.isEmpty then none
  else (power? rest).map fun p =>
    let digits := significant (whole ++ fraction)
    ⟨negative, if digits.isEmpty then ['0'] else digits, p - fraction.length⟩

/-- The text of an infinite number, or of one that is none and may have digits of its own. -/
def wordText? (cs : List Char) : Option String :=
  let (negative, cs) := sign cs
  let cs := cs.map Char.toLower
  let digitsAfter (word shown : String) : Option String :=
    (Text.dropStart? word (String.ofList cs)).bind fun r =>
      if r.toList.all isDigit then some (shown ++ String.ofList (significant r.toList)) else none
  let word :=
    if cs = "inf".toList || cs = "infinity".toList then some "Infinity"
    else (digitsAfter "nan" "NaN").or (digitsAfter "snan" "sNaN")
  word.map fun w => if negative then "-" ++ w else w

/-- In full from 1e-6 on if there is no positive power, else with one digit before the point. -/
def text (d : DecimalNumber) : String :=
  let n : Int := d.digits.length
  let left := d.exponent + n
  let place := if d.exponent ≤ 0 && left > -6 then left else 1
  let mantissa :=
    if place ≤ 0 then "0." ++ String.ofList (List.replicate (-place).toNat '0' ++ d.digits)
    else if place ≥ n then String.ofList (d.digits ++ List.replicate (place - n).toNat '0')
    else
      String.ofList (d.digits.take place.toNat) ++ "." ++
        String.ofList (d.digits.drop place.toNat)
  let power := left - place
  (if d.negative then "-" else "") ++ mantissa ++
    (if power = 0 then "" else "E" ++ (if power < 0 then "" else "+") ++ toString power)

/-- Does the number lie within what decimal numbers can tell apart? -/
def isInBounds (d : DecimalNumber) : Bool :=
  d.exponent ≥ -1999999999999999997 && d.exponent + d.digits.length ≤ 1000000000000000000

/-- A finite binary number, every one of which is a decimal number. -/
def ofFloat (x : Float) : DecimalNumber :=
  let bits : Nat := x.toBits.toNat
  let expo : Nat := bits / Nat.pow 2 52 % Nat.pow 2 11
  let frac : Nat := bits % Nat.pow 2 52
  let m : Nat := if expo = 0 then frac else Nat.pow 2 52 + frac
  let e : Int := if expo = 0 then -1074 else (expo : Int) - 1075
  let n := m * Nat.pow 2 e.toNat
  let d := Nat.pow 2 (-e).toNat
  let common := Nat.gcd n d
  let places := Nat.log2 (d / common)
  ⟨Nat.pow 2 63 ≤ bits, (toString (n / common * Nat.pow 5 places)).toList, -(places : Int)⟩

end DecimalNumber

namespace Datum

/-- A decimal number from its text, or from another number. -/
def ofDecimal (v : Value) : Except Fault Datum :=
  match v with
  | .str s =>
    match DecimalNumber.plain? s with
    | none => .error (.badDecimal false)
    | some cs =>
      match DecimalNumber.wordText? cs, DecimalNumber.ofPlain? cs with
      | some w, _ => .ok (.decimal w)
      | none, some d => if d.isInBounds then .ok (.decimal d.text) else .error (.badDecimal true)
      | none, none => .error (.badDecimal false)
  | .float x => .ok (.decimal (DecimalNumber.ofFloat x).text)
  | v => match v.whole? with
    | some n => .ok (.decimal (toString n))
    | none => .error (.notDecimal v.kindName)

/-- The text without any of the places where `part` occurs, from left to right. -/
def without (part : List Char) : List Char → List Char
  | [] => []
  | c :: r =>
    if part.isPrefixOf (c :: r) && 0 < part.length then without part (r.drop (part.length - 1))
    else c :: without part r
termination_by cs => cs.length
decreasing_by
  · simp only [List.length_drop, List.length_cons]
    omega
  · simp

/-- Thirty-two hexadecimal digits in groups, whatever hyphens and braces stand around them. -/
def ofUuid (v : Value) : Except Fault Datum :=
  match v with
  | .str s =>
    let cs := without "uuid:".toList (without "urn:".toList s.toList)
    let bare := (Text.trimList (fun c => c = '\x7b' || c = '\x7d') cs).filter (· ≠ '-')
    if bare.length ≠ 32 then .error .badIdentifier
    else match Text.integerOfBase? 16 bare with
      | none => .error (.badInteger 16 (Text.quoted (String.ofList bare)))
      | some n =>
        let ds := (Text.padLeft 32 '0' (String.ofList (Nat.toDigits 16 n.toNat))).toList
        let part (start n : Nat) : String := String.ofList ((ds.drop start).take n)
        .ok (.uuid (Text.join "-" [part 0 8, part 8 4, part 12 4, part 16 4, part 20 12]))
  | .null => .error .noIdentifier
  | v => .error (.noMember v.kindName "replace")

/-- What a text in the form of a date or a moment stands for. -/
def ofIso {α : Type} (read? : String → Option (Except MomentFault α)) (make : α → Value)
    (v : Value) : Except Fault Datum :=
  match v with
  | .str s =>
    match read? s with
    | none => .error (.notMoment (Text.quoted s))
    | some (.error f) => .error (.badMoment f)
    | some (.ok a) => .ok (.plain (make a))
  | _ => .error .untextualMoment

def ofDate : Value → Except Fault Datum := ofIso IsoMoment.readDate? .date

def ofMoment : Value → Except Fault Datum := ofIso IsoMoment.readMoment? .moment

mutual

/-- The kind of what keeps a datum from being in a set. -/
def unhashable? : Datum → Option String
  | .plain (.map _) | .map _ => some "dict"
  | .list _ | .plain (.list _) => some "list"
  | .set _ => some "set"
  | .tuple ds => unhashableIn? ds
  | _ => none

def unhashableIn? : List Datum → Option String
  | [] => none
  | d :: ds => (unhashable? d).or (unhashableIn? ds)

end

mutual

/-- Equality of contents. -/
def same : Datum → Datum → Bool
  | .plain v, .plain w => v.same w
  | .member o n _, .member p m _ => o = p && n = m
  | .decimal s, .decimal t => s = t
  | .uuid s, .uuid t => s = t
  | .tuple ds, .tuple es => sameList ds es
  | _, _ => false

def sameList : List Datum → List Datum → Bool
  | [], [] => true
  | d :: ds, e :: es => same d e && sameList ds es
  | _, _ => false

end

/-- The members of a set of data, each once. Numbers have an order of their own in it. -/
def members (ds : List Datum) : Except Fault (List Datum) :=
  match unhashableIn? ds with
  | some kind => .error (.unhashable kind)
  | none =>
    let distinct := ds.foldl (fun seen d => if seen.any (same d) then seen else seen ++ [d]) []
    let plain := distinct.filterMap fun
      | .plain v => some v
      | _ => none
    .ok (if plain.length = distinct.length then (Scatter.arranged 0 plain).map .plain else distinct)

def ofSet (ds : List Datum) : Except Fault Datum := (members ds).map .set

def ofFrozenSet (ds : List Datum) : Except Fault Datum := (members ds).map .frozenSet

mutual

/-- The datum as it would be written in program text. -/
def literal : Datum → String
  | .plain v => v.literal
  | .member o n v => "<" ++ o ++ "." ++ n ++ ": " ++ v.literal ++ ">"
  | .list ds => "[" ++ literals ds ++ "]"
  | .tuple [d] => "(" ++ literal d ++ ",)"
  | .tuple ds => "(" ++ literals ds ++ ")"
  | .set [] => "set()"
  | .set ds => "\x7b" ++ literals ds ++ "\x7d"
  | .frozenSet [] => "frozenset()"
  | .frozenSet ds => "frozenset(\x7b" ++ literals ds ++ "\x7d)"
  | .map es => "\x7b" ++ literalEntries es ++ "\x7d"
  | .decimal s => "Decimal('" ++ s ++ "')"
  | .uuid s => "UUID('" ++ s ++ "')"

def literals : List Datum → String
  | [] => ""
  | [d] => literal d
  | d :: ds => literal d ++ ", " ++ literals ds

def literalEntries : List (String × Datum) → String
  | [] => ""
  | [(k, d)] => Text.quoted k ++ ": " ++ literal d
  | (k, d) :: r => Text.quoted k ++ ": " ++ literal d ++ ", " ++ literalEntries r

end

mutual

/-- The value written as the default: members give their value, rows a list, all else a text. -/
def value : Datum → Value
  | .plain v =>
    match v with
    | .null | .bool _ | .int _ | .float _ | .str _ => v
    | v => .str v.text
  | .member _ _ v => v
  | .list ds => .list (values ds)
  | .tuple ds => .list (values ds)
  | .set ds => .list (values ds)
  | .frozenSet ds => .list (values ds)
  | .map es => .str (literal (.map es))
  | .decimal s => .str s
  | .uuid s => .str s

def values : List Datum → List Value
  | [] => []
  | d :: ds => value d :: values ds

end

def isAbsent : Datum → Bool
  | .plain .null => true
  | _ => false

end Datum

end RouteAtlas
