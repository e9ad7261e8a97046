import RouteAtlas.Value.Operator
import RouteAtlas.Value.Scatter
import RouteAtlas.Decimal.Reader
import RouteAtlas.Value.Basic
import RouteAtlas.Yaml.Node
import RouteAtlas.Yaml.Staged

/-! Plain data from nodes. -/

namespace RouteAtlas.Yaml

/-- The text without the underscores that set digits apart. -/
def withoutUnderscores (s : String) : List Char := s.toList.filter (· ≠ '_')

def isNegative (cs : List Char) : Bool := cs.head? = some '-'

/-- How many digits a whole number begins with. -/
def digitCount (cs : List Char) : Nat :=
  ((Scalar.unsigned (Text.plainNumber cs)).takeWhile Decimal.isDigit).length

/-- The whole number to a base, in the forms in which whole numbers are read elsewhere too. Digits
to the base ten are counted, whatever stands behind them. -/
def ofBase (host : Host) (base : Nat) (cs : List Char) : Except Error Int :=
  match if base = 10 then host.digitsFault? (digitCount cs) else none with
  | some f => .error (.limit f)
  | none => match Text.integerOfBase? base cs with
    | some n => .ok n
    | none => .error (.badInteger base (String.ofList cs))

/-- The value of counts to base sixty, the first of them the greatest. -/
def sexagesimal (counts : List Int) : Int := counts.foldl (fun acc n => acc * 60 + n) 0

def intData (host : Host) (s : String) : Except Error Int := do
  let cs := withoutUnderscores s
  if cs.isEmpty then throw .emptyNumber
  let n ← match Scalar.unsigned cs with
    | ['0'] => pure 0
    | '0' :: 'b' :: r => ofBase host 2 r
    | '0' :: 'x' :: r => ofBase host 16 r
    | '0' :: r => ofBase host 8 ('0' :: r)
    | [] => throw .emptyNumber
    | ds =>
      if ds.contains ':' then do
        let counts ← (Text.pieces ':' ds).mapM (ofBase host 10)
        pure (sexagesimal counts)
      else ofBase host 10 ds
  return if isNegative cs then -n else n

/-- The number that a text with at most one sign stands for. -/
def floatPart (cs : List Char) : Except Error Float :=
  let read (r : List Char) : Option Float := (Decimal.unsignedFloat? r).or (Decimal.wordFloat? r)
  let x? := match Text.plainNumber cs with
    | '-' :: r => (read r).map (- ·)
    | '+' :: r => read r
    | r => read r
  match x? with
  | some x => .ok x
  | none => .error (.badFloat (String.ofList cs))

/-- Counts to base sixty, the last of them first; `base` is what one of the next is worth. There may
be too many of them for that. -/
def floatSum : Float → Nat → List Float → Except Error Float
  | acc, _, [] => .ok acc
  | acc, base, x :: xs =>
    match quotient? base 1 with
    | some b => floatSum (acc + x * b) (base * 60) xs
    | none => .error .tooLargeForFloat

def floatData (s : String) : Except Error Float := do
  let cs := (Text.lower (String.ofList (withoutUnderscores s))).toList
  if cs.isEmpty then throw .emptyNumber
  let ds := Scalar.unsigned cs
  if ds = ".inf".toList then return if isNegative cs then -1.0 / 0.0 else 1.0 / 0.0
  else if ds = ".nan".toList then return 0.0 / 0.0
  else
    let x ← if ds.contains ':' then do
        let xs ← (Text.pieces ':' ds).mapM floatPart
        floatSum 0.0 1 xs.reverse
      else floatPart ds
    return if isNegative cs then -x else x

def boolData (s : String) : Except Error Bool :=
  let w := Text.lower s
  if ["yes", "true", "on"].contains w then .ok true
  else if ["no", "false", "off"].contains w then .ok false
  else .error (.badBool w)

/-- The offset in millionths of a second. -/
def offsetOf : Option Char × List Char × List Char → Int
  | (none, _, _) => 0
  | (some sign, h, m) =>
    let n : Int := (Decimal.natOfDigits h * 3600 + Decimal.natOfDigits m * 60) * 1000000
    if sign = '-' then -n else n

/-- The first six digits of a fraction, as millionths. -/
def microOf (fraction : List Char) : Nat :=
  Decimal.natOfDigits ((fraction ++ List.replicate 6 '0').take 6)

def momentOf (t : Scalar.MomentText) : Except MomentFault Value :=
  let y := Decimal.natOfDigits t.year
  let m := Decimal.natOfDigits t.month
  let d := Decimal.natOfDigits t.day
  match t.clock with
  | none => (Date.make y m d).map .date
  | some (hour, minute, second) =>
    (Moment.make ⟨y, m, d⟩ (Decimal.natOfDigits hour) (Decimal.natOfDigits minute)
      (Decimal.natOfDigits second) (microOf t.fraction) (t.offset.map offsetOf)).map .moment

def momentData (s : String) : Except Error Value :=
  match Scalar.momentText? (Scalar.withoutLastFeed s.toList) with
  | none => .error .notMoment
  | some t =>
    match momentOf t with
    | .ok v => .ok v
    | .error f => .error (.badMoment f)

def base64Digit? (c : Char) : Option Nat :=
  if 'A' ≤ c && c ≤ 'Z' then some (c.toNat - 65)
  else if 'a' ≤ c && c ≤ 'z' then some (c.toNat - 71)
  else if '0' ≤ c && c ≤ '9' then some (c.toNat + 4)
  else if c = '+' then some 62 else if c = '/' then some 63 else none

/-- Bytes from digits of six bits; `held` digits of the present group are in `bits`, behind `pads`
marks of a short group. -/
def base64 (held bits pads : Nat) : List Char → Option (List UInt8)
  | [] => if held = 0 then some [] else none
  | '=' :: r =>
    if 2 ≤ held && 4 ≤ held + (pads + 1) then some [] else base64 held bits (pads + 1) r
  | c :: r =>
    match base64Digit? c with
    | none => base64 held bits pads r
    | some d =>
      match held with
      | 0 => base64 1 d 0 r
      | 1 => (base64 2 (d % 16) 0 r).map ((bits * 4 + d / 16).toUInt8 :: ·)
      | 2 => (base64 3 (d % 4) 0 r).map ((bits * 16 + d / 4).toUInt8 :: ·)
      | _ => (base64 0 0 0 r).map ((bits * 64 + d).toUInt8 :: ·)

def binaryData (s : String) : Except Error Value :=
  if !s.toList.all (·.toNat < 128) then .error .malformed
  else match base64 0 0 0 s.toList with
    | some bs => .ok (.bytes bs)
    | none => .error .malformed

/-- A scalar of a kind; keys of special meaning are no data. -/
def scalarData (host : Host) (tag : Tag) (s : String) : Except Error Value :=
  match tag with
  | .plain .null => .ok .null
  | .plain .bool => (boolData s).map .bool
  | .plain .int => (intData host s).map .int
  | .plain .float => (floatData s).map .float
  | .plain .moment => momentData s
  | .plain .str => .ok (.str s)
  | .binary => binaryData s
  | _ => .error .malformed

/-- Is the node told to be a scalar, so that a mapping in its place may give its value? -/
def isScalarTag : Tag → Bool
  | .plain k => k ≠ .merge && k ≠ .value
  | .binary => true
  | _ => false

/-- Is the node told to be a collection? -/
def isCollectionTag : Tag → Bool
  | .sequence | .mapping | .set | .orderedMapping | .pairs => true
  | _ => false

/-- The text of a scalar, or of the default value that a mapping gives. -/
def scalarText : Node → Except Error String
  | .scalar _ s => .ok s
  | .sequence _ _ => .error .malformed
  | .mapping _ entries => defaultText entries
where
  defaultText : List (Node × Node) → Except Error String
    | [] => .error .malformed
    | (k, v) :: r => if k.tag = .plain .value then scalarText v else defaultText r

/-- Can the value be a key? -/
def isKey : Value → Bool
  | .list _ | .set _ | .map _ => false
  | _ => true

def ofEntries (es : List (Value × Value)) : List (Value × Value) :=
  es.foldl (fun acc e => Value.putEntry e.1 e.2 acc) []

/-- Is one of the entries to be merged in neither a mapping nor a sequence of mappings? -/
def hasBadMerge : List (Node × Node) → Bool
  | [] => false
  | (k, v) :: r => (k.tag = .plain .merge && badMerged v) || hasBadMerge r
where
  badMerged : Node → Bool
    | .scalar _ _ => true
    | .mapping _ entries => hasBadMerge entries
    | .sequence _ items => badItems items
  badItems : List Node → Bool
    | [] => false
    | .mapping _ entries :: r => hasBadMerge entries || badItems r
    | _ :: _ => true

/-- A mapping that stands for a scalar by the default value in it. -/
def mappedScalar (host : Host) (tag : Tag) (entries : List (Node × Node)) : Except Error Value := do
  if !isScalarTag tag then throw .malformed
  let s ← scalarText (.mapping tag entries)
  if tag = .plain .moment then throw .mappedMoment else scalarData host tag s

/-- A key; what is filled later can be none, whatever is in it. -/
def asKey : Staged Value → Staged Value
  | .ok v => if isKey v then .ok v else .error 0 .malformed
  | .error 0 e => .error 0 e
  | .error (_ + 1) _ => .error 0 .malformed

/-- An entry is made before it is known whether others are well-formed. -/
def entry (k v : Staged Value) : Staged (Value × Value) := Prod.mk <$> k <*> v

/-- What is merged in comes first. -/
def joined {α : Type} (parts : List α × List α) : List α := parts.1 ++ parts.2

/-- The entries of a mapping, none of which is made if one to be merged in is malformed. -/
def filled (bad : Bool)
    (parts : List (Staged (Value × Value)) × List (Staged (Value × Value))) :
    Staged (List (Value × Value)) :=
  if bad then .error 0 .malformed else ofEntries <$> Staged.all (joined parts)

section

variable (host : Host)

mutual

def data : Node → Staged Value
  | .scalar tag s =>
    if isCollectionTag tag then .later (.error 0 .malformed) else .now (scalarData host tag s)
  | .sequence tag items =>
    match tag with
    | .sequence => .later (.map .list (.all (dataItems items)))
    | .orderedMapping | .pairs => .later (.map .list (.all (dataPairs items)))
    | t => if isCollectionTag t then .later (.error 0 .malformed) else .error 0 .malformed
  | .mapping tag entries =>
    match tag with
    | .mapping => .later (.map .map (filled (hasBadMerge entries) (dataEntries entries)))
    | .set =>
      .later (.map (fun es => .set (Scatter.ofKeys (es.map (·.1))))
        (filled (hasBadMerge entries) (dataEntries entries)))
    | t =>
      if isCollectionTag t then .later (.error 0 .malformed) else .now (mappedScalar host t entries)

def dataItems : List Node → List (Staged Value)
  | [] => []
  | n :: ns => data n :: dataItems ns

/-- Each item is a mapping with one entry. -/
def dataPairs : List Node → List (Staged Value)
  | [] => []
  | .mapping _ [(k, v)] :: ns =>
    .map (fun e => .tuple [e.1, e.2]) (entry (data k) (data v)) :: dataPairs ns
  | _ :: _ => [.error 0 .malformed]

/-- The entries of mappings that are merged in, and the mapping's own. -/
def dataEntries : List (Node × Node) →
    List (Staged (Value × Value)) × List (Staged (Value × Value))
  | [] => ([], [])
  | (k, v) :: r =>
    let (merged, own) := dataEntries r
    if k.tag = .plain .merge then (mergedEntries v ++ merged, own)
    else (merged, entry (dataKey k) (data v) :: own)

def dataKey : Node → Staged Value
  | .scalar tag s => asKey (if tag = .plain .value then .ok (.str s) else data (.scalar tag s))
  | .sequence _ _ => .error 0 .malformed
  | .mapping tag entries =>
    if tag = .plain .value then .now ((scalarText (.mapping tag entries)).map .str)
    else .now (mappedScalar host tag entries)

/-- The entries of the mapping that is merged in, or of several of which the first counts most. -/
def mergedEntries : Node → List (Staged (Value × Value))
  | .scalar _ _ => []
  | .mapping _ entries => joined (dataEntries entries)
  | .sequence _ items => mergedItems items

def mergedItems : List Node → List (Staged (Value × Value))
  | [] => []
  | .mapping _ entries :: r => mergedItems r ++ joined (dataEntries entries)
  | _ :: r => mergedItems r

end

end

/-- The data of the one document that the text holds; none is null. -/
def parse (host : Host) (text : String) : Except Error Value := do
  if host.cannotRead text then throw (.limit .depth)
  match ← Node.ofTokens (← Token.ofText host text) with
  | some n => (data host n).toExcept
  | none => return .null

end RouteAtlas.Yaml
