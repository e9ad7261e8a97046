import RouteAtlas.Value.Basic
import RouteAtlas.Text.Quoted

/-! The text of plain data, as messages show it. -/

namespace RouteAtlas

private def two (n : Nat) : String := Text.padLeft 2 '0' (toString n)

def Date.text (d : Date) : String :=
  Text.padLeft 4 '0' (toString d.year) ++ "-" ++ two d.month ++ "-" ++ two d.day

def offsetText (micros : Int) : String :=
  let n := micros.natAbs / 1000000
  let rest := micros.natAbs % 1000000
  (if micros < 0 then "-" else "+") ++ two (n / 3600) ++ ":" ++ two (n / 60 % 60) ++
    (if n % 60 = 0 && rest = 0 then "" else ":" ++ two (n % 60)) ++
    (if rest = 0 then "" else "." ++ Text.padLeft 6 '0' (toString rest))

/-- Date and time with `mid` between them, and the offset if it is known. -/
def Moment.textWith (mid : String) (m : Moment) : String :=
  m.date.text ++ mid ++ two m.hour ++ ":" ++ two m.minute ++ ":" ++ two m.second ++
    (if m.micro = 0 then "" else "." ++ Text.padLeft 6 '0' (toString m.micro)) ++
    (m.offset.map offsetText).getD ""

def Moment.text (m : Moment) : String := m.textWith " "

/-- The form with `T` between date and time, and `Z` for universal time. -/
def Moment.jsonText (m : Moment) : String :=
  if m.offset = some 0 then { m with offset := none }.textWith "T" ++ "Z" else m.textWith "T"

/-- A span of time as whole days, and the seconds and their millionths left over. -/
def spanLiteral (micros : Int) : String :=
  let days := micros.fdiv 86400000000
  let seconds := (micros - days * 86400000000) / 1000000
  let rest := micros % 1000000
  let part (name : String) (n : Int) : List String :=
    if n = 0 then [] else [name ++ "=" ++ toString n]
  let parts := part "days" days ++ part "seconds" seconds ++ part "microseconds" rest
  "datetime.timedelta(" ++ (if parts.isEmpty then "0" else Text.join ", " parts) ++ ")"

/-- A moment without the parts of a second, and of a minute, that are zero. -/
def Moment.literal (m : Moment) : String :=
  let d := m.date
  let parts := [d.year, d.month, d.day, m.hour, m.minute] ++
    (if m.micro ≠ 0 then [m.second, m.micro] else if m.second ≠ 0 then [m.second] else [])
  let zone := match m.offset with
    | none => []
    | some 0 => ["tzinfo=datetime.timezone.utc"]
    | some s => ["tzinfo=datetime.timezone(" ++ spanLiteral s ++ ")"]
  "datetime.datetime(" ++ Text.join ", " (parts.map toString ++ zone) ++ ")"

namespace Value

mutual

/-- The value as it would be written in program text. -/
def literal : Value → String
  | .null => "None"
  | .bool b => if b then "True" else "False"
  | .int n => toString n
  | .float x => Decimal.floatText x
  | .str s => Text.quoted s
  | .bytes bs => Text.quotedBytes bs
  | .date d => "datetime.date(" ++ Text.join ", " ([d.year, d.month, d.day].map toString) ++ ")"
  | .moment m => m.literal
  | .list items => "[" ++ literals items ++ "]"
  | .tuple [x] => "(" ++ literal x ++ ",)"
  | .tuple items => "(" ++ literals items ++ ")"
  | .set [] => "set()"
  | .set items => "\x7b" ++ literals items ++ "\x7d"
  | .map entries => "\x7b" ++ literalEntries entries ++ "\x7d"

def literals : List Value → String
  | [] => ""
  | [x] => literal x
  | x :: xs => literal x ++ ", " ++ literals xs

def literalEntries : List (Value × Value) → String
  | [] => ""
  | [(k, v)] => literal k ++ ": " ++ literal v
  | (k, v) :: r => literal k ++ ": " ++ literal v ++ ", " ++ literalEntries r

end

/-- The value as it is shown: a text is itself, all else is its literal. -/
def text : Value → String
  | .str s => s
  | .date d => d.text
  | .moment m => m.text
  | v => v.literal

@[simp] theorem text_str (s : String) : (str s).text = s := rfl

end Value

end RouteAtlas
