import RouteAtlas.Text.Utf8
import RouteAtlas.Value.Text

/-! Writing plain data as JSON. -/

namespace RouteAtlas

namespace Value

/-- The text that stands for a value as the key of a JSON object. -/
def keyText : Value → String
  | .null => "None"
  | .bool b => if b then "true" else "false"
  | .moment m => m.jsonText
  | v => v.text

/-- Bytes as the text that they hold; those that hold none are left as they are. -/
def bytesText (bs : List UInt8) : Value :=
  match Text.decodeUtf8 bs with
  | .ok s => .str s
  | .error _ => .bytes bs

/-- The value as the key of an object. -/
def plainKey : Value → Value
  | .bytes bs => bytesText bs
  | v => .str v.keyText

mutual

/-- The value with texts as keys and nothing but null, truth values, finite numbers, texts, lists
and mappings, and such bytes as are no text. A number that is not finite becomes null. -/
def plain : Value → Value
  | .float x => if x.isFinite then .float x else .null
  | .bytes bs => bytesText bs
  | .date d => .str d.text
  | .moment m => .str m.jsonText
  | .list items => .list (plains items)
  | .tuple items => .list (plains items)
  | .set items => .list (plains items)
  | .map entries =>
    .map ((plainEntries entries).foldl (fun acc e => Value.putEntry e.1 e.2 acc) [])
  | v => v

def plains : List Value → List Value
  | [] => []
  | x :: xs => plain x :: plains xs

def plainEntries : List (Value × Value) → List (Value × Value)
  | [] => []
  | (k, v) :: r => (plainKey k, plain v) :: plainEntries r

end

mutual

/-- What is wrong with the first bytes in the value that are no text. -/
def undecodable? : Value → Option Text.Utf8Error
  | .bytes bs =>
    match Text.decodeUtf8 bs with
    | .ok _ => none
    | .error e => some { e with last := e.first, cause := .invalid }
  | .list items => undecodableItem? items
  | .map entries => undecodablePair? entries
  | _ => none

def undecodableItem? : List Value → Option Text.Utf8Error
  | [] => none
  | x :: xs => (undecodable? x).or (undecodableItem? xs)

def undecodablePair? : List (Value × Value) → Option Text.Utf8Error
  | [] => none
  | (k, v) :: r => (undecodable? k).or ((undecodable? v).or (undecodablePair? r))

end

end Value

namespace Json

def escapeChar (c : Char) : String :=
  match c with
  | '"' => "\\\""
  | '\\' => "\\\\"
  | '\n' => "\\n"
  | '\r' => "\\r"
  | '\t' => "\\t"
  | '\x08' => "\\b"
  | '\x0c' => "\\f"
  | c => if c.toNat < 32 then "\\u" ++ Text.hex 4 c.toNat else String.singleton c

def quoted (s : String) : String := "\"" ++ String.join (s.toList.map escapeChar) ++ "\""

def floatText (x : Float) : String :=
  let t := Decimal.floatText x
  match t with
  | "inf" => "Infinity"
  | "-inf" => "-Infinity"
  | "nan" => "NaN"
  | t => t

/-- How the parts of a list or an object are set apart. -/
inductive Layout where
  | compact
  | indented
deriving DecidableEq

def Layout.break (l : Layout) (depth : Nat) : String :=
  match l with
  | .compact => ""
  | .indented => "\n" ++ String.ofList (List.replicate (2 * depth) ' ')

mutual

def write (l : Layout) (depth : Nat) : Value → String
  | .null => "null"
  | .bool b => if b then "true" else "false"
  | .int n => toString n
  | .float x => floatText x
  | .str s => quoted s
  | .list [] => "[]"
  | .list items => "[" ++ writeItems l (depth + 1) items ++ l.break depth ++ "]"
  | .map [] => "\x7b\x7d"
  | .map entries => "\x7b" ++ writeEntries l (depth + 1) entries ++ l.break depth ++ "\x7d"
  | v => quoted v.text

def writeItems (l : Layout) (depth : Nat) : List Value → String
  | [] => ""
  | [x] => l.break depth ++ write l depth x
  | x :: xs => l.break depth ++ write l depth x ++ "," ++ writeItems l depth xs

def writeEntries (l : Layout) (depth : Nat) : List (Value × Value) → String
  | [] => ""
  | [(k, v)] => l.break depth ++ quoted k.keyText ++ ": " ++ write l depth v
  | (k, v) :: r =>
    l.break depth ++ quoted k.keyText ++ ": " ++ write l depth v ++ "," ++ writeEntries l depth r

end

/-- One line. -/
def line (v : Value) : String := write .compact 0 v

/-- Two blanks per level, every item on a line of its own. -/
def pretty (v : Value) : String := write .indented 0 v ++ "\n"

end Json

end RouteAtlas
