import RouteAtlas.Console.EmojiTable
import RouteAtlas.Text.Blank
import RouteAtlas.Text.Case
import RouteAtlas.Text.Split

/-!
Pictures that are written as names between colons, as in `:smile:`. A name may say at its end
whether the picture is wanted in colour or as plain text.
-/

namespace RouteAtlas.Emoji

def hexDigit (c : Char) : Nat :=
  if '0' ≤ c && c ≤ '9' then c.toNat - '0'.toNat else c.toNat - 'a'.toNat + 10

def hexChar (s : String) : Char := Char.ofNat (s.toList.foldl (fun n c => 16 * n + hexDigit c) 0)

/-- A name and its picture. -/
def entry (s : String) : Option (String × List Char) :=
  (Text.cut '=' s).map fun (name, codes) => (name, (Text.splitOn '-' codes).map hexChar)

def table : List (String × List Char) :=
  ((Text.splitOn '\n' EmojiTable.entries).flatMap (Text.splitOn ' ')).filterMap entry

/-- The ends of names, and the characters that they put behind the picture. -/
def variants : List (String × Char) := [("-emoji", '\ufe0f'), ("-text", '\ufe0e')]

/-- A name without its variant, and the characters for that. -/
def withoutVariant (name : String) : String × List Char :=
  match variants.find? fun v => Text.endsWith v.1 name with
  | some (e, c) => (String.ofList (name.toList.take (name.length - e.length)), [c])
  | none => (name, [])

/-- The picture of a name, in whatever case. -/
def named? (name : String) : Option (List Char) :=
  let (bare, variant) := withoutVariant name
  (table.lookup (Text.lower bare)).map (· ++ variant)

/-- The name that ends at the next colon, if no blank comes before that. -/
def name? (cs : List Char) : Option String :=
  let name := cs.takeWhile fun c => c ≠ ':' && !isBlank c
  if (cs.drop name.length).head? = some ':' then some (String.ofList name) else none

/-- Puts pictures for names; `skip` characters belong to what was put. -/
def drawn (skip : Nat) : List Char → List Char
  | [] => []
  | c :: r =>
    if 0 < skip then drawn (skip - 1) r
    else if c = ':' then
      match name? r with
      | some n => (named? n).getD (':' :: n.toList ++ [':']) ++ drawn (n.length + 1) r
      | none => c :: drawn 0 r
    else c :: drawn 0 r

end RouteAtlas.Emoji
