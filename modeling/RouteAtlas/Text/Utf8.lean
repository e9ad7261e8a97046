/-! Text from bytes, with the place of the first byte that fits no character. -/

namespace RouteAtlas.Text

inductive Utf8Cause where
  | start
  | continuation
  | endOfData
  /-- Whatever is wrong, seen by a reader that does not tell. -/
  | invalid
deriving DecidableEq, Repr

def Utf8Cause.text : Utf8Cause → String
  | .start => "invalid start byte"
  | .continuation => "invalid continuation byte"
  | .endOfData => "unexpected end of data"
  | .invalid => "invalid utf-8"

/-- Bytes from `first` to `last` cannot be read. -/
structure Utf8Error where
  byte : UInt8
  first : Nat
  last : Nat
  cause : Utf8Cause
deriving Repr

def hexByte (b : UInt8) : String :=
  let ds := String.ofList (Nat.toDigits 16 b.toNat)
  "0x" ++ (if ds.length < 2 then "0" ++ ds else ds)

def Utf8Error.message (e : Utf8Error) : String :=
  if e.first = e.last then
    "'utf-8' codec can't decode byte " ++ hexByte e.byte ++ " in position " ++ toString e.first ++
      ": " ++ e.cause.text
  else
    "'utf-8' codec can't decode bytes in position " ++ toString e.first ++ "-" ++ toString e.last ++
      ": " ++ e.cause.text

/-- How many bytes follow a first byte, and the range of the next one. -/
def followers? (b : UInt8) : Option (Nat × UInt8 × UInt8) :=
  if 0xc2 ≤ b && b < 0xe0 then some (1, 0x80, 0xbf)
  else if b = 0xe0 then some (2, 0xa0, 0xbf)
  else if b = 0xed then some (2, 0x80, 0x9f)
  else if 0xe1 ≤ b && b < 0xf0 then some (2, 0x80, 0xbf)
  else if b = 0xf0 then some (3, 0x90, 0xbf)
  else if 0xf1 ≤ b && b < 0xf4 then some (3, 0x80, 0xbf)
  else if b = 0xf4 then some (3, 0x80, 0x8f)
  else none

/-- The leading bytes, at most `n`, that can continue a character. -/
def goodPart (lo hi : UInt8) (n : Nat) (bs : List UInt8) : List UInt8 :=
  match n, bs with
  | 0, _ => []
  | _, [] => []
  | n + 1, b :: r => if lo ≤ b && b ≤ hi then b :: goodPart 0x80 0xbf n r else []

def codePoint (n : Nat) (first : UInt8) (rest : List UInt8) : Nat :=
  let lead :=
    if n = 1 then first.toNat % 0x20 else if n = 2 then first.toNat % 0x10 else first.toNat % 8
  rest.foldl (fun acc b => acc * 64 + b.toNat % 64) lead

def decodeFrom : Nat → Nat → List Char → List UInt8 → Except Utf8Error String
  | 0, _, acc, _ => .ok (String.ofList acc.reverse)
  | _, _, acc, [] => .ok (String.ofList acc.reverse)
  | fuel + 1, i, acc, b :: r =>
    if b < 0x80 then decodeFrom fuel (i + 1) (Char.ofNat b.toNat :: acc) r
    else match followers? b with
      | none => .error ⟨b, i, i, .start⟩
      | some (n, lo, hi) =>
        let part := goodPart lo hi n r
        if part.length = n then
          decodeFrom fuel (i + 1 + n) (Char.ofNat (codePoint n b part) :: acc) (r.drop n)
        else if part.length = r.length then .error ⟨b, i, i + part.length, .endOfData⟩
        else .error ⟨b, i, i + part.length, .continuation⟩

def decodeUtf8 (bs : List UInt8) : Except Utf8Error String := decodeFrom (bs.length + 1) 0 [] bs

end RouteAtlas.Text
