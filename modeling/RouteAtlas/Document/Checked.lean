import RouteAtlas.Fault
import RouteAtlas.Named
import RouteAtlas.Text.Utf8

/-! Reading plain data into types, where every mistake is reported and not only the first. -/

namespace RouteAtlas

/-- A result, or all that is wrong with the data. -/
inductive Checked (α : Type) where
  | ok (a : α)
  | bad (issues : List Issue)
deriving Repr

namespace Checked

def fail {α : Type} (kind : String) : Checked α := .bad [⟨[], kind⟩]

def map {α β : Type} (f : α → β) : Checked α → Checked β
  | .ok a => .ok (f a)
  | .bad is => .bad is

/-- Both results, or the issues of both. -/
def seq {α β : Type} (f : Checked (α → β)) (x : Checked α) : Checked β :=
  match f, x with
  | .ok f, .ok a => .ok (f a)
  | .ok _, .bad js => .bad js
  | .bad is, .ok _ => .bad is
  | .bad is, .bad js => .bad (is ++ js)

instance : Applicative Checked where
  pure := .ok
  map := Checked.map
  seq f x := Checked.seq f (x ())

@[simp] theorem map_ok {α β : Type} (f : α → β) (a : α) : f <$> (Checked.ok a) = .ok (f a) := rfl

@[simp] theorem seq_ok {α β : Type} (f : α → β) (a : α) :
    (Checked.ok f) <*> (Checked.ok a) = .ok (f a) := rfl

@[simp] theorem pure_eq {α : Type} (a : α) : (pure a : Checked α) = .ok a := rfl

def isOk {α : Type} : Checked α → Bool
  | .ok _ => true
  | .bad _ => false

def issues {α : Type} : Checked α → List Issue
  | .ok _ => []
  | .bad is => is

def toExcept {α : Type} : Checked α → Except Fault α
  | .ok a => .ok a
  | .bad is => .error (.invalid is)

/-- The issues lie one step further in. -/
def within {α : Type} (step : Value) : Checked α → Checked α
  | .ok a => .ok a
  | .bad is => .bad (is.map (Issue.within step))

def at_ {α : Type} (key : String) : Checked α → Checked α := within (.str key)

@[simp] theorem within_ok {α : Type} (step : Value) (a : α) : within step (.ok a) = .ok a := rfl

@[simp] theorem at_ok {α : Type} (key : String) (a : α) : at_ key (.ok a) = .ok a := rfl

/-- All results in order, each item's issues at its position. -/
def items {α : Type} (f : Value → Checked α) : Nat → List Value → Checked (List α)
  | _, [] => .ok []
  | i, v :: vs => List.cons <$> within (.int i) (f v) <*> items f (i + 1) vs

end Checked

/-- The value of the first of these keys that an object has. -/
def pick (entries : List (Value × Value)) : List String → Option Value
  | [] => none
  | k :: ks => (Value.lookup k entries).or (pick entries ks)

/-- The first of these keys that an object has. -/
def pickKey (entries : List (Value × Value)) : List String → Option String
  | [] => none
  | k :: ks => if (Value.lookup k entries).isSome then some k else pickKey entries ks

namespace Check

open Checked

/-- Entries of an object with the keys under which a field may be given; issues use the first key.
-/
def required {α : Type} (entries : List (Value × Value)) (keys : List String)
    (f : Value → Checked α) : Checked α :=
  at_ (keys.headD "") (match pick entries keys with
    | some v => f v
    | none => fail "missing")

/-- A field that has a default. -/
def optional {α : Type} (entries : List (Value × Value)) (keys : List String) (default : α)
    (f : Value → Checked α) : Checked α :=
  match pick entries keys with
  | some v => at_ (keys.headD "") (f v)
  | none => .ok default

def nullable {α : Type} (f : Value → Checked α) : Value → Checked (Option α)
  | .null => .ok none
  | v => some <$> f v

def text : Value → Checked String
  | .str s => .ok s
  | .bytes bs =>
    match Text.decodeUtf8 bs with
    | .ok s => .ok s
    | .error _ => fail "string_unicode"
  | _ => fail "string_type"

def list {α : Type} (f : Value → Checked α) : Value → Checked (List α)
  | .list vs | .tuple vs | .set vs => items f 0 vs
  | _ => fail "list_type"

def texts : Value → Checked (List String) := list text

def any (v : Value) : Checked Value := .ok v

/-- One of the words a text must be. -/
def word (w : String) : Value → Checked Unit
  | .str s => if s = w then .ok () else fail "literal_error"
  | _ => fail "literal_error"

def asciiLower (s : String) : String := String.ofList (s.toList.map Char.toLower)

def falseWords : List String := ["0", "off", "f", "false", "n", "no"]

def trueWords : List String := ["1", "on", "t", "true", "y", "yes"]

def boolWord (s : String) : Checked Bool :=
  let w := asciiLower s
  if trueWords.contains w then .ok true
  else if falseWords.contains w then .ok false else fail "bool_parsing"

/-- Does the number fit in sixty-four bits? -/
def fitsWord (n : Int) : Bool := -9223372036854775808 ≤ n && n < 9223372036854775808

/-- Zero and one. Another number is a wrong one where it fits in a word, and no truth value where it
does not. -/
def boolWhole (n : Int) : Checked Bool :=
  if n = 0 then .ok false else if n = 1 then .ok true
  else if fitsWord n then fail "bool_parsing" else fail "bool_type"

def bool : Value → Checked Bool
  | .bool b => .ok b
  | .int n => boolWhole n
  | .float x =>
    match Value.floatInt? x with
    | some n => boolWhole n
    | none => fail "bool_type"
  | .str s => boolWord s
  | .bytes bs =>
    match Text.decodeUtf8 bs with
    | .ok s => boolWord s
    | .error _ => fail "bool_parsing"
  | _ => fail "bool_type"

/-- A key as a step of a place: a number stays a number where it is small enough. -/
def keyStep : Value → Value
  | .str s => .str s
  | .bool b => .int (if b then 1 else 0)
  | .int n => if fitsWord n then .int n else .str (toString n)
  | v => .str v.literal

/-- Every entry of a mapping, its key as a text and its value read by `f`. -/
def entries {α : Type} (f : Value → Checked α) : List (Value × Value) → Checked (List (String × α))
  | [] => .ok []
  | (k, v) :: r =>
    (fun k v r => (k, v) :: r) <$> within (keyStep k) (at_ "[key]" (text k)) <*>
      within (keyStep k) (f v) <*> entries f r

def dict {α : Type} (f : Value → Checked α) : Value → Checked (List (String × α))
  | .map es => lastOfNames <$> entries f es
  | _ => fail "dict_type"

/-- The entries of an object. -/
def object {α : Type} (f : List (Value × Value) → Checked α) : Value → Checked α
  | .map es => f es
  | _ => fail "model_type"

/-- Entries under no known key. -/
def noOthers (es : List (Value × Value)) (known : List (Option String)) : Checked Unit :=
  let bad := es.flatMap fun e =>
    match e.1 with
    | .str k => if known.contains (some k) then [] else [⟨[keyStep e.1], "extra_forbidden"⟩]
    | _ => [⟨[keyStep e.1], "invalid_key"⟩]
  if bad.isEmpty then .ok () else .bad bad

end Check

end RouteAtlas
