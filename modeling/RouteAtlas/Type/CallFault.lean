import RouteAtlas.Text.Split

/-! Why something cannot be called without arguments. -/

namespace RouteAtlas

inductive CallFault where
  /-- So many arguments are expected; a function that has no name to tell may still leave the blank
  behind it. -/
  | counted (name : Option String) (least : Bool) (n : Nat)
  | exactlyOne (name : String)
  | leastOne (name : String)
  /-- The first argument is missing, which has this name. -/
  | first (shown argument : String)
  | named (function : String) (arguments : List String)
  | noConstructorArgument (kind : String)
  | notCreatable (kind : String)
  | notSaveable (kind : String)
  /-- A way of writing types that makes nothing. -/
  | form (shown : String)
  | anything
  | anyClass
  /-- An alias that stands for a class. -/
  | alias (name className : String)
  | abstractClass (name : String) (methods : List String)
  /-- A method of a class is not given an instance. -/
  | unbound (kind name : String)
  | emptyRow
  | emptyMapping
  | exhausted
deriving Repr, Inhabited

namespace CallFault

/-- Names in quotes, of which the last one is joined by a word. -/
def enumerated (names : List String) : String :=
  let quoted := names.map fun n => "'" ++ n ++ "'"
  match quoted.reverse with
  | [] => ""
  | [n] => n
  | [n, m] => m ++ " and " ++ n
  | n :: r => Text.join ", " r.reverse ++ ", and " ++ n

/-- A count with the word for what is counted. -/
def amount (n : Nat) (word : String) : String :=
  toString n ++ " " ++ word ++ (if n = 1 then "" else "s")

def message : CallFault → String
  | .counted name least n =>
    (name.map (· ++ " ")).getD "" ++ "expected " ++ (if least then "at least " else "") ++
      amount n "argument" ++ ", got 0"
  | .exactlyOne n => n ++ "() takes exactly one argument (0 given)"
  | .leastOne n => n ++ "() takes at least 1 argument (0 given)"
  | .first s a => s ++ " missing required argument '" ++ a ++ "' (pos 1)"
  | .named f as =>
    f ++ "() missing " ++ amount as.length "required positional argument" ++ ": " ++ enumerated as
  | .noConstructorArgument k => k ++ ".__new__(): not enough arguments"
  | .notCreatable k => "cannot create '" ++ k ++ "' instances"
  | .notSaveable k => "cannot pickle '" ++ k ++ "' object"
  | .form s => "Cannot instantiate " ++ s
  | .anything => "Any cannot be instantiated"
  | .anyClass => "type() takes 1 or 3 arguments"
  | .alias n c => "Type " ++ n ++ " cannot be instantiated; use " ++ c ++ "() instead"
  | .abstractClass n ms =>
    "Can't instantiate abstract class " ++ n ++ " with abstract method" ++
      (if ms.length = 1 then "" else "s") ++ " " ++ Text.join ", " ms
  | .unbound k n =>
    if Text.startsWith "__" n then
      "descriptor '" ++ n ++ "' of '" ++ k ++ "' object needs an argument"
    else "unbound method " ++ k ++ "." ++ n ++ "() needs an argument"
  | .emptyRow => "pop from empty list"
  | .emptyMapping => "'popitem(): dictionary is empty'"
  | .exhausted => ""

end CallFault

end RouteAtlas
