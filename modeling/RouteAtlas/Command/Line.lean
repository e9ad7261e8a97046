import RouteAtlas.Text.Split

/-!
Command lines: words that begin with a dash are options, all others are arguments. Two dashes alone
end the options.
-/

namespace RouteAtlas

inductive UsageFault where
  | unknownOption (name : String)
  | missingValue (name : String)
  | unexpectedValue (name : String)
  | badChoice (name value : String)
  | noCommand
  | unknownCommand (name : String)
  | extraArgument (word : String)
deriving DecidableEq, Repr

def UsageFault.message : UsageFault → String
  | .unknownOption n => "No such option: " ++ n
  | .missingValue n => "Option '" ++ n ++ "' requires an argument."
  | .unexpectedValue n => "Option '" ++ n ++ "' does not take a value."
  | .badChoice n v => "Invalid value for '" ++ n ++ "': '" ++ v ++ "'."
  | .noCommand => "Missing command."
  | .unknownCommand n => "No such command '" ++ n ++ "'."
  | .extraArgument w => "Got unexpected extra argument (" ++ w ++ ")"

/-- An option by its names, one of them perhaps a single letter. -/
structure OptionRule (α : Type) where
  meaning : α
  names : List String
  letter : Option Char
  takesValue : Bool

/-- The options of a command; unless mixed with its arguments, they stand before them. -/
structure Grammar (α : Type) where
  options : List (OptionRule α)
  mixed : Bool

/-- Options as they were given, with their values, and arguments. -/
structure CommandLine (α : Type) where
  options : List (α × String)
  arguments : List String
deriving DecidableEq, Repr

namespace Grammar

variable {α : Type}

def named? (g : Grammar α) (name : String) : Option (OptionRule α) :=
  g.options.find? (·.names.contains name)

def lettered? (g : Grammar α) (c : Char) : Option (OptionRule α) :=
  g.options.find? (·.letter = some c)

/-- What a word with options sets, and the option whose value is the next word. -/
abbrev Reading (α : Type) := List (α × String) × Option (α × String)

/-- Letters behind one dash; what follows an option with a value is its value. -/
def readLetters (g : Grammar α) : List Char → Except UsageFault (Reading α)
  | [] => .ok ([], none)
  | c :: r =>
    match g.lettered? c with
    | none => .error (.unknownOption (String.ofList ['-', c]))
    | some o =>
      if o.takesValue then
        if r.isEmpty then .ok ([], some (o.meaning, String.ofList ['-', c]))
        else .ok ([(o.meaning, String.ofList r)], none)
      else do
        let (set, open_) ← readLetters g r
        return ((o.meaning, "") :: set, open_)

/-- A word that begins with a dash: an option by its name, perhaps with a value, or letters. -/
def readWord (g : Grammar α) (w : String) : Except UsageFault (Reading α) :=
  let (name, value) : String × Option String := match Text.cut '=' w with
    | some (n, v) => (n, some v)
    | none => (w, none)
  match g.named? name, value with
  | some o, none =>
    if o.takesValue then .ok ([], some (o.meaning, name)) else .ok ([(o.meaning, "")], none)
  | some o, some v =>
    if o.takesValue then .ok ([(o.meaning, v)], none) else .error (.unexpectedValue name)
  | none, _ =>
    if Text.startsWith "--" w then .error (.unknownOption name) else g.readLetters (w.toList.drop 1)

def isOption (w : String) : Bool := Text.startsWith "-" w && w ≠ "-"

def read (g : Grammar α) : List String → Except UsageFault (CommandLine α)
  | [] => .ok ⟨[], []⟩
  | w :: r =>
    if w = "--" then .ok ⟨[], r⟩
    else if isOption w then do
      match ← g.readWord w, r with
      | (set, none), r => do
        let line ← read g r
        return { line with options := set ++ line.options }
      | (set, some (o, _)), v :: r => do
        let line ← read g r
        return { line with options := set ++ (o, v) :: line.options }
      | (_, some (_, name)), [] => throw (.missingValue name)
    else if g.mixed then do
      let line ← read g r
      return { line with arguments := w :: line.arguments }
    else .ok ⟨[], w :: r⟩

end Grammar

namespace CommandLine

variable {α : Type} [DecidableEq α]

def has (line : CommandLine α) (o : α) : Bool := line.options.any (·.1 = o)

/-- The value of an option; of several the last counts. -/
def value? (line : CommandLine α) (o : α) : Option String := line.options.reverse.lookup o

end CommandLine

end RouteAtlas
