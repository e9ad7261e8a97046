import RouteAtlas.Text.Identifier
import RouteAtlas.Type.Basic
import RouteAtlas.Value.Text
import RouteAtlas.Value.Whole

/-!
Declared classes and the table that type expressions refer to. A class comes before those it
inherits from, and these keep the order in which they are named wherever they are named.
-/

namespace RouteAtlas

/-- What the values of the members of an enumeration are. -/
inductive MemberBase where
  | plain
  | whole
  /-- Texts, and nothing else is taken. -/
  | text
  /-- Texts, and all else is shown as one. -/
  | shown
  | flag
  | wholeFlag
deriving DecidableEq, Repr, Inhabited

inductive ClassKind where
  /-- A class of named fields; `generic` ones take an argument. -/
  | record (generic : Bool)
  /-- A class of named fields whose annotations are looked up one by one. -/
  | validated
  /-- A mapping with fixed keys. -/
  | dictionary
  /-- A tuple with named and typed places. -/
  | namedTuple
  /-- A tuple with named places that have no types. -/
  | untypedTuple
  | enumeration (base : MemberBase) (members : List (String × Value))
  /-- A class without described structure, by the name of the class that it extends. -/
  | other (base : String)
deriving Repr, Inhabited

structure ClassDecl where
  key : String
  kind : ClassKind
  name : String
  module : String
  qualifier : String
  doc : Option String
  fields : List (String × Ty)
  bases : List String
deriving Repr, Inhabited

/-- How a union finds out which of its members it has already. -/
inductive UnionRule where
  /-- The members are the keys of a table, so that each must be able to serve as a key. -/
  | byKeys
  /-- Members that cannot serve as keys are compared with each other. -/
  | byComparing
deriving DecidableEq, Repr, Inhabited

/-- The declared classes in order of declaration, and the rule by which unions of types are made. -/
structure Registry where
  decls : List ClassDecl
  unions : UnionRule := .byKeys
deriving Repr, Inhabited

instance : Coe (List ClassDecl) Registry where
  coe decls := { decls }

instance : EmptyCollection Registry where
  emptyCollection := { decls := [] }

namespace ClassDecl

/-- The full name, which identifies the class. -/
def identity (d : ClassDecl) : String := d.module ++ "." ++ d.qualifier

/-- Is the class documented by a schema of its own? -/
def isModel (d : ClassDecl) : Bool :=
  match d.kind with
  | .record _ | .validated | .dictionary | .namedTuple | .untypedTuple => true
  | _ => false

/-- Is the class a mapping with fixed keys? -/
def isDictionary (d : ClassDecl) : Bool :=
  match d.kind with
  | .dictionary => true
  | _ => false

def isRecord (d : ClassDecl) : Bool :=
  match d.kind with
  | .record _ => true
  | _ => false

/-- Is the class declared as a tuple, and not as one that extends such a class? -/
def isPlaces (d : ClassDecl) : Bool :=
  match d.kind with
  | .namedTuple | .untypedTuple => d.bases.isEmpty
  | _ => false

end ClassDecl

namespace MemberBase

/-- Exactly one binary digit is set. -/
def isSingleBit (n : Int) : Bool := 0 < n && n.toNat &&& (n.toNat - 1) = 0

def isFlag (b : MemberBase) : Bool := b = .flag || b = .wholeFlag

/-- The value a member has in an enumeration over the base. A flag must have binary digits. -/
def memberValue (b : MemberBase) (v : Value) : Except Fault Value :=
  match b with
  | .plain => .ok v
  | .whole | .wholeFlag => v.toInteger.map Value.int
  | .text => match v with
    | .str _ => .ok v
    | v => .error (.type (.notText v.literal))
  | .shown => .ok (.str v.text)
  | .flag => match v with
    | .float x =>
      if x == 0.0 then .ok v else .error (.unsupportedOperands "&=" "float" "float")
    | .int _ | .bool _ => .ok v
    | v => .error (.unsupportedOperands "-" v.kindName "int")

def convert (b : MemberBase) (v : Value) : Value := (b.memberValue v).toOption.getD v

/-- Is it a name of the form `__x__`? -/
def isDoublyFramed (name : List Char) : Bool :=
  4 < name.length && name.take 2 = ['_', '_'] && name[2]? ≠ some '_' &&
    name.reverse.take 2 = ['_', '_'] && name.reverse[2]? ≠ some '_'

/-- Is it a name of the form `_x_`? -/
def isFramed (name : List Char) : Bool :=
  2 < name.length && name.head? = some '_' && name[1]? ≠ some '_' &&
    name.getLast? = some '_' && name.reverse[1]? ≠ some '_'

/-- Is it a name that belongs to the class of this name alone? -/
def isPrivate (className : String) (name : List Char) : Bool :=
  let mark := ('_' :: className.toList) ++ ['_', '_']
  mark.length < name.length && mark.isPrefixOf name && name.reverse.take 2 ≠ ['_', '_']

/-- The names of the form `_x_` that an enumeration takes for its own settings. -/
def settings : List String := [
  "_order_", "_generate_next_value_", "_numeric_repr_", "_missing_", "_ignore_", "_iter_member_",
  "_iter_member_by_value_", "_iter_member_by_def_"]

/-- Does an entry of this name make a member? -/
def isMemberName (className name : String) : Bool :=
  let cs := name.toList
  !(isPrivate className cs || isFramed cs || isDoublyFramed cs)

/-- The first entry whose name cannot be taken behind those that have been seen. -/
def nameFault? (className : String) : List (String × Value) → List (String × Value) → Option Fault
  | _, [] => none
  | seen, (n, v) :: r =>
    let literal := Text.quoted n
    if !isPrivate className n.toList && isFramed n.toList && !settings.contains n then
      some (.type (.reservedMemberName literal))
    else match if isMemberName className n then seen.lookup n else none with
      | some w => some (.type (.repeatedMember literal w.literal))
      | none => nameFault? className ((n, v) :: seen) r

/-- What keeps an enumeration from having these members. -/
def fault? (b : MemberBase) (className : String) (entries : List (String × Value)) :
    Option Fault :=
  let members := entries.filter fun e => isMemberName className e.1
  (nameFault? className [] entries).orElse fun _ =>
  (members.findSome? fun e =>
    if e.1 = "mro" || e.1 = "" then some (.type (.badMemberName (Text.quoted e.1)))
    else none).orElse fun _ =>
  members.findSome? fun e => match b.memberValue e.2 with
    | .ok _ => none
    | .error f => some f

/-- The values of the members that count: no repeats, and of flags no combinations. -/
def listed (b : MemberBase) (className : String) (entries : List (String × Value)) : List Value :=
  let members := entries.filter fun e => isMemberName className e.1
  let values := Value.distinct (members.map fun m => b.convert m.2)
  if b.isFlag then
    values.filter fun v => match v.whole? with
      | some n => isSingleBit n
      | none => false
  else values

end MemberBase

/-- The first name that cannot be one of a place in a tuple. -/
def placeNameFault? (tupleName : String) (names : List String) : Option Fault :=
  let bad (f : PlaceNameFault) (n : String) : Option Fault :=
    some (.type (.badPlaceName f (Text.quoted n)))
  let rec among : List String → List String → Option Fault
    | _, [] => none
    | seen, n :: r =>
      if Text.startsWith "_" n then bad .underscore n
      else if seen.contains n then bad .repeated n
      else among (n :: seen) r
  ((tupleName :: names).findSome? fun n =>
    if !Text.isName n.toList then bad .noName n
    else if Text.reservedWords.contains n then bad .reserved n
    else none).orElse fun _ => among [] names

/-- A class that another inherits from: one that is declared, by its key, or one that is always
there. -/
inductive Forebear where
  | declared (key : String)
  | known (name : String)
deriving DecidableEq, Repr, Inhabited

/-- The first class that comes first in a row and is not among the later ones of any. -/
def nextForebear? (rows : List (List Forebear)) : Option Forebear :=
  (rows.filterMap List.head?).find? fun k => rows.all fun r => !(r.drop 1).contains k

/-- The classes of all rows in one order that agrees with each of them; where there is none, those
that are first in what is left of the rows. -/
def mergeRows : Nat → List (List Forebear) → Except (List Forebear) (List Forebear)
  | 0, _ => .ok []
  | fuel + 1, rows =>
    match rows.filter (!·.isEmpty) with
    | [] => .ok []
    | rows =>
      match nextForebear? rows with
      | none => .error (rows.filterMap List.head?).eraseDups
      | some k => do
        return k :: (← mergeRows fuel (rows.map fun r => if r.head? = some k then r.drop 1 else r))

/-- The classes that are always there and that a class inherits from directly. -/
def ClassDecl.knownBases (d : ClassDecl) : List Forebear :=
  match d.kind with
  | .record true => [.known "Generic"]
  | .validated => if d.bases.isEmpty then [.known "BaseModel"] else []
  | _ => if d.bases.isEmpty then [.known "object"] else []

namespace Registry

/-- The last class declared under a key. -/
def find? (classes : Registry) (key : String) : Option ClassDecl :=
  classes.decls.reverse.find? (·.key = key)

theorem mem_of_find? {classes : Registry} {key : String} {d : ClassDecl}
    (h : classes.find? key = some d) : d ∈ classes.decls :=
  List.mem_reverse.mp (List.mem_of_find?_eq_some h)

/-- The last class of a module that is reached by this plain name. -/
def named? (classes : Registry) (module name : String) : Option ClassDecl :=
  classes.decls.reverse.find? fun d =>
    d.module = module && d.name = name && !d.qualifier.toList.contains '.'

/-- A class and those it inherits from, the nearest first. -/
def lineage (classes : Registry) : Nat → Forebear → Except (List Forebear) (List Forebear)
  | 0, _ => .ok []
  | _ + 1, .known name =>
    .ok (if name = "object" then [.known name] else [.known name, .known "object"])
  | fuel + 1, .declared key =>
    match find? classes key with
    | none => .ok []
    | some d => do
      let bases := d.bases.map Forebear.declared ++ d.knownBases
      let rows ← bases.mapM (lineage classes fuel)
      return .declared d.key :: (← mergeRows (classes.decls.length + 4) (rows ++ [bases]))

/-- The mappings that a mapping takes its keys over from, each behind those that it takes its own
over from. -/
def sources (classes : Registry) : Nat → String → List ClassDecl
  | 0, _ => []
  | fuel + 1, key =>
    match find? classes key with
    | none => []
    | some d => d.bases.flatMap (sources classes fuel) ++ [d]

/-- The class and those it inherits from, the most distant first. -/
def ancestors (classes : Registry) (d : ClassDecl) : List ClassDecl :=
  if d.isDictionary then sources classes (classes.decls.length + 1) d.key
  else
    let forebears := (lineage classes (classes.decls.length + 2) (.declared d.key)).toOption.getD []
    forebears.reverse.filterMap fun
      | .declared key => classes.find? key
      | .known _ => none

/-- What keeps a class from being declared. -/
def fault? (classes : Registry) (d : ClassDecl) : Option Fault :=
  match d.kind with
  | .dictionary => none
  | .enumeration b entries => b.fault? d.name entries
  | .namedTuple | .untypedTuple => placeNameFault? d.name (d.fields.map (·.1))
  | _ =>
    let nameOf (key : String) : String := ((find? classes key).map ClassDecl.name).getD key
    match d.bases.find? fun b => 1 < d.bases.count b with
    | some b => some (.type (.repeatedBase (nameOf b)))
    | none =>
      match lineage classes (classes.decls.length + 2) (.declared d.key) with
      | .ok _ => none
      | .error forebears => some (.type (.unorderedBases (forebears.map fun
        | .declared key => nameOf key
        | .known name => name)))

end Registry

end RouteAtlas
