import RouteAtlas.Command.Line
import RouteAtlas.FilePath

/-! What a command line asks the program to do. -/

namespace RouteAtlas

/-- Options of all commands, which stand before the name of one. -/
inductive SharedOption where
  | version
  | help
  | plain
  | noColour
  | quiet
  | verbose
  | config
deriving DecidableEq, Repr

inductive BuildOption where
  | help
  | output
  | format
  | mergeInto
  | title
  | version
  | host
  | basePath
  | strict
  | lenient
deriving DecidableEq, Repr

def SharedOption.grammar : Grammar SharedOption := ⟨[
  ⟨.version, ["--version"], none, false⟩, ⟨.help, ["--help"], none, false⟩,
  ⟨.plain, ["--plain"], none, false⟩, ⟨.noColour, ["--no-color"], none, false⟩,
  ⟨.quiet, ["--quiet"], some 'q', false⟩, ⟨.verbose, ["--verbose"], some 'v', false⟩,
  ⟨.config, ["--config"], some 'c', true⟩], false⟩

def BuildOption.grammar : Grammar BuildOption := ⟨[
  ⟨.help, ["--help"], none, false⟩, ⟨.output, ["--output"], some 'o', true⟩,
  ⟨.format, ["--format"], some 'f', true⟩, ⟨.mergeInto, ["--merge-into"], none, true⟩,
  ⟨.title, ["--title"], none, true⟩, ⟨.version, ["--doc-version"], none, true⟩,
  ⟨.host, ["--host"], none, true⟩, ⟨.basePath, ["--base-path"], none, true⟩,
  ⟨.strict, ["--strict"], none, false⟩, ⟨.lenient, ["--no-strict"], none, false⟩], true⟩

/-- The command that only shows what there is has no options but the one for help. -/
def inspectGrammar : Grammar Unit := ⟨[⟨(), ["--help"], none, false⟩], true⟩

/-- How the program is to behave, whatever the command. -/
structure Shared where
  plain : Bool
  noColour : Bool
  quiet : Bool
  verbose : Bool
  config : Option FilePath
deriving DecidableEq, Repr

structure BuildRequest where
  /-- The route actions to document, as `module:attribute`. -/
  target : Option String
  output : Option FilePath
  format : Option Format
  /-- The document to extend. -/
  mergeInto : Option FilePath
  title : Option String
  version : Option String
  host : Option String
  basePath : Option String
  strict : Option Bool
deriving DecidableEq, Repr

inductive Command where
  | build (r : BuildRequest)
  | inspect (target : Option String)
deriving DecidableEq, Repr

inductive Invocation where
  | version
  | help
  | command (s : Shared) (c : Command)
deriving DecidableEq, Repr

namespace Invocation

def sharedOf (line : CommandLine SharedOption) : Shared where
  plain := line.has .plain
  noColour := line.has .noColour
  quiet := line.has .quiet
  verbose := line.has .verbose
  config := (line.value? .config).map FilePath.ofString

/-- The version or the help, whichever is asked for first; both stop all else. -/
def shortcut? (line : CommandLine SharedOption) : Option Invocation :=
  line.options.findSome? fun o => match o.1 with
    | .version => some .version
    | .help => some .help
    | _ => none

/-- The one argument that a command may have. -/
def target : List String → Except UsageFault (Option String)
  | [] => .ok none
  | [t] => .ok (some t)
  | _ :: w :: _ => .error (.extraArgument w)

def chosenFormat (line : CommandLine BuildOption) : Except UsageFault (Option Format) :=
  match line.value? .format with
  | none => .ok none
  | some w => match Format.ofWord? w with
    | some f => .ok (some f)
    | none => .error (.badChoice "--format" w)

/-- Strict or lenient, whichever is asked for last. -/
def chosenStrictness (line : CommandLine BuildOption) : Option Bool :=
  line.options.reverse.findSome? fun o => match o.1 with
    | .strict => some true
    | .lenient => some false
    | _ => none

/-- A request to build, or nothing if help is asked for. -/
def readBuild (words : List String) : Except UsageFault (Option Command) := do
  let line ← BuildOption.grammar.read words
  if line.has .help then return none
  let format ← chosenFormat line
  return some (.build {
    target := ← target line.arguments
    output := (line.value? .output).map FilePath.ofString
    format := format
    mergeInto := (line.value? .mergeInto).map FilePath.ofString
    title := line.value? .title
    version := line.value? .version
    host := line.value? .host
    basePath := line.value? .basePath
    strict := chosenStrictness line })

def readInspect (words : List String) : Except UsageFault (Option Command) := do
  let line ← inspectGrammar.read words
  if line.has () then return none
  return some (.inspect (← target line.arguments))

/-- A word that is no command may yet ask for the version or the help as an option. -/
def readStray (name : String) (words : List String) : Except UsageFault Invocation := do
  let line ← SharedOption.grammar.read (name :: words)
  match shortcut? line with
  | some i => return i
  | none => throw (.unknownCommand name)

def read (words : List String) : Except UsageFault Invocation := do
  let line ← SharedOption.grammar.read words
  match shortcut? line, line.arguments with
  | some i, _ => return i
  | none, [] => throw .noCommand
  | none, "build" :: rest => return (← readBuild rest).elim .help (.command (sharedOf line))
  | none, "inspect" :: rest => return (← readInspect rest).elim .help (.command (sharedOf line))
  | none, name :: rest => readStray name rest

end Invocation

end RouteAtlas
