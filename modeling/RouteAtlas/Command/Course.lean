import RouteAtlas.Config.Layers
import RouteAtlas.Console.Basic
import RouteAtlas.Document.Load
import RouteAtlas.Module.Load
import RouteAtlas.Replacing

/-!
What a command does to the outside, as a list of effects that says in order what is shown and what
is written. A command first finds out all it needs, and only then has effects that stay.
-/

namespace RouteAtlas

/-- Why a command gives up. -/
inductive CommandFault where
  | config (f : ConfigFault)
  | noTarget
  | routes (f : RouteFault)
  | load (f : LoadFault)
  | build (f : Fault)
  /-- The document to extend holds bytes that cannot be written as text. -/
  | notText (e : Text.Utf8Error)
  /-- The document holds what is too large to be written. -/
  | limit (f : LimitFault)

namespace CommandFault

def message (fault : CommandFault) (host : Host) : String :=
  match fault with
  | .config f => f.message host
  | .noTarget =>
    "No route target given. Pass module:attribute or set 'routes' in routedoc.json"
  | .routes f => f.message host
  | .load f => f.message host
  | .build f => f.message host
  | .notText e => e.message
  | .limit f => f.message host

/-- The exit code of those faults that are reported as such; all others are unexpected. -/
def exitCode? : CommandFault → Option ExitCode
  | .config f => if f.isDocumented then some .failure else none
  | .noTarget => some .usage
  | .routes f => f.exitCode?
  | .load f => if f.isDocumented then some .documentLoad else none
  | .build (.unsupportedMethod _) => some .unsupportedMethod
  | .build (.nameCollision _) => some .schemaCollision
  | .build _ | .notText _ | .limit _ => none

end CommandFault

inductive Effect where
  | say (m : Message)
  | log (e : LogEntry)
  /-- Puts text on standard output. -/
  | data (t : String)
  | table (t : Table)
  | write (p : FilePath) (t : String)
deriving DecidableEq, Repr

/-- Effects, and what comes out in the end. -/
structure Course (α : Type) where
  effects : List Effect
  result : Except CommandFault α

namespace Course

variable {α β : Type}

protected def pure (a : α) : Course α := ⟨[], .ok a⟩

/-- Goes on with the result; after a fault nothing else happens. -/
protected def bind (c : Course α) (f : α → Course β) : Course β :=
  match c.result with
  | .error e => ⟨c.effects, .error e⟩
  | .ok a => ⟨c.effects ++ (f a).effects, (f a).result⟩

instance : Monad Course where
  pure := Course.pure
  bind := Course.bind

def fail (f : CommandFault) : Course α := ⟨[], .error f⟩

def perform (es : List Effect) : Course Unit := ⟨es, .ok ()⟩

/-- A step without effects whose faults count as faults of the command. -/
def ofExcept {ε : Type} (fault : ε → CommandFault) : Except ε α → Course α
  | .ok a => ⟨[], .ok a⟩
  | .error e => ⟨[], .error (fault e)⟩

def say (kind : MessageKind) (text : String) : Course Unit := perform [.say ⟨kind, text⟩]

end Course

/-- What a command finds around it. -/
structure Surroundings where
  modules : Modules
  classes : Registry
  files : FileTree
  /-- The working directory, as it is shown. -/
  root : String
  terminal : Terminal
  host : Host := {}

/-- The settings and the route actions of a command, whose target may be set by the settings. -/
def Surroundings.resolve (s : Surroundings) (config : Option FilePath) (target : Option String)
    (overrides : List (String × Value)) : Course (Config × List Action) := do
  let config ← .ofExcept .config
    (Config.resolve s.files s.root s.terminal.environment overrides config s.host)
  let target := (target.filter (· ≠ "")).or (config.routes.filter (· ≠ ""))
  match target with
  | none => .fail .noTarget
  | some t =>
    .say .debug ("Loading routes from " ++ t)
    let actions ← .ofExcept .routes (loadRoutes s.classes s.modules t)
    .say .debug ("Loaded " ++ toString actions.length ++ " route action(s)")
    return (config, actions)

end RouteAtlas
