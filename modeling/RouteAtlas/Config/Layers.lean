import RouteAtlas.Config.Basic
import RouteAtlas.Document.Load

/-!
Settings from four layers: what the caller gives, the environment, the project file, and defaults.
A layer masks those below it.
-/

namespace RouteAtlas

inductive ConfigFault where
  | notFound (path : String)
  | file (e : FileError)
  /-- The content of the file is not in its format. -/
  | unreadable (path message : String)
  | notMapping (path kind : String)
  | invalid (issues : List Issue)
  | notText (e : Text.Utf8Error)
  /-- A scalar that is well-formed and yet stands for nothing. -/
  | scalar (e : Yaml.Error)
  | limit (f : LimitFault)

namespace ConfigFault

def message (f : ConfigFault) (host : Host := {}) : String :=
  match f with
  | .notFound p => "Config file not found: " ++ p
  | .file e => e.message
  | .unreadable p m => "Invalid project config at " ++ p ++ ": " ++ m
  | .notMapping p k => "Project config at " ++ p ++ " must be a mapping (got " ++ k ++ ")"
  | .invalid issues => "Invalid configuration: " ++ host.issuesText issues
  | .notText e => e.message
  | .scalar e => e.message host
  | .limit f => f.message host

/-- Is this one of the ways in which reading the settings is said to fail? -/
def isDocumented : ConfigFault → Bool
  | .file _ | .notText _ | .scalar _ | .limit _ => false
  | _ => true

end ConfigFault

namespace Config

/-- The names of a project file, the first found being the one that counts. -/
def fileNames : List String := ["routedoc.json", "routedoc.yaml", "routedoc.yml"]

/-- The project file in the working directory. -/
def findFile (t : FileTree) : Option String :=
  fileNames.find? fun n => (t.read? (FilePath.ofString n)).isSome

/-- The data of a project file, which is YAML unless its name ends as for JSON. -/
def parseFile (host : Host) (shown : String) (p : FilePath) (text : String) :
    Except ConfigFault Value :=
  if Text.lower p.suffix = ".json" then
    match Json.parse text host with
    | .ok v => .ok v
    | .error (.limit f) => .error (.limit f)
    | .error e => .error (.unreadable shown (e.message text))
  else
    match Yaml.parse host text with
    | .ok v => .ok v
    | .error .malformed => .error (.unreadable shown host.yamlText)
    | .error (.limit f) => .error (.limit f)
    | .error e => .error (.scalar e)

/-- The entries of a project file; `shown` is its name in messages. An empty file has none. -/
def readFile (host : Host) (shown : String) (p : FilePath) (content : Bytes) :
    Except ConfigFault (List (Value × Value)) :=
  match textOf content with
  | .error e => .error (.notText e)
  | .ok text => do
    match ← parseFile host shown p text with
    | .null => return []
    | .map es => return es
    | v => throw (.notMapping shown v.kindName)

/-- The entries of the file that is named, or of the one found below `root`; without one, none. -/
def loadFile (t : FileTree) (root : String) (named : Option FilePath) (host : Host := {}) :
    Except ConfigFault (List (Value × Value)) :=
  match named with
  | some p =>
    match t.readNamed? p with
    | .error e => .error (.file e)
    | .ok (some content) => readFile host p.toString p content
    | .ok none => .error (.notFound p.toString)
  | none =>
    match findFile t with
    | some n =>
      let p := FilePath.ofString n
      readFile host ((FilePath.ofString root).child n).toString p ((t.read? p).getD [])
    | none => .ok []

/-- The variables of the environment that set something, and what they set. -/
def settingVariables : List (String × String) := [
  ("ROUTEDOC_TITLE", "title"), ("ROUTEDOC_VERSION", "version"), ("ROUTEDOC_HOST", "host"),
  ("ROUTEDOC_BASE_PATH", "base_path"), ("ROUTEDOC_FORMAT", "output_format"),
  ("ROUTEDOC_ROUTES", "routes"), ("ROUTEDOC_STRICT", "strict_schema_names")]

/-- Words that switch a setting on; all others switch it off. -/
def switchWords : List String := ["1", "true", "yes", "on"]

/-- The value of a variable for a setting. -/
def variableValue (setting raw : String) : Value :=
  if setting = "strict_schema_names" then .bool (switchWords.contains (Text.lower (Text.trim raw)))
  else .str raw

/-- The variables of a process by name. -/
abbrev Environment := List (String × String)

/-- What the environment sets; an empty variable sets nothing. -/
def environmentLayer (env : Environment) : List (String × Value) :=
  settingVariables.filterMap fun v =>
    match env.lookup v.1 with
    | some raw => if raw = "" then none else some (v.2, variableValue v.2 raw)
    | none => none

/-- What the caller sets; null sets nothing. -/
def overrideLayer (overrides : List (String × Value)) : List (String × Value) :=
  overrides.filter fun o => match o.2 with
    | .null => false
    | _ => true

/-- The entries with those of a layer above them, which come last and so are the ones that count. -/
def mask (below : List (Value × Value)) (layer : List (String × Value)) : List (Value × Value) :=
  below ++ layer.map fun e => (.str e.1, e.2)

/-- The settings that the layers give together. -/
def resolve (t : FileTree) (root : String) (env : Environment) (overrides : List (String × Value))
    (named : Option FilePath) (host : Host := {}) : Except ConfigFault Config := do
  let file ← loadFile t root named host
  match ofEntries (mask (mask file (environmentLayer env)) (overrideLayer overrides)) with
  | .ok c => return c
  | .bad issues => throw (.invalid issues)

end Config

end RouteAtlas
