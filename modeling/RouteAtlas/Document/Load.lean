import RouteAtlas.Document.Decode
import RouteAtlas.FileTree
import RouteAtlas.Json.Reader
import RouteAtlas.Yaml.Data

/-! Documents from files. -/

namespace RouteAtlas

inductive LoadFault where
  | notFound (path : String)
  | file (e : FileError)
  /-- The name says JSON and the content is none. -/
  | notJson (message : String)
  /-- The content is not YAML, nor JSON if that was tried. -/
  | unreadable (json : Option String)
  /-- The content is not an object but of this kind; nothing has none. -/
  | notObject (kind : Option String)
  | invalid (path : String) (issues : List Issue)
  | notText (e : Text.Utf8Error)
  /-- A scalar that is well-formed and yet stands for nothing. -/
  | scalar (e : Yaml.Error)
  | limit (f : LimitFault)

namespace LoadFault

def message (f : LoadFault) (host : Host := {}) : String :=
  match f with
  | .notFound p => "Document not found: " ++ p
  | .file e => e.message
  | .notJson m => "Invalid JSON: " ++ m
  | .unreadable json =>
    "Failed to parse document as JSON or YAML" ++
      (json.map fun m => "\n  JSON error: " ++ m).getD "" ++
      "\n  YAML error: " ++ host.yamlText
  | .notObject k =>
    "Document must be a JSON/YAML object (got " ++ k.getD "empty document" ++ ")"
  | .invalid p issues => "Invalid document at " ++ p ++ ": " ++ host.issuesText issues
  | .notText e => e.message
  | .scalar e => e.message host
  | .limit f => f.message host

/-- Is this one of the ways in which loading a document is said to fail? -/
def isDocumented : LoadFault → Bool
  | .file _ | .notText _ | .scalar _ | .limit _ => false
  | _ => true

end LoadFault

/-- The data of YAML text; `json` is the message of an attempt to read it as JSON. -/
def yamlData (host : Host) (json : Option String) (text : String) : Except LoadFault Value :=
  match Yaml.parse host text with
  | .ok v => .ok v
  | .error .malformed => .error (.unreadable json)
  | .error (.limit f) => .error (.limit f)
  | .error e => .error (.scalar e)

/-- The data of text, as JSON if its format is not known to be YAML, and else as YAML. -/
def fileData (host : Host) (format : Option Format) (text : String) : Except LoadFault Value :=
  if format = some .yaml then yamlData host none text
  else match Json.parse text host with
    | .ok v => .ok v
    | .error (.limit f) => .error (.limit f)
    | .error e =>
      let m := e.message text
      if format = some .json then .error (.notJson m) else yamlData host (some m) text

def requireObject : Value → Except LoadFault Value
  | .map es => .ok (.map es)
  | .null => .error (.notObject none)
  | v => .error (.notObject (some v.kindName))

/-- The document that text of a format holds. -/
def Document.ofText (path : String) (format : Option Format) (text : String) (host : Host := {}) :
    Except LoadFault Document := do
  let v ← requireObject (← fileData host format text)
  match Document.ofData v with
  | .ok d => return d
  | .bad issues => throw (.invalid path issues)

/-- The document in a file; the ending of its name tells the format. -/
def FileTree.load (t : FileTree) (path : String) (host : Host := {}) :
    Except LoadFault Document :=
  let p := FilePath.ofString path
  match t.readNamed? p with
  | .error e => .error (.file e)
  | .ok none => .error (.notFound path)
  | .ok (some content) =>
    match textOf content with
    | .error e => .error (.notText e)
    | .ok text => Document.ofText path p.format? text host

end RouteAtlas
