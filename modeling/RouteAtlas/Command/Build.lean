import RouteAtlas.Command.Course
import RouteAtlas.Command.Invocation
import RouteAtlas.Document.Dump
import RouteAtlas.Document.Journal

/-! Building a document from route actions, to standard output or to a file. -/

namespace RouteAtlas

namespace BuildRequest

/-- The settings that the request makes. -/
def overrides (r : BuildRequest) : List (String × Value) :=
  let text (s : Option String) : Value := (s.map Value.str).getD .null
  [("title", text r.title), ("version", text r.version), ("host", text r.host),
    ("base_path", text r.basePath), ("output_format", text (r.format.map Format.word)),
    ("strict_schema_names", (r.strict.map Value.bool).getD .null)]

/-- Does the request name the document, by a title or a version that is not empty? -/
def namesDocument (r : BuildRequest) : Bool :=
  (r.title.getD "" ≠ "") || (r.version.getD "" ≠ "")

/-- The document to start from: an empty one, or the one to extend with what the settings say of its
server and, if the request names the document, with their info. -/
def seed (r : BuildRequest) (files : FileTree) (host : Host) (c : Config) :
    Except LoadFault Document :=
  match r.mergeInto with
  | none => .ok c.document
  | some p => do
    let d := c.applyServer (← files.load p.toString host)
    return if r.namesDocument then { d with info := c.info } else d

/-- The format asked for, or else the one that the name of the output tells, or else the usual one.
-/
def outputFormat (r : BuildRequest) (c : Config) : Format :=
  if r.format.isSome then c.format
  else (r.output.bind FilePath.format?).getD c.format

/-- What is said before a file is written. -/
def announcement (actions : Nat) (format : Format) : Effect :=
  .say ⟨.info, "Documented " ++ toString actions ++ " route action(s) as " ++ format.word⟩

/-- What is said after a file has been written. -/
def report (d : Document) (p : FilePath) : Message :=
  ⟨.success, "Wrote " ++ toString d.paths.length ++ " path(s) and " ++
    toString d.definitions.length ++ " definition(s) to " ++ p.toString⟩

/-- How the document is given out. -/
def deliver (r : BuildRequest) (d : Document) (actions : Nat) (format : Format) : List Effect :=
  match r.output with
  | none => [.data (dataLine (d.dump format))]
  | some p => [
    announcement actions format,
    .write p (d.dump format),
    .say (report d p)]

/-- The document that the request asks for, with the settings and the number of route actions. -/
def document (r : BuildRequest) (s : Surroundings) (config : Option FilePath) :
    Course (Document × Config × Nat) := do
  let (c, actions) ← s.resolve config r.target r.overrides
  let start ← .ofExcept .load (r.seed s.files s.host c)
  .perform ((start.extendLog s.classes c.strict actions).map .log)
  let d ← .ofExcept .build (start.extend s.classes .standard c.strict actions).result
  return (d, c, actions.length)

/-- Why a document cannot be written as text. -/
def dumpFault? (host : Host) (d : Document) : Option CommandFault :=
  (d.encode.undecodable?.map .notText).or ((host.writeFault? d.encode).map .limit)

def course (r : BuildRequest) (s : Surroundings) (config : Option FilePath) : Course Unit := do
  let (d, c, actions) ← r.document s config
  let format := r.outputFormat c
  match dumpFault? s.host d with
  | none => .perform (r.deliver d actions format)
  | some f => do
    .perform (r.output.toList.map fun _ => announcement actions format)
    .fail f

end BuildRequest

end RouteAtlas
