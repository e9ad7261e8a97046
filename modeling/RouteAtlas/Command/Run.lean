import RouteAtlas.Command.Build
import RouteAtlas.Command.Inspect

/-! Running a command: its effects one after the other, and the exit code that it ends with. -/

namespace RouteAtlas

/-- What was given out, and the files as they are. -/
structure Transcript where
  stdout : String
  stderr : String
  files : FileTree
deriving DecidableEq, Repr

/-- Why an effect did not come about. -/
inductive EffectFault where
  | markup (f : MarkupFault)
  | file (e : FileError)
deriving DecidableEq, Repr

def EffectFault.message (host : Host) : EffectFault → String
  | .markup f => f.message host
  | .file e => e.message

namespace Transcript

def say (c : Console) (t : Transcript) (m : Message) : Except MarkupFault Transcript :=
  (c.messageText m).map fun s => { t with stderr := t.stderr ++ s }

/-- One effect; a file that cannot be written may leave new directories. -/
def perform (c : Console) (t : Transcript) : Effect → Transcript × Option EffectFault
  | .say m => match t.say c m with
    | .ok t => (t, none)
    | .error f => (t, some (.markup f))
  | .log e => ({ t with stderr := t.stderr ++ c.logText e }, none)
  | .data s => ({ t with stdout := t.stdout ++ s }, none)
  | .table table => match c.tableText table with
    | .ok s => ({ t with stdout := t.stdout ++ s }, none)
    | .error f => (t, some (.markup f))
  | .write p s =>
    let (files, e) := t.files.write p s.toUTF8.toList c.host
    ({ t with files := files }, e.map .file)

/-- The effects up to the first that does not come about. -/
def performAll (c : Console) (t : Transcript) : List Effect → Transcript × Option EffectFault
  | [] => (t, none)
  | e :: es =>
    match t.perform c e with
    | (t, none) => performAll c t es
    | (t, some f) => (t, some f)

end Transcript

/-- The end of a run. -/
structure Outcome where
  exit : Nat
  transcript : Transcript
  /-- Why the last message, which tells what went wrong, could not be shown. -/
  untold : Option MarkupFault
deriving DecidableEq, Repr

namespace Outcome

/-- The end after what nobody expected; not even this may be possible to show. -/
def unexpected (c : Console) (t : Transcript) (message : String) : Outcome :=
  match t.say c ⟨.error, "Unexpected error: " ++ message⟩ with
  | .ok t => ⟨ExitCode.failure.number, t, none⟩
  | .error f => ⟨ExitCode.failure.number, t, some f⟩

/-- The end after a fault. -/
def ofFault (c : Console) (t : Transcript) (f : CommandFault) : Outcome :=
  match f.exitCode? with
  | none => unexpected c t (f.message c.host)
  | some code => match t.say c ⟨.error, f.message c.host⟩ with
    | .ok t => ⟨code.number, t, none⟩
    | .error m => unexpected c t (m.message c.host)

end Outcome

/-- Carries out what a command does. -/
def Course.run (course : Course Unit) (c : Console) (files : FileTree) : Outcome :=
  match Transcript.performAll c ⟨"", "", files⟩ course.effects with
  | (t, some f) => Outcome.unexpected c t (f.message c.host)
  | (t, none) => match course.result with
    | .ok _ => ⟨0, t, none⟩
    | .error f => Outcome.ofFault c t f

def Shared.console (s : Shared) (term : Terminal) (host : Host := {}) : Console :=
  .make (if s.plain then some .plain else none) s.noColour s.quiet s.verbose term host

def Command.course (c : Command) (s : Surroundings) (config : Option FilePath) : Course Unit :=
  match c with
  | .build r => r.course s config
  | .inspect t => inspectCourse s config t

/-- The name of the program and the number of its version. -/
def versionText : String := "routedoc 0.1.0\n"

def helpText : String := String.join [
  "Usage: routedoc [OPTIONS] COMMAND [ARGS]...\n\n",
  "Compile route descriptions into Swagger documents.\n\n",
  "Options: --version, --plain, --no-color, --quiet, --verbose, --config PATH\n",
  "Commands:\n",
  "  build [TARGET]    Build a Swagger document from route actions.\n",
  "  inspect [TARGET]  List documented operations and report schema name collisions.\n"]

/-- Does what a command line asks for. -/
def Invocation.run (i : Invocation) (s : Surroundings) : Outcome :=
  match i with
  | .version => ⟨0, ⟨versionText, "", s.files⟩, none⟩
  | .help => ⟨0, ⟨helpText, "", s.files⟩, none⟩
  | .command shared c => (c.course s shared.config).run (shared.console s.terminal s.host) s.files

end RouteAtlas
