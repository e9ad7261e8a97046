import RouteAtlas.FilePath
import RouteAtlas.Text.Lines
import RouteAtlas.Text.Quoted
import RouteAtlas.Text.Utf8

/-! Files and directories, seen from a working directory. -/

namespace RouteAtlas

abbrev Bytes := List UInt8

inductive FileEntry where
  | directory
  | file (content : Bytes)
deriving DecidableEq, Repr, Inhabited

/-- Why a place in the tree cannot be used as asked. -/
inductive FileFault where
  | missing
  | notDirectory
  | isDirectory
  | alreadyExists
  /-- The place is the working directory itself or one above it. -/
  | busy
  | nameTooLong
  /-- No name has this character, which is the end of every name. -/
  | nullCharacter
deriving DecidableEq, Repr

namespace FileFault

/-- The number of the fault, if the system has one for it, and its description. -/
def description : FileFault → Option Nat × String
  | .missing => (some 2, "No such file or directory")
  | .busy => (some 16, "Device or resource busy")
  | .alreadyExists => (some 17, "File exists")
  | .notDirectory => (some 20, "Not a directory")
  | .isDirectory => (some 21, "Is a directory")
  | .nameTooLong => (some 36, "File name too long")
  | .nullCharacter => (none, "embedded null byte")

end FileFault

/-- A fault and the path at which it came up. -/
structure FileError where
  fault : FileFault
  path : FilePath
  /-- What was to be put there. -/
  source : Option FilePath := none
deriving DecidableEq, Repr

def FileError.message (e : FileError) : String :=
  match e.fault.description with
  | (some number, text) =>
    let source := (e.source.map fun s => Text.quoted s.toString ++ " -> ").getD ""
    "[Errno " ++ toString number ++ "] " ++ text ++ ": " ++ source ++ Text.quoted e.path.toString
  | (none, text) => text

/-- A name has at most so many bytes. -/
def maxNameBytes : Nat := 255

/-- A path has fewer bytes than this. -/
def maxPathBytes : Nat := 4096

/-- What is wrong with a path whatever there is. -/
def FilePath.fault? (p : FilePath) : Option FileFault :=
  let s := p.toString
  if s.toList.contains '\x00' then some .nullCharacter
  else if maxPathBytes ≤ s.utf8ByteSize then some .nameTooLong else none

/-- Where a path starts: in the working directory, or at the root, which has a slash for a name. -/
def FilePath.start (p : FilePath) : List String := if p.isAbsolute then ["/"] else []

/-- Entries by the names that lead to them. -/
structure FileTree where
  entries : List (List String × FileEntry)
deriving DecidableEq, Repr, Inhabited

namespace FileTree

def empty : FileTree := ⟨[]⟩

/-- The root, the working directory, and those above it, for each of which two dots stand. These are
always there. -/
def isBase (place : List String) : Bool := place = ["/"] || place.all (· = "..")

/-- The entry at a place that is reached by names only. -/
def at? (t : FileTree) (place : List String) : Option FileEntry :=
  if isBase place then some .directory else t.entries.lookup place

/-- The directory above a place; above the root there is only the root. -/
def above (place : List String) : List String :=
  if place = ["/"] then place
  else if place.all (· = "..") then ".." :: place
  else place.dropLast

/-- The place that a name leads to from a directory. -/
def descend (place : List String) (name : String) : List String :=
  if name = ".." then above place else place ++ [name]

def put (t : FileTree) (place : List String) (e : FileEntry) : FileTree :=
  if (t.entries.lookup place).isSome then
    ⟨t.entries.map fun x => if x.1 = place then (place, e) else x⟩
  else ⟨t.entries ++ [(place, e)]⟩

/-- The place that names lead to from a directory, through directories that are there. -/
def follow (t : FileTree) (place : List String) : List String → Except FileFault (List String)
  | [] => .ok place
  | name :: r =>
    match t.at? place with
    | none => .error .missing
    | some (.file _) => .error .notDirectory
    | some .directory =>
      if maxNameBytes < name.utf8ByteSize then .error .nameTooLong
      else follow t (descend place name) r

/-- The place that a path leads to. -/
def place (t : FileTree) (p : FilePath) : Except FileFault (List String) :=
  match p.fault? with
  | some f => .error f
  | none => t.follow p.start p.parts

/-- The entry a path leads to. -/
def find (t : FileTree) (p : FilePath) : Except FileFault FileEntry := do
  match t.at? (← t.place p) with
  | some e => return e
  | none => throw .missing

/-- The content of the file that a path leads to. -/
def read? (t : FileTree) (p : FilePath) : Option Bytes :=
  match t.find p with
  | .ok (.file content) => some content
  | _ => none

/-- The content of the file that a path leads to, if there is one; a name that is too long is an
error and not a file that is missing. -/
def readNamed? (t : FileTree) (p : FilePath) : Except FileError (Option Bytes) :=
  match t.find p with
  | .error .nameTooLong => .error { fault := .nameTooLong, path := p }
  | _ => .ok (t.read? p)

def isDirectory (t : FileTree) (p : FilePath) : Bool :=
  match t.find p with
  | .ok .directory => true
  | _ => false

/-- Adds a directory in one that is there. -/
def makeDirectory (t : FileTree) (p : FilePath) : Except FileFault FileTree := do
  let place ← t.place p
  match t.at? place with
  | some _ => throw .alreadyExists
  | none => return t.put place .directory

/-- Adds a directory, unless it is there, with all above it; `n` bounds how far up this goes. -/
def makeDirectories : Nat → FileTree → FilePath → FileTree × Option FileError
  | 0, t, p => (t, some { fault := .missing, path := p })
  | n + 1, t, p =>
    match t.makeDirectory p with
    | .ok t => (t, none)
    | .error .missing =>
      let (t, above) := makeDirectories n t p.parent
      match above with
      | some e => (t, some e)
      | none =>
        match t.makeDirectory p with
        | .ok t => (t, none)
        | .error f => (t, if t.isDirectory p then none else some { fault := f, path := p })
    | .error f => (t, if t.isDirectory p then none else some { fault := f, path := p })

/-- Adds a file where names lead to, with the directories on the way. -/
def putAlong (content : Bytes) (t : FileTree) (place : List String) : List String → FileTree
  | [] => t.put place (.file content)
  | name :: r =>
    putAlong content (if (t.at? place).isSome then t else t.put place .directory)
      (descend place name) r

/-- Adds a file with the directories that its path needs. -/
def withFile (t : FileTree) (p : FilePath) (content : Bytes) : FileTree :=
  putAlong content t p.start p.parts

def withDirectory (t : FileTree) (p : FilePath) : FileTree :=
  (makeDirectories (p.parts.length + 1) t p).1

end FileTree

/-- The text that bytes hold, every line break a line feed. -/
def textOf (content : Bytes) : Except Text.Utf8Error String :=
  (Text.decodeUtf8 content).map Text.unifyBreaks

end RouteAtlas
