import RouteAtlas.FileTree
import RouteAtlas.Host

/-!
Replacing a file in one step: the new content is written to a temporary file beside it, which then
takes its place. When a step fails the temporary file is removed.
-/

namespace RouteAtlas

namespace Replacing

/-- The steps that may fail, in their order; the last is taken only to clean up. -/
inductive Step where
  | makeDirectory
  | createTemporary
  | write
  | flush
  | sync
  | close
  | replace
  | closeAtCleanup
deriving DecidableEq, Repr

/-- What is at the target and at the temporary name. -/
structure Slot where
  target : Option Bytes
  temporary : Option Bytes
deriving DecidableEq, Repr

/-- The steps in their order, when none fails. -/
def steps : List Step :=
  [.makeDirectory, .createTemporary, .write, .flush, .sync, .close, .replace]

/-- The steps from the first write to the close, during which the temporary file is open. -/
def openSteps : List Step := [.write, .flush, .sync, .close]

/-- What a step does to the files; the data that is written is held back until it is flushed. -/
def effect (data : Bytes) (s : Slot) : Step → Slot
  | .createTemporary => { s with temporary := some [] }
  | .flush => { s with temporary := some data }
  | .replace => ⟨s.temporary, none⟩
  | _ => s

/-- Removes the temporary file, which must be closed first if it is still open. -/
def cleanUp (ok : Step → Bool) (failed : Step) (s : Slot) : Except Step Unit × Slot :=
  if openSteps.contains failed && !ok .closeAtCleanup then (.error .closeAtCleanup, s)
  else (.error failed, { s with temporary := none })

/-- Takes the steps one after the other up to the first that fails. -/
def take (ok : Step → Bool) (data : Bytes) : List Step → Slot → Except Step Unit × Slot
  | [], s => (.ok (), s)
  | x :: r, s => if ok x then take ok data r (effect data s x) else cleanUp ok x s

/-- Replaces the target, where `ok` tells which steps succeed. -/
def run (ok : Step → Bool) (data : Bytes) (s : Slot) : Except Step Unit × Slot :=
  take ok data steps s

end Replacing

namespace FileTree

/-- Why the entry at a place cannot be replaced by a file. -/
def replaceFault? (t : FileTree) (name : String) (place : List String) : Option FileFault :=
  if name = "" || name = ".." then some .busy
  else match t.at? place with
    | some .directory => some .isDirectory
    | _ => none

/-- How many bytes the name of a temporary file has beyond those of the file it stands for. -/
def temporaryNameBytes : Nat := 14

/-- Why no temporary file can be made beside a file of this name. -/
def temporaryFault? (name : String) : Option FileFault :=
  if name.toList.contains '\x00' then some .nullCharacter
  else if maxNameBytes < name.utf8ByteSize + temporaryNameBytes then some .nameTooLong else none

/-- The steps that succeed, where one fault keeps the temporary file from being made and another, or
the same, keeps it from taking the place of the target. -/
def succeeds (temporary fault : Option FileFault) (s : Replacing.Step) : Bool :=
  (s ≠ .createTemporary || temporary.isNone) && (s ≠ .replace || fault.isNone)

/-- Writes a file, with the directories it needs, in place of the one that is there. An error names
the temporary file that cannot be made, or both files if it cannot take the place of the other. -/
def write (t : FileTree) (p : FilePath) (data : Bytes) (host : Host := {}) :
    FileTree × Option FileError :=
  let (t, error) := makeDirectories (p.parts.length + 1) t p.parent
  match error with
  | some e => (t, some e)
  | none =>
    let temporary := temporaryFault? p.name
    match t.place p with
    | .error f => (t, some { fault := temporary.getD f, path := host.temporary p })
    | .ok place =>
      let fault := temporary.or (t.replaceFault? p.name place)
      match Replacing.run (succeeds temporary fault) data ⟨none, none⟩ with
      | (.ok _, ⟨some content, _⟩) => (t.put place (.file content), none)
      | _ => (t, fault.map fun f =>
        if temporary.isSome then { fault := f, path := host.temporary p }
        else { fault := f, path := p, source := some (host.temporary p) })

end FileTree

end RouteAtlas
