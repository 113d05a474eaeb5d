import TerminalAgent.Bytes
import TerminalAgent.SortedMap

/-!
# A directory and its files

A `Volume` is one directory: its names, and the contents that names and open handles refer to. A
file keeps its contents when it is renamed, and a handle keeps them when the name is gone. Every
operation is one step that happens as a whole or fails and changes nothing.
-/

namespace TerminalAgent

/-- Why a file operation fails. -/
inductive FileFault where
  | notFound
  | alreadyExists
  | notADirectory
  | isADirectory
  | notEmpty
  | invalidData
  /-- A failure outside the model of a single directory. -/
  | other (reason : String)
  deriving Repr, DecidableEq

namespace FileFault

def message : FileFault → String
  | notFound => "No such file or directory (os error 2)"
  | alreadyExists => "File exists (os error 17)"
  | notADirectory => "Not a directory (os error 20)"
  | isADirectory => "Is a directory (os error 21)"
  | notEmpty => "Directory not empty (os error 39)"
  | invalidData => "stream did not contain valid UTF-8"
  | other reason => reason

end FileFault

/-- What a name stands for. -/
inductive Node where
  /-- A directory, which stays empty. -/
  | directory
  /-- The file whose contents have that number. -/
  | file (id : Nat)
  deriving Repr, DecidableEq

structure Volume where
  /-- Whether the directory itself is there. -/
  present : Bool
  nodes : SortedMap Node
  /-- The contents of files, by number. -/
  contents : List Bytes
  deriving Repr, DecidableEq

namespace Volume

/-- A directory without entries. -/
def empty : Volume where
  present := true
  nodes := ∅
  contents := []

/-- The size that a directory is listed with. -/
def directorySize : Nat := 4096

/-- Follows the parts of a relative path; `within` is the directory entered so far, if it is not the
    volume itself. A path that leaves the volume leads nowhere. -/
def walk (volume : Volume) : (within : Option String) → List String → Option (Option String)
  | within, [] => some within
  | within, part :: rest =>
      if part = "" || part = "." then walk volume within rest
      else
        match within with
        | none =>
            if part = ".." then none
            else
              match volume.nodes.get? part with
              | some .directory => walk volume (some part) rest
              | some (.file _) => if rest.isEmpty then some (some part) else none
              | none => none
        | some _ => if part = ".." then walk volume none rest else none

/-- Whether a path relative to the volume leads to something. -/
def hasPath (volume : Volume) (path : String) : Bool :=
  volume.present && !path.startsWith "/" && (volume.walk none (path.splitOn "/")).isSome

def node? (volume : Volume) (name : String) : Option Node :=
  volume.nodes.get? name

/-- The contents with a number. -/
def content (volume : Volume) (id : Nat) : Bytes :=
  volume.contents.getD id []

/-- Adds bytes to the contents with a number. -/
def append (volume : Volume) (id : Nat) (bytes : Bytes) : Volume :=
  { volume with contents := volume.contents.modify id (· ++ bytes) }

/-- Cuts the contents with a number to a length. -/
def truncate (volume : Volume) (id length : Nat) : Volume :=
  { volume with contents := volume.contents.modify id (·.take length) }

/-- Replaces the contents with a number. -/
def overwrite (volume : Volume) (id : Nat) (bytes : Bytes) : Volume :=
  { volume with contents := volume.contents.set id bytes }

/-- Makes an empty file under a name that is free, and tells its number. -/
def createNew (volume : Volume) (name : String) : Except FileFault (Volume × Nat) :=
  if !volume.present then throw .notFound
  else
    match volume.node? name with
    | some _ => throw .alreadyExists
    | none =>
        let id := volume.contents.length
        pure ({ volume with
          nodes := volume.nodes.insert name (.file id)
          contents := volume.contents ++ [[]] }, id)

/-- Puts bytes into a file, which is made if it is not there. -/
def write (volume : Volume) (name : String) (bytes : Bytes) : Except FileFault Volume :=
  if !volume.present then throw .notFound
  else
    match volume.node? name with
    | some .directory => throw .isADirectory
    | some (.file id) => pure (volume.overwrite id bytes)
    | none => do
        let (volume, id) ← volume.createNew name
        pure (volume.overwrite id bytes)

/-- Reads a file as a whole. -/
def read (volume : Volume) (name : String) : Except FileFault Bytes :=
  match volume.node? name with
  | none => throw .notFound
  | some .directory => throw .isADirectory
  | some (.file id) => pure (volume.content id)

/-- Takes the name of a file away. -/
def remove (volume : Volume) (name : String) : Except FileFault Volume :=
  match volume.node? name with
  | none => throw .notFound
  | some .directory => throw .isADirectory
  | some (.file _) => pure { volume with nodes := volume.nodes.erase name }

/-- Gives what has one name another, in place of what had that name. -/
def rename (volume : Volume) (source target : String) : Except FileFault Volume :=
  match volume.node? source with
  | none => throw .notFound
  | some node =>
      match node, volume.node? target with
      | .directory, some (.file _) => throw .notADirectory
      | .file _, some .directory => throw .isADirectory
      | node, _ =>
          pure { volume with nodes := (volume.nodes.erase source).insert target node }

/-- Makes an empty directory under a name. -/
def makeDirectory (volume : Volume) (name : String) : Volume :=
  { volume with nodes := volume.nodes.insert name .directory }

/-- Makes the directory itself, if it is not there. -/
def restore (volume : Volume) : Volume :=
  { volume with present := true }

/-- Removes the directory with all its entries. -/
def removeAll (volume : Volume) : Volume :=
  { volume with present := false, nodes := ∅ }

/-- What there is, in order of names: files with their contents, and directories. -/
def listing (volume : Volume) : List (String × Option Bytes) :=
  volume.nodes.entries.map fun entry =>
    match entry.2 with
    | .directory => (entry.1, none)
    | .file id => (entry.1, some (volume.content id))

/-- The entries in order of names, each with its size. -/
def entries (volume : Volume) : Except FileFault (List (String × Nat)) :=
  if volume.present then
    pure (volume.nodes.entries.map fun entry =>
      match entry.2 with
      | .directory => (entry.1, directorySize)
      | .file id => (entry.1, (volume.content id).length))
  else throw .notFound

end Volume

end TerminalAgent
