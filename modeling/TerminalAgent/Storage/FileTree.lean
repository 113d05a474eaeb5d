import TerminalAgent.Storage.Path
import TerminalAgent.Storage.Volume

/-!
# A tree of directories and files

Entries are kept by the parts of their paths from the root. A path is followed part by part, and each
part but the last must be a directory.
-/

namespace TerminalAgent

/-- What a path leads to. -/
inductive TreeNode where
  | directory
  | file (bytes : Bytes) (isProgram : Bool)
  deriving Repr, DecidableEq

/-- The contents of a file. -/
def TreeNode.bytes? : TreeNode → Option Bytes
  | .directory => none
  | .file bytes _ => some bytes

/-- A tree; the root is always there. -/
structure FileTree where
  entries : List (List String × TreeNode)
  deriving Repr, DecidableEq

namespace FileTree

/-- The tree that is only a root. -/
def empty : FileTree := ⟨[]⟩

/-- The tree of these directories, and of files of these names that can be run. -/
def ofPaths (directories programs : List String) : FileTree :=
  let entry (node : TreeNode) (path : String) := (Path.parts path, node)
  ⟨directories.map (entry .directory) ++ programs.map (entry (.file [] true))⟩

/-- The entry with exactly these parts. -/
def at? (tree : FileTree) (parts : List String) : Option TreeNode :=
  if parts.isEmpty then some .directory
  else (tree.entries.find? fun entry => entry.1 = parts).map (·.2)

/-- Follows parts from a directory. The result names an entry that is there, or one that is missing in
    a directory that is there. -/
def follow (tree : FileTree) : (within : List String) → List String → Except FileFault (List String)
  | within, [] => pure within
  | within, part :: rest =>
      if part = "" || part = "." then follow tree within rest
      else if part = ".." then follow tree within.dropLast rest
      else
        let here := within ++ [part]
        if rest.isEmpty then pure here
        else
          match tree.at? here with
          | some .directory => follow tree here rest
          | some (.file _ _) => throw .notADirectory
          | none => throw .notFound

/-- Where an absolute path leads. -/
def resolve (tree : FileTree) (path : String) : Except FileFault (List String) :=
  if path.isEmpty then throw .notFound else tree.follow [] (path.splitOn "/")

/-- What a path leads to. -/
def lookup (tree : FileTree) (path : String) : Except FileFault TreeNode := do
  match tree.at? (← tree.resolve path) with
  | some node => pure node
  | none => throw .notFound

/-- Whether a path leads to something. -/
def hasPath (tree : FileTree) (path : String) : Bool :=
  (tree.lookup path).toOption.isSome

def isDirectory (tree : FileTree) (path : String) : Bool :=
  (tree.lookup path).toOption = some .directory

/-- Whether a path leads to a file that can be run. -/
def isProgram (tree : FileTree) (path : String) : Bool :=
  match tree.lookup path with
  | .ok (.file _ isProgram) => isProgram
  | _ => false

/-- Puts an entry in the place of one that was there. -/
def put (tree : FileTree) (parts : List String) (node : TreeNode) : FileTree :=
  ⟨tree.entries.filter (fun entry => entry.1 ≠ parts) ++ [(parts, node)]⟩

/-- Reads a file as a whole. -/
def read (tree : FileTree) (path : String) : Except FileFault Bytes := do
  match ← tree.lookup path with
  | .file bytes _ => pure bytes
  | .directory => throw .isADirectory

/-- Writes a file as a whole; it is made if it is not there. -/
def write (tree : FileTree) (path : String) (bytes : Bytes) : Except FileFault FileTree := do
  let parts ← tree.resolve path
  match tree.at? parts with
  | some .directory => throw .isADirectory
  | some (.file _ isProgram) => pure (tree.put parts (.file bytes isProgram))
  | none =>
      if path.endsWith "/" then throw .isADirectory else pure (tree.put parts (.file bytes false))

/-- Makes a directory. -/
def makeDirectory (tree : FileTree) (path : String) : Except FileFault FileTree := do
  let parts ← tree.follow [] ((path.splitOn "/").reverse.dropWhile (· = "")).reverse
  match tree.at? parts with
  | some _ => throw .alreadyExists
  | none => pure (tree.put parts .directory)

/-- Makes a directory and those on the way to it that are missing, at most `fuel` of them. -/
def makeDirectoriesFrom : (fuel : Nat) → FileTree → (path : String) → Except FileFault FileTree
  | 0, _, _ => throw .notFound
  | fuel + 1, tree, path =>
      if path.isEmpty then pure tree
      else
        match tree.makeDirectory path with
        | .ok tree => pure tree
        | .error .notFound => do
            match Path.parent? path with
            | none => throw .notFound
            | some parent =>
                let tree ← makeDirectoriesFrom fuel tree parent
                match tree.makeDirectory path with
                | .ok tree => pure tree
                | .error fault => if tree.isDirectory path then pure tree else throw fault
        | .error fault => if tree.isDirectory path then pure tree else throw fault

/-- Makes a directory and those on the way to it that are missing. -/
def makeDirectories (tree : FileTree) (path : String) : Except FileFault FileTree :=
  makeDirectoriesFrom (path.length + 1) tree path

/-- What is in a directory, by name and in order of names. -/
def listing (tree : FileTree) (path : String) : List (String × TreeNode) :=
  match tree.resolve path with
  | .error _ => []
  | .ok parts =>
      let here := tree.entries.filterMap fun entry =>
        match entry.1.getLast? with
        | some name => if entry.1.dropLast = parts then some (name, entry.2) else none
        | none => none
      here.mergeSort fun a b => decide (a.1 ≤ b.1)

/-- A directory of a tree by itself. -/
def volume (tree : FileTree) (path : String) : Volume :=
  (tree.listing path).foldl
    (fun volume entry =>
      match entry.2 with
      | .directory => volume.makeDirectory entry.1
      | .file bytes _ => (volume.write entry.1 bytes).toOption.getD volume)
    .empty

end FileTree

end TerminalAgent
