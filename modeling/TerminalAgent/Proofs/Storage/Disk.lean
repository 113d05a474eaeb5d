import TerminalAgent.Proofs.Recording.FileNames
import TerminalAgent.Proofs.SortedMap
import TerminalAgent.Storage.Path

/-! # All directories of a machine

A `Disk` holds the directories of a machine, and paths lead through them: over slashes, dots and
symbolic links, up and down, and from the root. Only a plain name is sure to stay in the directory
that it is looked up in, and what is done to it there changes nothing under any other name.
-/

namespace TerminalAgent

/-- What a name on a disk stands for. -/
inductive DiskNode where
  | directory (number : Nat)
  | file (id : Nat)
  /-- A symbolic link with this text. -/
  | link (path : String)
  deriving Repr, DecidableEq

def DiskNode.isFile : DiskNode → Bool
  | file _ => true
  | _ => false

structure Directory where
  /-- The directory that two dots lead to. -/
  parent : Nat
  nodes : SortedMap DiskNode
  deriving Repr, DecidableEq

structure Disk where
  /-- The directories, by number; the first one is the root. -/
  directories : List Directory
  /-- The contents of files, by number; several names may stand for one file. -/
  contents : List Bytes
  deriving Repr, DecidableEq

namespace Disk

/-- What a name in a directory stands for. -/
def node? (disk : Disk) (within : Nat) (name : String) : Option DiskNode :=
  disk.directories[within]?.bind (·.nodes.get? name)

/-- The contents with a number. -/
def content (disk : Disk) (id : Nat) : Bytes :=
  disk.contents.getD id []

/-- The bytes of the file with a name in a directory. -/
def file? (disk : Disk) (within : Nat) (name : String) : Option Bytes :=
  match disk.node? within name with
  | some (.file id) => disk.contents[id]?
  | _ => none

/-! ## Paths -/

/-- So many symbolic links are followed on the way of one path. -/
def maxLinks : Nat := 40

def tooManyLinks : FileFault := .other "Too many levels of symbolic links (os error 40)"

/-- The directory that a path begins in. -/
def origin (within : Nat) (path : String) : Nat :=
  if Path.isAbsolute path then 0 else within

/-- Follows the parts of a path through directories. -/
def enter (disk : Disk) : (links within : Nat) → List String → Except FileFault Nat
  | _, within, [] => pure within
  | links, within, part :: rest =>
      if part = "" || part = "." then enter disk links within rest
      else if part = ".." then
        match disk.directories[within]? with
        | some directory => enter disk links directory.parent rest
        | none => throw .notFound
      else
        match disk.node? within part, links with
        | some (.directory number), links => enter disk links number rest
        | some (.file _), _ => throw .notADirectory
        | some (.link _), 0 => throw tooManyLinks
        | some (.link path), links + 1 =>
            enter disk links (origin within path) (path.splitOn "/" ++ rest)
        | none, _ => throw .notFound
termination_by links _ parts => (links, parts.length)

/-- Where a path leads: to a name in a directory, which may be free. -/
def locate (disk : Disk) (within : Nat) (path : String) : Except FileFault (Nat × String) := do
  let parts := path.splitOn "/"
  let name := parts.getLastD ""
  let place ← disk.enter maxLinks (origin within path) parts.dropLast
  if name = "" || name = "." || name = ".." then throw .isADirectory else pure (place, name)

/-- What a name leads to, over at most so many links. -/
def follow (disk : Disk) : (links within : Nat) → (name : String) → Except FileFault DiskNode
  | links, within, name =>
      match disk.node? within name, links with
      | none, _ => throw .notFound
      | some (.link _), 0 => throw tooManyLinks
      | some (.link path), links + 1 => do
          let (place, name) ← disk.locate (origin within path) path
          follow disk links place name
      | some node, _ => pure node

/-- The bytes that a name in a directory leads to. -/
def bytesAt (disk : Disk) (within : Nat) (name : String) : Except FileFault Bytes := do
  match ← disk.follow maxLinks within name with
  | .file id => pure (disk.content id)
  | _ => throw .isADirectory

/-- Reads a file as a whole. -/
def read (disk : Disk) (within : Nat) (path : String) : Except FileFault Bytes := do
  let (place, name) ← disk.locate within path
  disk.bytesAt place name

/-- Whether a path leads to something. -/
def hasPath (disk : Disk) (within : Nat) (path : String) : Bool :=
  let found := do
    let (place, name) ← disk.locate within path
    disk.follow maxLinks place name
  found.toOption.isSome

/-! ## Changes -/

/-- Changes what the names in a directory stand for. -/
def update (disk : Disk) (within : Nat) (change : SortedMap DiskNode → SortedMap DiskNode) : Disk :=
  { disk with
    directories := disk.directories.modify within fun directory =>
      { directory with nodes := change directory.nodes } }

/-- Lets a name stand for something. -/
def put (disk : Disk) (within : Nat) (name : String) (node : DiskNode) : Disk :=
  disk.update within (·.insert name node)

/-- Takes a name away. -/
def drop (disk : Disk) (within : Nat) (name : String) : Disk :=
  disk.update within (·.erase name)

/-- Adds bytes to the contents with a number. -/
def append (disk : Disk) (id : Nat) (bytes : Bytes) : Disk :=
  { disk with contents := disk.contents.modify id (· ++ bytes) }

/-- Makes an empty file where a path leads to nothing, and tells its number. -/
def createNew (disk : Disk) (within : Nat) (path : String) : Except FileFault (Disk × Nat) := do
  let (place, name) ← disk.locate within path
  if disk.directories.length ≤ place then throw .notFound
  else
    match disk.node? place name with
    | some _ => throw .alreadyExists
    | none =>
        let id := disk.contents.length
        pure ({ disk with contents := disk.contents ++ [[]] }.put place name (.file id), id)

/-- Whether a directory is another one or above it. -/
def isAbove (disk : Disk) (number : Nat) : (fuel within : Nat) → Bool
  | 0, _ => false
  | fuel + 1, within =>
      within = number ||
        disk.directories[within]?.any fun directory => isAbove disk number fuel directory.parent

/-- Why something cannot get a name in a directory that stands for `taken` so far. -/
def obstacle (disk : Disk) (node : DiskNode) (within : Nat) (taken : Option DiskNode) :
    Option FileFault :=
  match node, taken with
  | .directory number, taken =>
      if disk.isAbove number disk.directories.length within then
        some (.other "Invalid argument (os error 22)")
      else
        match taken with
        | none => none
        | some (.directory other) =>
            if disk.directories[other]?.all (·.nodes.isEmpty) then none else some .notEmpty
        | some _ => some .notADirectory
  | _, some (.directory _) => some .isADirectory
  | _, _ => none

/-- Tells a directory where it is now. -/
def adopt (disk : Disk) (within : Nat) : DiskNode → Disk
  | .directory number =>
      { disk with
        directories := disk.directories.modify number fun directory =>
          { directory with parent := within } }
  | _ => disk

/-- Gives what one path leads to the name that another one leads to. -/
def rename (disk : Disk) (within : Nat) (source target : String) : Except FileFault Disk := do
  let (from_, old) ← disk.locate within source
  let (to_, new) ← disk.locate within target
  match disk.node? from_ old with
  | none => throw .notFound
  | some node =>
      -- Two names of one file are both kept.
      if from_ = to_ ∧ old = new ∨ node.isFile ∧ disk.node? to_ new = some node then
        pure disk
      else
        match disk.obstacle node to_ (disk.node? to_ new) with
        | some fault => throw fault
        | none => pure (((disk.drop from_ old).put to_ new node).adopt to_ node)

/-- The size that something is listed with. -/
def size (disk : Disk) : DiskNode → Nat
  | .directory _ => Volume.directorySize
  | .file id => (disk.content id).length
  | .link path => path.utf8ByteSize

/-- The names in a directory in order, each with its size. -/
def entries (disk : Disk) (within : Nat) : Except FileFault (List (String × Nat)) :=
  match disk.directories[within]? with
  | some directory => pure (directory.nodes.entries.map fun entry => (entry.1, disk.size entry.2))
  | none => throw .notFound

/-! ## Plain names -/

/-- A name that a path does not leave its directory with. -/
structure Plain (name : String) : Prop where
  noSlash : '/' ∉ name.toList
  notEmpty : name ≠ ""
  notDot : name ≠ "."
  notUp : name ≠ ".."

variable {disk disk' : Disk} {within : Nat} {name : String}

theorem origin_plain (plain : Plain name) (within : Nat) : origin within name = within := by
  have relative : Path.isAbsolute name = false := by
    rw [Path.isAbsolute, String.startsWith_string_eq_false_iff]
    exact fun first => plain.noSlash (first.subset (by decide))
  rw [origin, relative, if_neg Bool.false_ne_true]

theorem locate_plain (plain : Plain name) (disk : Disk) (within : Nat) :
    disk.locate within name = .ok (within, name) := by
  have parts : name.splitOn "/" = [name] := splitOn_slash plain.noSlash
  have here (links : Nat) : disk.enter links within [] = .ok within := by
    unfold enter
    rfl
  have last : [name].getLastD "" = name := rfl
  simp only [locate, parts, origin_plain plain, List.dropLast_singleton, last, here, plain.notEmpty,
    plain.notDot, plain.notUp]
  rfl

theorem read_plain (plain : Plain name) (disk : Disk) (within : Nat) :
    disk.read within name = disk.bytesAt within name := by
  rw [read, locate_plain plain]
  rfl

/-! ## What changes show -/

theorem node?_update (disk : Disk) (within place : Nat)
    (change : SortedMap DiskNode → SortedMap DiskNode) (other : String) :
    (disk.update within change).node? place other =
      if place = within then disk.directories[within]?.bind fun d => (change d.nodes).get? other
      else disk.node? place other := by
  simp only [node?, update, List.getElem?_modify]
  split
  next here =>
    rw [here, if_pos rfl]
    cases disk.directories[place]? with
    | none => rfl
    | some directory => rfl
  next elsewhere =>
    rw [if_neg (Ne.symm elsewhere)]
    cases disk.directories[place]? with
    | none => rfl
    | some directory => rfl

theorem node?_put (there : within < disk.directories.length) (node : DiskNode) (place : Nat)
    (other : String) :
    (disk.put within name node).node? place other =
      if place = within ∧ other = name then some node else disk.node? place other := by
  rw [put, node?_update, List.getElem?_eq_getElem there, Option.bind_some, SortedMap.get?_insert]
  by_cases here : place = within
  · by_cases same : other = name
    · rw [if_pos here, if_pos same, if_pos ⟨here, same⟩]
    · rw [if_pos here, if_neg same, if_neg fun both => same both.2, here, node?,
        List.getElem?_eq_getElem there, Option.bind_some]
  · rw [if_neg here, if_neg fun both => here both.1]

theorem node?_put_of_ne (node : DiskNode) {place : Nat} {other : String}
    (differs : ¬ (place = within ∧ other = name)) :
    (disk.put within name node).node? place other = disk.node? place other := by
  rw [put, node?_update]
  split
  next here =>
    simp only [here, node?, SortedMap.get?_insert, if_neg fun same => differs ⟨here, same⟩]
  next => rfl

theorem node?_drop_of_ne {place : Nat} {other : String}
    (differs : ¬ (place = within ∧ other = name)) :
    (disk.drop within name).node? place other = disk.node? place other := by
  rw [drop, node?_update]
  split
  next here =>
    simp only [here, node?, SortedMap.get?_erase, if_neg fun same => differs ⟨here, same⟩]
  next => rfl

@[simp] theorem node?_adopt (disk : Disk) (within : Nat) (node : DiskNode) (place : Nat)
    (other : String) : (disk.adopt within node).node? place other = disk.node? place other := by
  cases node with
  | directory number =>
      simp only [node?, adopt, List.getElem?_modify]
      cases disk.directories[place]? with
      | none => rfl
      | some directory =>
          by_cases here : number = place
          · simp [here]
          · simp [here]
  | file id => rfl
  | link path => rfl

@[simp] theorem contents_adopt (disk : Disk) (within : Nat) (node : DiskNode) :
    (disk.adopt within node).contents = disk.contents := by
  cases node <;> rfl

/-- A file is new under a name. -/
structure Created (disk : Disk) (within : Nat) (name : String) (disk' : Disk) (id : Nat) : Prop where
  free : disk.node? within name = none
  number : id = disk.contents.length
  contents : disk'.contents = disk.contents ++ [[]]
  nodes : ∀ place other, disk'.node? place other =
    if place = within ∧ other = name then some (.file id) else disk.node? place other

theorem createNew_ok (plain : Plain name) {id : Nat}
    (made : disk.createNew within name = .ok (disk', id)) : Created disk within name disk' id := by
  simp only [createNew, locate_plain plain, bind, Except.bind] at made
  split at made
  next => cases made
  next there =>
    split at made
    next => cases made
    next free =>
      cases made
      exact ⟨free, rfl, rfl, node?_put (Nat.lt_of_not_le there) _⟩

/-- At most two names stand for something else, and no file has other contents. -/
structure Renamed (disk : Disk) (within : Nat) (source target : String) (disk' : Disk) : Prop where
  contents : disk'.contents = disk.contents
  nodes : ∀ {place other}, ¬ (place = within ∧ (other = source ∨ other = target)) →
    disk'.node? place other = disk.node? place other

theorem rename_ok {source target : String} (plain : Plain source) (plain' : Plain target)
    (renamed : disk.rename within source target = .ok disk') :
    Renamed disk within source target disk' := by
  simp only [rename, locate_plain plain, locate_plain plain', bind, Except.bind] at renamed
  split at renamed
  next => cases renamed
  next node found =>
    split at renamed
    next =>
      cases renamed
      exact ⟨rfl, fun _ => rfl⟩
    next =>
      split at renamed
      next => cases renamed
      next =>
        cases renamed
        refine ⟨contents_adopt .., fun {place other} differs => ?_⟩
        have notSource : ¬ (place = within ∧ other = source) := fun ⟨here, same⟩ =>
          differs ⟨here, .inl same⟩
        have notTarget : ¬ (place = within ∧ other = target) := fun ⟨here, same⟩ =>
          differs ⟨here, .inr same⟩
        rw [node?_adopt, node?_put_of_ne node notTarget, node?_drop_of_ne notSource]

@[simp] theorem node?_append (disk : Disk) (id : Nat) (bytes : Bytes) (place : Nat) (other : String) :
    (disk.append id bytes).node? place other = disk.node? place other := rfl

theorem contents_append {id other : Nat} (differs : other ≠ id) (disk : Disk) (bytes : Bytes) :
    (disk.append id bytes).contents[other]? = disk.contents[other]? := by
  simp only [append, List.getElem?_modify, if_neg (Ne.symm differs)]
  cases disk.contents[other]? <;> rfl

end Disk

end TerminalAgent
