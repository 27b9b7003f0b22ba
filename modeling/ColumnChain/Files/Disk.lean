import ColumnChain.Files.Path
import ColumnChain.Files.Basic
import ColumnChain.Keyed
import ColumnChain.Text.Cutting

/-!
# A disk in memory

Directories and files by their places, a place being the names on the way from the root.
The root is always there. A path is followed name by name: every name but the last has
to be that of a directory, also where the path goes back up.
-/

namespace ColumnChain

/-- What is at a place. -/
inductive Node where
  | file (contents : Bytes)
  | directory
  deriving DecidableEq

/-- The names on the way from the root. -/
abbrev Place := List String

/-- Files and directories by place, and the directory from which paths start. -/
structure Disk where
  nodes : Keyed (Place × Node) Prod.fst
  here : Place

namespace Disk

/-- What is at a place. -/
def at? (disk : Disk) (place : Place) : Option Node :=
  if place.isEmpty then some .directory else (disk.nodes.find? place).map Prod.snd

/-- Put something at a place. -/
def put (disk : Disk) (place : Place) (node : Node) : Disk :=
  { disk with nodes := disk.nodes.put (place, node) }

/-- Take away what is at a place. -/
def remove (disk : Disk) (place : Place) : Disk :=
  { disk with nodes := disk.nodes.erase place }

/-- There has to be a directory at a place. -/
def enter (disk : Disk) (place : Place) : Except DiskError Unit :=
  match disk.at? place with
  | some .directory => .ok ()
  | some (.file _) => .error .notDirectory
  | none => .error .missing

/-- The most bytes in a name. -/
def longestName : Nat := 255

/-- Follow the parts of a path from a place. -/
def follow (disk : Disk) (place : Place) : List String → Except DiskError Place
  | [] => .ok place
  | part :: parts => do
      disk.enter place
      if part = "" ∨ part = "." then disk.follow place parts
      else if part = ".." then disk.follow place.dropLast parts
      else if longestName < part.utf8ByteSize then throw .nameTooLong
      else disk.follow (place ++ [part]) parts

/-- The parts of a path between slashes. -/
def partsOf (path : String) : Except DiskError (List String) :=
  if path.toList.contains '\x00' then .error .nulInName
  else .ok ((Text.split ['/'] path.toList).map String.ofList)

/-- The place a path leads to. There need not be anything, but there is something on the
way to it. -/
def locate (disk : Disk) (path : String) : Except DiskError Place := do
  match ← partsOf path with
  | [""] => throw .missing
  | "" :: parts => disk.follow [] parts
  | parts => disk.follow disk.here parts

/-- What is at a path. -/
def lookUp (disk : Disk) (path : String) : Except DiskError Node := do
  match disk.at? (← disk.locate path) with
  | some node => return node
  | none => throw .missing

/-- The contents of a file. -/
def read (disk : Disk) (path : String) : Except DiskError Bytes := do
  match ← disk.lookUp path with
  | .file contents => return contents
  | .directory => throw .isDirectory

/-- The names in the directory at a place. -/
def children (disk : Disk) (place : Place) : List String :=
  disk.nodes.entries.filterMap fun (other, _) =>
    match other.getLast? with
    | some name => if other.dropLast = place then some name else none
    | none => none

/-- The names in a directory. -/
def names (disk : Disk) (path : String) : Except DiskError (List String) := do
  let place ← disk.locate path
  disk.enter place
  return disk.children place

/-- Make the directories at the parts of a path that are missing. -/
def makeFrom (disk : Disk) (place : Place) : List String → Except DiskError Disk
  | [] => .ok disk
  | part :: parts =>
      if part = "" ∨ part = "." then disk.makeFrom place parts
      else if part = ".." then disk.makeFrom place.dropLast parts
      else if longestName < part.utf8ByteSize then .error .nameTooLong
      else
        let place := place ++ [part]
        match disk.at? place with
        | some .directory => disk.makeFrom place parts
        | some (.file _) => .error .notDirectory
        | none => (disk.put place .directory).makeFrom place parts

/-- Make a directory and those above it. -/
def makeDirectories (disk : Disk) (path : String) : Except DiskError Disk := do
  match ← partsOf path with
  | "" :: parts => disk.makeFrom [] parts
  | parts => disk.makeFrom disk.here parts

/-- The place of a file that is written. A path that ends in a slash leads to none, if
there is something on the way to it. -/
def target (disk : Disk) (path : String) : Except DiskError Place := do
  let trimmed := (path.toList.reverse.dropWhile (· == '/')).reverse
  let place ← disk.locate (String.ofList trimmed)
  if trimmed.length < path.length then throw .isDirectory
  match disk.at? place with
  | some .directory => throw .isDirectory
  | some (.file _) | none => return place

/-- Write a file. -/
def write (disk : Disk) (path : String) (contents : Bytes) : Except DiskError Disk := do
  return disk.put (← disk.target path) (.file contents)

/-- Give a file another path. -/
def rename (disk : Disk) (source destination : String) : Except DiskError Disk := do
  let origin ← disk.locate source
  let contents ← disk.read source
  let place ← disk.target destination
  return (disk.remove origin).put place (.file contents)

/-- Change the disk by an operation that may fail, and then leaves it as it was. -/
def attempt (operation : Disk → Except DiskError Disk) :
    StateM Disk (Except DiskError Unit) := fun disk =>
  match operation disk with
  | .ok disk => (.ok (), disk)
  | .error error => (.error error, disk)

instance : Files (StateM Disk) where
  read path := fun disk => (disk.read path, disk)
  isPresent path := fun disk => ((disk.lookUp path).toBool, disk)
  names path := fun disk => (disk.names path, disk)
  makeDirectories path := attempt fun disk => disk.makeDirectories path
  create path := attempt fun disk => disk.write path []
  write path contents := attempt fun disk => disk.write path contents
  rename source destination := attempt fun disk => disk.rename source destination

end Disk
end ColumnChain
