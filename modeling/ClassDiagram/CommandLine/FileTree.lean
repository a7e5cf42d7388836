import ClassDiagram.Bundle
import ClassDiagram.CommandLine.Disk

/-!
# File trees

A disk in memory: the files and directories below a working directory. Paths that lead out of it
lead nowhere.
-/

namespace ClassDiagram

inductive Node where
  | file (text : String)
  | directory
  deriving DecidableEq, Repr

/-- The nodes below the working directory, by the names on the way to them, joined by slashes. -/
structure FileTree where
  nodes : Catalog Node

/-- The longest name of a file, in bytes. -/
def maxNameLength : Nat := 255

/-- The longest path, in bytes. -/
def maxPathLength : Nat := 4095

namespace FileTree

def empty : FileTree := { nodes := Catalog.empty }

def node? (tree : FileTree) (place : List String) : Option Node :=
  if place.isEmpty then some .directory else tree.nodes.find? (joinParts place)

def put (tree : FileTree) (place : List String) (node : Node) : FileTree :=
  { nodes := tree.nodes.insert (joinParts place) node }

/-- The place to which a part leads from a directory. -/
def step (place : List String) (part : String) : Except DiskFault (List String) :=
  if part = "" ∨ part = "." then .ok place
  else if part = ".." then
    if place.isEmpty then .error .notFound else .ok place.dropLast
  else if maxNameLength < part.utf8ByteSize then .error .nameTooLong
  else .ok (place ++ [part])

/-- The place to which parts lead. All but the last place on the way must be directories. -/
def walk (tree : FileTree) (place : List String) : List String → Except DiskFault (List String)
  | [] => .ok place
  | part :: rest =>
    match tree.node? place with
    | none => .error .notFound
    | some (.file _) => .error .notDirectory
    | some .directory => do tree.walk (← step place part) rest

/-- The parts of a path that starts in the working directory. -/
def partsFromHere (path : String) : Except DiskFault (List String) :=
  if maxPathLength < path.utf8ByteSize then .error .nameTooLong
  else
    match pathParts path with
    | "" :: _ => .error .notFound
    | parts => .ok parts

def read (tree : FileTree) (path : String) : Except DiskFault String := do
  let place ← tree.walk [] (← partsFromHere path)
  match tree.node? place with
  | some (.file text) => .ok text
  | some .directory => .error .isDirectory
  | none => .error .notFound

/-- A path that ends in a slash, or in a part of dots, can only name a directory. -/
def namesDirectory (parts : List String) : Bool :=
  ["", ".", ".."].contains (parts.getLastD "")

/-- The parts without the empty ones at the end. -/
def dropSlashes (parts : List String) : List String :=
  (parts.reverse.dropWhile String.isEmpty).reverse

def write (tree : FileTree) (path text : String) : Except DiskFault FileTree := do
  let parts ← partsFromHere path
  let parent ← tree.walk [] ((dropSlashes parts).dropLast ++ ["."])
  if namesDirectory parts then .error .isDirectory
  else
    let last := parts.getLastD ""
    let place ← step parent last
    if tree.node? place = some .directory then .error .isDirectory
    else .ok (tree.put place (.file text))

def makeAlong (tree : FileTree) (place : List String) : List String → Except DiskFault FileTree
  | [] => .ok tree
  | part :: rest => do
    let next ← step place part
    match tree.node? next with
    | some .directory => tree.makeAlong next rest
    | none => (tree.put next .directory).makeAlong next rest
    | some (.file _) =>
      .error (if rest.all fun part => part.isEmpty then .exists else .notDirectory)

def makeDirectories (tree : FileTree) (path : String) : Except DiskFault FileTree := do
  tree.makeAlong [] (← partsFromHere path)

/-- Puts a file into the tree, with the directories above it. -/
def addFile (tree : FileTree) (path text : String) : FileTree :=
  let parts := pathParts path
  let withParents := (tree.makeAlong [] parts.dropLast).toOption.getD tree
  (withParents.write path text).toOption.getD withParents

def ofFiles (files : List (String × String)) : FileTree :=
  files.foldl (fun tree file => tree.addFile file.1 file.2) empty

/-- The tree becomes what an operation makes of it. -/
def update (operation : FileTree → Except DiskFault FileTree) :
    StateM FileTree (Except DiskFault Unit) := do
  match operation (← get) with
  | .ok tree =>
    set tree
    return .ok ()
  | .error fault => return .error fault

def disk : Disk (StateM FileTree) where
  read path := return (← get).read path
  makeDirectories path := update fun tree => tree.makeDirectories path
  write path text := update fun tree => tree.write path text

/-- The files that are new in the later tree, or whose texts are. -/
def changes (earlier later : FileTree) : Bundle :=
  Catalog.ofList (later.nodes.entries.filterMap fun entry =>
    match entry.2 with
    | .directory => none
    | .file text =>
      if earlier.nodes.find? entry.1 = some (.file text) then none else some (entry.1, text))

end FileTree

end ClassDiagram
