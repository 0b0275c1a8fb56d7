import Parley.Text.Utf8

/-!
# Files

A tree of directories and files, and how paths lead through it. A path is followed step by step:
every step but the last has to end in a directory, and a path that ends in a slash has to lead to
one.
-/

namespace Parley.Files

/-- Why the file system refuses an operation. -/
inductive Refusal where
  | notFound
  | notDirectory
  | isDirectory
  | exists
  | nameTooLong
  | nulByte
  | notUtf8
deriving DecidableEq, Repr

def Refusal.message : Refusal → String
  | .notFound => "No such file or directory (os error 2)"
  | .notDirectory => "Not a directory (os error 20)"
  | .isDirectory => "Is a directory (os error 21)"
  | .exists => "File exists (os error 17)"
  | .nameTooLong => "File name too long (os error 36)"
  | .nulByte => "file name contained an unexpected NUL byte"
  | .notUtf8 => "stream did not contain valid UTF-8"

inductive Node where
  | file (bytes : List UInt8) (mode : Nat)
  | directory
deriving DecidableEq, Repr

/-- A place in the tree: the names that lead to it from the root. -/
abbrev Place := List String

/-- All places that exist, apart from the root, and the directory from which relative paths
start. -/
structure Tree where
  nodes : List (Place × Node)
  current : Place
deriving Repr

def createdMode : Nat := 0o644

def directoryMode : Nat := 0o755

/-- The mode of a file that only its owner may read and write. -/
def privateMode : Nat := 0o600

/-- The names of a path, also the empty ones. -/
def splitPath (path : String) : List String :=
  (path.toList.splitOn '/').map String.ofList

/-- A path below another one. An absolute path stands for itself. -/
def join (base path : String) : String :=
  if path.toList.head? = some '/' ∨ base.isEmpty then path
  else if base.toList.getLast? = some '/' then base ++ path
  else base ++ "/" ++ path

/-- The path without its last name, as its directory is called; none for the root and the empty
path. -/
def parentPath? (path : String) : Option String :=
  let isAbsolute := path.toList.head? = some '/'
  let names := (splitPath path).filter fun name => name ≠ "" ∧ name ≠ "."
  if names.isEmpty then (if path.isEmpty ∨ isAbsolute then none else some "")
  else some ((if isAbsolute then "/" else "") ++ "/".intercalate names.dropLast)

/-- The last name of a path, unless it leads upward or there is none. -/
def fileName? (path : String) : Option String :=
  match ((splitPath path).filter fun name => name ≠ "" ∧ name ≠ ".").getLast? with
  | some ".." => none
  | other => other

/-- The part of the last name after its last full stop, which does not start the name. -/
def extension? (path : String) : Option String :=
  (fileName? path).bind fun name =>
    let characters := name.toList
    let behind := (characters.reverse.takeWhile (· ≠ '.')).reverse
    if behind.length + 1 < characters.length then some (String.ofList behind) else none

/-- What is left by an operation that has not failed. -/
def ifDone {ε α : Type} (outcome : Except ε Unit × α) : Except ε α :=
  outcome.1.map fun _ => outcome.2

namespace Tree

/-- A tree with one directory and those above it. -/
def ofDirectory (place : Place) : Tree :=
  ⟨(List.range place.length).map fun count => (place.take (count + 1), .directory), place⟩

def node? (tree : Tree) (place : Place) : Option Node :=
  if place.isEmpty then some .directory
  else (tree.nodes.find? (·.1 == place)).map (·.2)

def put (tree : Tree) (place : Place) (node : Node) : Tree :=
  { tree with nodes := (place, node) :: tree.nodes.filter (·.1 != place) }

def erase (tree : Tree) (place : Place) : Tree :=
  { tree with nodes := tree.nodes.filter (·.1 != place) }

def follow (tree : Tree) (place : Place) : List String → Except Refusal Place
  | [] => .ok place
  | name :: rest =>
      match tree.node? place with
      | none => .error .notFound
      | some (.file _ _) => .error .notDirectory
      | some .directory =>
          if name = "" ∨ name = "." then follow tree place rest
          else if name = ".." then follow tree place.dropLast rest
          else if 255 < Text.Utf8.size name.toList then .error .nameTooLong
          else follow tree (place ++ [name]) rest

/-- The place that a path leads to; nothing need stand there. -/
def resolve (tree : Tree) (path : String) : Except Refusal Place :=
  if path.toList.contains '\x00' then .error .nulByte
  else if path.isEmpty then .error .notFound
  else if 4095 < Text.Utf8.size path.toList then .error .nameTooLong
  else if path.toList.head? = some '/' then tree.follow [] (splitPath path)
  else tree.follow tree.current (splitPath path)

def pathExists (tree : Tree) (path : String) : Bool :=
  match tree.resolve path with
  | .ok place => (tree.node? place).isSome
  | .error _ => false

def read (tree : Tree) (path : String) : Except Refusal (List UInt8) := do
  match tree.node? (← tree.resolve path) with
  | some (.file bytes _) => .ok bytes
  | some .directory => .error .isDirectory
  | none => .error .notFound

def readText (tree : Tree) (path : String) : Except Refusal String := do
  match Text.Utf8.decode (← tree.read path) with
  | .ok text => .ok (String.ofList text)
  | .error _ => .error .notUtf8

def mode? (tree : Tree) (path : String) : Option Nat :=
  match tree.resolve path with
  | .ok place =>
      match tree.node? place with
      | some (.file _ mode) => some mode
      | some .directory => some directoryMode
      | none => none
  | .error _ => none

/-- Writes a file. One that exists keeps its mode. -/
def write (tree : Tree) (path : String) (bytes : List UInt8) : Except Refusal Tree := do
  let place ← tree.resolve path
  match tree.node? place with
  | some (.file _ mode) => .ok (tree.put place (.file bytes mode))
  | some .directory => .error .isDirectory
  | none =>
      match tree.node? place.dropLast with
      | some .directory => .ok (tree.put place (.file bytes createdMode))
      | some (.file _ _) => .error .notDirectory
      | none => .error .notFound

def makePrivate (tree : Tree) (path : String) : Except Refusal Tree := do
  let place ← tree.resolve path
  match tree.node? place with
  | some (.file bytes _) => .ok (tree.put place (.file bytes privateMode))
  | some .directory => .ok tree
  | none => .error .notFound

def remove (tree : Tree) (path : String) : Except Refusal Tree := do
  let place ← tree.resolve path
  match tree.node? place with
  | some (.file _ _) => .ok (tree.erase place)
  | some .directory => .error .isDirectory
  | none => .error .notFound

/-- Creates directories along names from a place on, where there are none yet: what comes of it,
and the tree that is left. -/
def createAlong (tree : Tree) (place : Place) : List String → Except Refusal Unit × Tree
  | [] => (.ok (), tree)
  | name :: rest =>
      if name = "" ∨ name = "." then createAlong tree place rest
      else if name = ".." then createAlong tree place.dropLast rest
      else if 255 < Text.Utf8.size name.toList then (.error .nameTooLong, tree)
      else
        let next := place ++ [name]
        match tree.node? next with
        | some .directory => createAlong tree next rest
        | some (.file _ _) => (.error (if rest.isEmpty then .exists else .notDirectory), tree)
        | none => createAlong (tree.put next .directory) next rest

/-- Creates a directory and all that are missing above it: what comes of it, and the tree that is
left. -/
def layDirectories (tree : Tree) (path : String) : Except Refusal Unit × Tree :=
  if path.toList.contains '\x00' then (.error .nulByte, tree)
  else if 4095 < Text.Utf8.size path.toList then (.error .nameTooLong, tree)
  else if path.toList.head? = some '/' then tree.createAlong [] (splitPath path)
  else tree.createAlong tree.current (splitPath path)

/-- The tree with a directory and all that are missing above it. -/
def createDirectories (tree : Tree) (path : String) : Except Refusal Tree :=
  ifDone (tree.layDirectories path)

/-- Creates the directories that are missing above a file: what comes of it, and the tree that is
left. -/
def layAbove (tree : Tree) (path : String) : Except Refusal Unit × Tree :=
  match parentPath? path with
  | some parent => tree.layDirectories parent
  | none => (.ok (), tree)

/-- Writes a private file after creating the directories above it. -/
def writePrivate (tree : Tree) (path : String) (bytes : List UInt8) :
    Except Refusal Tree := do
  let tree ← ifDone (tree.layAbove path)
  (← tree.write path bytes).makePrivate path

end Tree

end Parley.Files
