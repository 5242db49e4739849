import Hexwire.Bytes.Utf8
import Hexwire.Files.Path
import Hexwire.Value.Printer

/-! # A file tree

The files that a run of the program sees form a tree of directories, files and one device that holds
nothing. Relative paths start at the working directory. A path is followed component by component
from a directory: every component but the last must name a directory, two points lead to the
directory above and a slash at the end demands a directory. What the host refuses is reported by
number, text and path as given.
-/

namespace Hexwire

/-- What stands at a place in a file tree. -/
inductive Entry where
  | directory
  | file (contents : Bytes)
  | sink
  deriving DecidableEq, Repr

/-- A file tree: its entries by their components from the top, which itself is a directory, and the
components of the working directory. -/
structure FileTree where
  entries : List (List String × Entry)
  working : List String

/-- Why the host refuses a path. -/
inductive PathFault where
  | missing
  | exists
  | notDirectory
  | isDirectory
  | nameTooLong
  /-- The path holds a null character, which no call accepts. -/
  | nullCharacter
  deriving DecidableEq, Repr

namespace PathFault

/-- The failure that a fault of a path is raised as. -/
def failure (path : String) : PathFault → Failure
  | missing => system .fileNotFound 2 "No such file or directory"
  | .exists => system .fileExists 17 "File exists"
  | notDirectory => system .notADirectory 20 "Not a directory"
  | isDirectory => system .isADirectory 21 "Is a directory"
  | nameTooLong => system .os 36 "File name too long"
  | nullCharacter => .ofText .value "embedded null byte"
where
  /-- A system failure with number, text and path. -/
  system (kind : HostKind) (number : Int) (text : String) : Failure :=
    .host kind [.int number, .text text, .text path]

end PathFault

namespace FileTree

/-- The most octets of a component of a path. -/
def nameLimit : Nat := 255

/-- The octets that a whole path must stay below. -/
def pathLimit : Nat := 4096

/-- The tree in which a run starts: the working directory is empty. -/
def empty : FileTree where
  entries := [(["work"], .directory), (["dev"], .directory), (["dev", "null"], .sink),
    (["tmp"], .directory)]
  working := ["work"]

/-- The working directory as a path. -/
def workingPath (tree : FileTree) : List Char :=
  '/' :: Path.join (tree.working.map String.toList)

/-- The absolute normal form of a path seen from the working directory. -/
def fullPath (tree : FileTree) (path : String) : List Char :=
  Path.absolute tree.workingPath path.toList

/-- What stands at a place. -/
def entry? (tree : FileTree) (place : List String) : Option Entry :=
  if place.isEmpty then some .directory
  else (tree.entries.find? (·.1 = place)).map (·.2)

/-- The tree with an entry at a place, where any former one gives way. -/
def put (tree : FileTree) (place : List String) (entry : Entry) : FileTree :=
  let replaced := tree.entries.map fun (other, old) =>
    if other = place then (other, entry) else (other, old)
  if (tree.entry? place).isSome then { tree with entries := replaced }
  else { tree with entries := tree.entries ++ [(place, entry)] }

/-- The tree with a file or directory below the working directory, and the directories it lies
in. -/
def plant (tree : FileTree) (path : String) (entry : Entry) : FileTree :=
  let parts := ((Path.resolve false (Path.components path.toList)).map String.ofList)
  let withParents := (List.range (parts.length - 1)).foldl (fun tree count =>
    let place := tree.working ++ parts.take (count + 1)
    if (tree.entry? place).isSome then tree else tree.put place .directory) tree
  withParents.put (tree.working ++ parts) entry

/-- The entry below a directory, if the name can be one. -/
def child (tree : FileTree) (directory : List String) (name : String) :
    Except PathFault (Option Entry) :=
  if nameLimit < name.utf8ByteSize then .error .nameTooLong
  else .ok (tree.entry? (directory ++ [name]))

/-- Where components lead from a place, and the entry there if there is one. All components but the
last must lead to directories; one that leads nowhere may only be the last. -/
def walk (tree : FileTree) (place : List String) :
    List String → Except PathFault (List String × Option Entry)
  | [] => .ok (place, tree.entry? place)
  | part :: rest =>
    if part = "" ∨ part = "." then
      if tree.entry? place = some .directory then walk tree place rest else .error .notDirectory
    else if part = ".." then
      if tree.entry? place = some .directory then walk tree place.dropLast rest
      else .error .notDirectory
    else if tree.entry? place ≠ some .directory then .error .notDirectory
    else match tree.child place part with
      | .error fault => .error fault
      | .ok none =>
        if rest.all (· = "") then .ok (place ++ [part], none) else .error .missing
      | .ok (some _) => walk tree (place ++ [part]) rest

/-- Where a path leads. -/
def locate (tree : FileTree) (path : String) :
    Except PathFault (List String × Option Entry) :=
  if path.toList.contains '\x00' then .error .nullCharacter
  else if path.isEmpty then .error .missing
  else if pathLimit ≤ path.utf8ByteSize then .error .nameTooLong
  else
    let parts := (Path.components path.toList).map String.ofList
    match path.toList with
    | '/' :: _ => walk tree [] parts
    | _ => walk tree tree.working parts

/-- The octets of a file. -/
def read (tree : FileTree) (path : String) : Except PathFault Bytes :=
  match tree.locate path with
  | .error fault => .error fault
  | .ok (_, none) => .error .missing
  | .ok (_, some .directory) => .error .isDirectory
  | .ok (_, some .sink) => .ok []
  | .ok (_, some (.file contents)) => .ok contents

/-- Whether a path leads to anything. -/
def contains (tree : FileTree) (path : String) : Bool :=
  match tree.locate path with
  | .ok (_, some _) => true
  | _ => false

/-- Whether a path leads to a directory. -/
def isDirectory (tree : FileTree) (path : String) : Bool :=
  match tree.locate path with
  | .ok (_, some .directory) => true
  | _ => false

/-- The place of a file that is to be appended to, and the tree in which it exists. -/
def openToAppend (tree : FileTree) (path : String) :
    Except PathFault (List String × FileTree) :=
  match tree.locate path with
  | .error fault => .error fault
  | .ok (_, some .directory) => .error .isDirectory
  | .ok (place, some _) => .ok (place, tree)
  | .ok (place, none) =>
    if path.toList.getLast? = some '/' then .error .isDirectory
    else .ok (place, tree.put place (.file []))

/-- The tree after octets are appended at a place. -/
def appendAt (tree : FileTree) (place : List String) (data : Bytes) : FileTree :=
  match tree.entry? place with
  | some (.file contents) => tree.put place (.file (contents ++ data))
  | _ => tree

/-- The tree with a new directory. -/
def makeDirectory (tree : FileTree) (path : String) : Except PathFault FileTree :=
  match tree.locate path with
  | .error fault => .error fault
  | .ok (_, some _) => .error .exists
  | .ok (place, none) => .ok (tree.put place .directory)

/-- The tree after a directory and those it lies in have been made as far as they did not exist, and
what stopped the making, with its path. The count bounds how many directories lie above. -/
def makeDirectories (tree : FileTree) (path : List Char) :
    Nat → Option (String × PathFault) × FileTree
  | 0 => (none, tree)
  | depth + 1 =>
    let (head, tail) := match (Path.directory path, Path.name path) with
      | (head, []) => (Path.directory head, Path.name head)
      | parts => parts
    let (stopped, tree) :=
      if !head.isEmpty && !tail.isEmpty && !tree.contains (String.ofList head) then
        makeDirectories tree head depth
      else (none, tree)
    let text := String.ofList path
    match stopped, tree.makeDirectory text with
    | some fault, _ => (some fault, tree)
    | none, .ok made => (none, made)
    | none, .error fault => (if tree.isDirectory text then none else some (text, fault), tree)

/-- The tree after a directory and those it lies in have been made, and what stopped the making. -/
def ensureDirectory (tree : FileTree) (path : String) :
    Option (String × PathFault) × FileTree :=
  makeDirectories tree path.toList (path.length + 1)

end FileTree

end Hexwire
