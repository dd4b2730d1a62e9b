/-!
# Folders

A folder as the command line sees it: files and directories by their paths, how a path is followed
from the working directory, and why a file may not be there to be read.
-/

namespace MarkupTree.CommandLine

/-- Why a file cannot be opened. -/
inductive OpenError where
  /-- There is nothing of that name. -/
  | notFound
  /-- The system refuses, with the number and the wording of its reason. -/
  | refused (number : Nat) (reason : String)
deriving DecidableEq

namespace OpenError

/-- Something on the way is no directory. -/
def notDirectory : OpenError := .refused 20 "Not a directory"

/-- The path leads to a directory. -/
def isDirectory : OpenError := .refused 21 "Is a directory"

/-- The file may not be read. -/
def permissionDenied : OpenError := .refused 13 "Permission denied"

/-- The path, or a name in it, is too long. -/
def nameTooLong : OpenError := .refused 36 "File name too long"

/-- The number of a refusal. -/
def number? : OpenError → Option Nat
  | .notFound => none
  | .refused number _ => some number

end OpenError

/-- What stands at a path. -/
inductive Entry where
  /-- A file of the given bytes. -/
  | file (bytes : List UInt8)
  /-- A directory. -/
  | directory
deriving DecidableEq

/-- The entries below the working directory, by the names that lead to them. -/
structure Folder where
  /-- The entries with their paths, split into names. -/
  entries : List (List String × Entry)

namespace Folder

/-- The names in a path. -/
def names (path : String) : List String := path.splitOn "/"

/-- The folder of the given entries. -/
def ofEntries (entries : List (String × Entry)) : Folder :=
  ⟨entries.map fun (path, entry) => (names path, entry)⟩

/-- What stands at the given names. A directory is there also if something in it is. -/
def find? (folder : Folder) (path : List String) : Option Entry :=
  match folder.entries.lookup path with
  | some entry => some entry
  | none =>
    if path = [] ∨ folder.entries.any (fun (other, _) => path.isPrefixOf other) then
      some .directory
    else none

/-- A place that following a path has led to: below the working directory, or outside of it, where
nothing is known but directories above. -/
inductive Place where
  /-- Below the working directory, at the given names. -/
  | inside (path : List String) (entry : Entry)
  /-- A directory outside. -/
  | outside

/-- The longest name that a directory can hold, in bytes. -/
def maxName : Nat := 255

/-- The longest path, in bytes. -/
def maxPath : Nat := 4095

/-- Goes on from a place by one name. -/
def step (folder : Folder) : Place → (name : String) → Except OpenError Place
  | .inside _ (.file _), _ => .error .notDirectory
  | .inside path .directory, name =>
    if name = "" ∨ name = "." then .ok (.inside path .directory)
    else if name = ".." then
      .ok (if path = [] then .outside else .inside path.dropLast .directory)
    else if maxName < name.utf8ByteSize then .error .nameTooLong
    else
      match folder.find? (path ++ [name]) with
      | some entry => .ok (.inside (path ++ [name]) entry)
      | none => .error .notFound
  | .outside, name =>
    if name = "" ∨ name = "." ∨ name = ".." then .ok .outside
    else if maxName < name.utf8ByteSize then .error .nameTooLong
    else .error .notFound

/-- The bytes of the file at a path. -/
def read (folder : Folder) (path : String) : Except OpenError (List UInt8) := do
  if path = "" then
    .error .notFound
  if maxPath < path.utf8ByteSize then
    .error .nameTooLong
  let start : Place := if path.startsWith "/" then .outside else .inside [] .directory
  match ← (names path).foldlM (step folder) start with
  | .inside _ (.file bytes) => return bytes
  | .inside _ .directory | .outside => .error .isDirectory

end Folder

end MarkupTree.CommandLine
