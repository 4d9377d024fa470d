import Reshape.Source

/-!
# File trees

Folders and files by their names, and what a path leads to among them. A tree stands in for the
files of a system wherever the program runs without one.
-/

namespace Reshape

/-- A file, or a folder with what it holds. -/
inductive FileTree where
  | file (content : String)
  | folder (entries : List (String × FileTree))

namespace FileTree

/-- The bytes that one name may have. -/
def nameLimit : Nat := 255

/-- The bytes that a whole path may have. -/
def pathLimit : Nat := 4095

/--
Follows the names of a path. The folders above the current place come nearest first, and there is
nothing above the root but the root itself. A file ends the path: not even a slash may follow it.
-/
def follow (place : FileTree) (above : List FileTree) :
    List String → Except OpenFailure FileTree
  | [] => .ok place
  | name :: rest =>
    match place with
    | .file _ => .error .notFolder
    | .folder entries =>
      if name = "" ∨ name = "." then follow place above rest
      else if name = ".." then
        match above with
        | [] => follow place [] rest
        | parent :: above => follow parent above rest
      else if nameLimit < name.utf8ByteSize then .error .nameTooLong
      else
        match entries.lookup name with
        | none => .error .absent
        | some next => follow next (place :: above) rest

/-- What can be read at a place. A folder opens, but has no text. -/
def source : FileTree → Source
  | .file content => .text content
  | .folder _ => .unreadable

/-- Opens a path. One that does not start at the root starts at the working folder. -/
def openPath (root : FileTree) (workingFolder : List String) (path : String) :
    Except OpenFailure Source := do
  if pathLimit < path.utf8ByteSize then throw .nameTooLong
  let names := path.splitOn "/"
  let start := if path.startsWith "/" then [] else workingFolder
  return (← root.follow [] (start ++ names)).source

end FileTree

end Reshape
