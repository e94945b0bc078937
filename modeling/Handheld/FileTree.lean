import Handheld.File

/-! A directory with all the files below it. -/

namespace Handheld

/-- Files by their paths below one directory; a path is a list of names. What stands above a
file is a directory.
-/
structure FileTree where
  entries : List (List String × File) := []
  deriving DecidableEq, Inhabited

namespace FileTree

/-- What a path holds. -/
def get (tree : FileTree) (path : List String) : File :=
  match tree.entries.find? (·.1 == path) with
  | some (_, file) => file
  | none =>
      if path.isEmpty ∨ tree.entries.any (path.isPrefixOf ·.1) then .directory else .absent

/-- Puts a file at a path in the place of all that was there. An absent file removes it, and
a directory that is already there stays as it is.
-/
def put (tree : FileTree) (path : List String) (file : File) : FileTree :=
  let others := tree.entries.filter fun entry => !path.isPrefixOf entry.1
  match file with
  | .absent => ⟨others⟩
  | .directory => if tree.get path = .directory then tree else ⟨others ++ [(path, .directory)]⟩
  | .bytes content => ⟨others ++ [(path, .bytes content)]⟩

/-- The names in a directory, each once and in no particular order. -/
def names (tree : FileTree) (directory : List String) : List String :=
  (tree.entries.filterMap fun (path, _) =>
    if directory.isPrefixOf path then (path.drop directory.length).head? else none).eraseDups

/-- Follows names from a directory that exists. Nothing lies beyond a file, beyond a missing
name or outside the tree.
-/
def follow (tree : FileTree) : (directory path : List String) → File
  | directory, [] => tree.get directory
  | directory, name :: rest =>
      if tree.get directory ≠ .directory then .absent
      else if name = "" ∨ name = "." then tree.follow directory rest
      else if name = ".." then
        if directory.isEmpty then .absent else tree.follow directory.dropLast rest
      else tree.follow (directory ++ [name]) rest

/-- What a written path holds, seen from the top of the tree. -/
def at? (tree : FileTree) (path : String) : File :=
  if path.isEmpty ∨ path.startsWith "/" then .absent else tree.follow [] (path.splitOn "/")

end FileTree

end Handheld
