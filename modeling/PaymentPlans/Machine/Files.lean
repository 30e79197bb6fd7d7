/-
# Files and directories

A tree of files is known by the paths of its files and of its directories.  A directory is there
if it was made or if there is a file under it.  The text of a path is followed name by name, and
all names but the last have to lead to directories that are there.
-/

namespace PaymentPlans

/-- A path from the root: the names on the way. -/
abbrev Path := List String

/-- A file. -/
structure File where
  path : Path
  text : String
  /-- Whether only its owner may read it. -/
  isPrivate : Bool := false
deriving DecidableEq, Repr

/-- Files and directories. -/
structure FileTree where
  files : List File := []
  /-- The directories that were made. -/
  directories : List Path := []
deriving Repr

namespace Path

/-- Follows a name from a path.  No name and one dot stay, two dots lead back. -/
def follow (path : Path) (name : String) : Path :=
  if name = "" ∨ name = "." then path
  else if name = ".." then path.dropLast
  else path ++ [name]

/-- The names in the text of a path, between its slashes. -/
def names (text : String) : List String := (text.toList.splitOn '/').map String.ofList

/-- Where the text of a path starts from: the root if it begins with a slash, else a directory. -/
def start (directory : Path) (text : String) : Path :=
  if text.toList.head? = some '/' then [] else directory

end Path

namespace FileTree

/-- The file at a path, if there is one. -/
def file? (tree : FileTree) (path : Path) : Option File := tree.files.find? (·.path == path)

/-- Whether there is a directory at a path. -/
def hasDirectory (tree : FileTree) (path : Path) : Bool :=
  path.isEmpty || (tree.files.any fun f => path.isPrefixOf f.path && path != f.path) ||
    tree.directories.any fun d => path.isPrefixOf d

/-- Whether there is anything at a path. -/
def has (tree : FileTree) (path : Path) : Bool :=
  (tree.file? path).isSome || tree.hasDirectory path

/-- Follows a name to a directory, if there is one. -/
def enter? (tree : FileTree) (path : Path) (name : String) : Option Path :=
  if tree.hasDirectory (path.follow name) then some (path.follow name) else none

/-- The path that a text leads to from a directory.  There need not be anything at its end, but
all names before the last one have to lead to directories.  No text leads nowhere. -/
def resolve? (tree : FileTree) (directory : Path) (text : String) : Option Path :=
  if text = "" then none
  else do
    let names := Path.names text
    let path ← names.dropLast.foldlM tree.enter? (Path.start directory text)
    return path.follow (names.getLast?.getD "")

/-- Makes a directory, unless it is there or a file is in the way. -/
def makeOne? (tree : FileTree) (path : Path) : Option FileTree :=
  if tree.hasDirectory path then some tree
  else if (tree.file? path).isSome then none
  else some { tree with directories := tree.directories ++ [path] }

/-- Follows a text from a directory, and makes the directories that are missing on the way. -/
def makeDirectories? (tree : FileTree) (directory : Path) (text : String) : Option FileTree := do
  let (tree, _) ← (Path.names text).foldlM (fun (state : FileTree × Path) name => do
    let path := state.2.follow name
    return (← state.1.makeOne? path, path)) (tree, Path.start directory text)
  return tree

/-- Writes a file, over the one that is there, if any; the directory that it is in has to be
there. -/
def write? (tree : FileTree) (path : Path) (text : String) : Option FileTree :=
  if tree.hasDirectory path || !tree.hasDirectory path.dropLast then none
  else match tree.file? path with
    | none => some { tree with files := tree.files ++ [{ path, text }] }
    | some _ => some { tree with
        files := tree.files.map fun f => if f.path == path then { f with text } else f }

/-- Lets only the owner read what is at a path. -/
def makePrivate? (tree : FileTree) (path : Path) : Option FileTree :=
  if tree.has path then
    some { tree with
      files := tree.files.map fun f => if f.path == path then { f with isPrivate := true } else f }
  else none

end FileTree

end PaymentPlans
