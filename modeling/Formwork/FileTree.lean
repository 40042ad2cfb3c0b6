import Formwork.Text.Cut
import Formwork.Text.Utf8

/-! # Trees of files

A tree holds files by the names that lead to them. A directory is there as far as
a file lies below it. Texts name places in a tree with slashes between names.
-/

namespace Formwork

/-- Files by the names on the way to them. -/
structure FileTree where
  files : List (List String × Bytes) := []

namespace FileTree

/-- The names of a path; empty ones and a single full stop lead nowhere. -/
def names (path : String) : List String :=
  (Text.split '/' path).filter fun name => name != "" && name != "."

/-- The tree with files at the given paths. -/
def ofList (files : List (String × Bytes)) : FileTree :=
  ⟨files.map fun (path, content) => (names path, content)⟩

/-- The content of the file at a place. -/
def file? (t : FileTree) (place : List String) : Option Bytes := t.files.lookup place

/-- A directory is at the place. -/
def isDirectory (t : FileTree) (place : List String) : Bool :=
  t.files.any fun (names, _) => place.isPrefixOf names && names != place

/-- The content of the file at a path. What ends in a slash, perhaps with a full stop
behind it, is no file. -/
def read? (t : FileTree) (path : String) : Option Bytes :=
  if Text.hasTail "/" path || Text.hasTail "/." path then none else t.file? (names path)

/-- The last name of a path. -/
def lastName? (path : String) : Option String := (names path).getLast?.filter (· != "..")

end FileTree

end Formwork
