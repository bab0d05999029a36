import Csdl.Files.Entry

/-!
A file system: one tree from the root on, and the directory in it from which paths are followed that
do not begin at the root. A path that is too long leads to nothing.
-/

namespace Csdl.Files

/-- The number of bytes of a path. -/
def byteLength (path : List Char) : Nat :=
  path.foldl (fun count c => count + c.utf8Size) 0

/-- A path may have 4095 bytes. -/
def isTooLong (path : List Char) : Bool :=
  4095 < byteLength path

/-- All that there is from the root on, and the names that lead from there to the working
directory. -/
structure System where
  root : Entry
  working : List String

namespace System

/-- The file system in which there is only a working directory, with a name below the root. -/
def around (name : String) (entry : Entry) : System :=
  { root := .directory [(name, entry)], working := [name] }

/-- The segments that are followed from the root on to where a path leads. Unless it begins with a
slash itself, those of the working directory come first. -/
def route (system : System) (path : List Char) : List (List Char) :=
  if path.head? = some '/' then path.splitOn '/'
  else system.working.map String.toList ++ path.splitOn '/'

/-- What a path leads to. -/
def at? (system : System) (path : List Char) : Option Entry :=
  if path.isEmpty || isTooLong path then none
  else system.root.descend? [] (system.route path)

/-- Whether a path leads to a file. -/
def isFileAt (system : System) (path : List Char) : Bool :=
  (system.at? path).any Entry.isFile

/-- The bytes of the file that a path leads to. -/
def bytesAt? (system : System) (path : List Char) : Option (List UInt8) :=
  (system.at? path).bind Entry.bytes?

end System

/-- A search for paths: what it finds for a text that is a pattern, in the order in which it finds
it. Other texts are refused. -/
abbrev Search := System → List Char → Option (List (List Char))

end Csdl.Files
