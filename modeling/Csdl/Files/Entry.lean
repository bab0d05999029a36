/-!
Files and directories as one tree, and what the segments of a path lead to in it.
-/

namespace Csdl.Files

/-- A file with its bytes, or a directory with its entries. -/
inductive Entry where
  | file (bytes : List UInt8)
  | directory (entries : List (String × Entry))

namespace Entry

/-- Whether an entry is a file. -/
def isFile : Entry → Bool
  | file _ => true
  | directory _ => false

/-- The bytes of a file. A directory cannot be read. -/
def bytes? : Entry → Option (List UInt8)
  | file bytes => some bytes
  | directory _ => none

/-- The entries of a directory. A file has none. -/
def entries : Entry → List (String × Entry)
  | file _ => []
  | directory entries => entries

/-- A directory with nothing in it. -/
def empty : Entry :=
  directory []

/-- What segments lead to from an entry on. `above` holds the directories around it, the nearest
first; two dots stay where there is none. Only a directory has anything behind it, be it nothing or
a dot. -/
def descend? (above : List Entry) (current : Entry) : List (List Char) → Option Entry
  | [] => some current
  | segment :: rest =>
    match current with
    | file _ => none
    | directory entries =>
      if segment = [] || segment = ['.'] then descend? above current rest
      else if segment = ['.', '.'] then
        match above with
        | [] => descend? [] current rest
        | parent :: above => descend? above parent rest
      else
        match entries.lookup (String.ofList segment) with
        | none => none
        | some entry => descend? (current :: above) entry rest

mutual

/-- Everything in an entry, with the names that lead to it. -/
def inside : Entry → List (List String × Entry)
  | file _ => []
  | directory entries => insideAll entries

/-- Everything in a list of entries, with the names that lead to it. -/
def insideAll : List (String × Entry) → List (List String × Entry)
  | [] => []
  | (name, entry) :: rest =>
    ([name], entry) :: (inside entry).map (fun (names, inner) => (name :: names, inner)) ++
      insideAll rest

end

/-- The entries of a directory with one of them in a new place or changed. -/
def put (name : String) (entry : Entry) : List (String × Entry) → List (String × Entry)
  | [] => [(name, entry)]
  | (other, old) :: rest =>
    if other = name then (name, entry) :: rest else (other, old) :: put name entry rest

/-- The tree with one place changed, to which names lead. Missing directories are made. -/
def modifyAt (change : Entry → Entry) (tree : Entry) : List String → Entry
  | [] => change tree
  | name :: names =>
    let inner := (tree.entries.lookup name).getD empty
    directory (put name (modifyAt change inner names) tree.entries)

/-- The tree with all directories along a path, and the names that lead to its end in reverse,
behind the names `done`, which are held in reverse too. Directories that are there stay. -/
def alongPath (tree : Entry) (done : List String) : List (List Char) → Entry × List String
  | [] => (tree, done)
  | segment :: rest =>
    if segment = [] || segment = ['.'] then alongPath tree done rest
    else if segment = ['.', '.'] then alongPath tree done.tail rest
    else
      let done := String.ofList segment :: done
      alongPath (modifyAt id tree done.reverse) done rest

/-- The tree with all directories of a path. -/
def withDirectory (tree : Entry) (path : String) : Entry :=
  (alongPath tree [] (path.toList.splitOn '/')).1

/-- The tree with a file at the end of a path, in all directories of the path. -/
def withFile (tree : Entry) (path : String) (bytes : List UInt8) : Entry :=
  let segments := path.toList.splitOn '/'
  let (tree, done) := alongPath tree [] segments.dropLast
  let name := String.ofList (segments.getLast?.getD [])
  modifyAt (fun _ => file bytes) tree (name :: done).reverse

end Entry

end Csdl.Files
