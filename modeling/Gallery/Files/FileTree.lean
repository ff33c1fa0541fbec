import Gallery.Files.Basic

/-!
The files and directories below a working directory, and the paths that lead to them. A path is
walked name by name from the working directory; every name but the last must lead to a directory.
-/

namespace Gallery

/-- The entries below a working directory by the names that lead to them. The directory itself is
not listed. -/
structure FileTree where
  entries : List (List String × FileEntry)
  deriving DecidableEq, Repr

/-- Where a walk stands: at an entry below the working directory, or in a directory that contains it
and of which nothing else is known. -/
inductive Place where
  | within (names : List String)
  | above
  deriving DecidableEq, Repr

namespace FileTree

def empty : FileTree := ⟨[]⟩

def entry? (tree : FileTree) (names : List String) : Option FileEntry :=
  if names.isEmpty then some .directory else tree.entries.lookup names

def entryAt? (tree : FileTree) : Place → Option FileEntry
  | .within names => tree.entry? names
  | .above => some .directory

def next : Place → String → Option Place
  | place, "" | place, "." => some place
  | .within names, ".." => some (if names.isEmpty then .above else .within names.dropLast)
  | .within names, name => some (.within (names ++ [name]))
  | .above, ".." => some .above
  | .above, _ => none

def walk (tree : FileTree) : Place → FileEntry → List String → Except WalkError FileEntry
  | _, entry, [] => .ok entry
  | place, entry, name :: rest =>
      match entry with
      | .file _ => .error .notDirectory
      | .directory =>
          match next place name with
          | none => .error .notFound
          | some place =>
              match tree.entryAt? place with
              | none => .error .notFound
              | some entry => tree.walk place entry rest

def start (path : String) : Place :=
  if path.startsWith "/" then .above else .within []

def find (tree : FileTree) (path : String) : Except WalkError FileEntry :=
  if path.toList.contains '\x00' then .error .invalidName
  else if path.isEmpty then .error .notFound
  else tree.walk (start path) .directory (path.splitOn "/")

def view (tree : FileTree) : Files :=
  ⟨tree.find⟩

/-- The names that lead to where a path ends, whether or not there is an entry. A path that ends
elsewhere than below the working directory has none. -/
def namesOf? (path : String) : Option (List String) :=
  match (path.splitOn "/").foldlM next (start path) with
  | some (.within names) => some names
  | _ => none

def put (tree : FileTree) (names : List String) (entry : FileEntry) : FileTree :=
  ⟨tree.entries.filter (·.1 != names) ++ [(names, entry)]⟩

def isDirectory (tree : FileTree) (names : List String) : Bool :=
  tree.entry? names == some .directory

def ensureDirectory (tree : FileTree) (names : List String) : FileTree :=
  if (tree.entry? names).isSome || !tree.isDirectory names.dropLast then tree
  else tree.put names .directory

def makeDirectories (tree : FileTree) (names : List String) : FileTree :=
  (List.range (names.length + 1)).foldl (fun tree n => tree.ensureDirectory (names.take n)) tree

def writeFile (tree : FileTree) (names : List String) (content : List UInt8) : FileTree :=
  (tree.makeDirectories names.dropLast).put names (.file content)

def removeFile (tree : FileTree) (path : String) : FileTree × Bool :=
  match tree.find path, namesOf? path with
  | .ok (.file _), some names => (⟨tree.entries.filter (·.1 != names)⟩, true)
  | _, _ => (tree, false)

def files (tree : FileTree) : List String :=
  (tree.entries.filterMap fun (names, entry) =>
    match entry with
    | .file _ => some (String.intercalate "/" names)
    | .directory => none).mergeSort

end FileTree

end Gallery
