/-!
What paths lead to.
-/

namespace Gallery

inductive FileEntry where
  | file (content : List UInt8)
  | directory
  deriving DecidableEq, Repr

inductive WalkError where
  | notFound
  | notDirectory
  | invalidName
  deriving DecidableEq, Repr

structure Files where
  find : String → Except WalkError FileEntry

def Files.ofList (entries : List (String × Except WalkError FileEntry)) : Files :=
  ⟨fun path => (entries.lookup path).getD (.error .notFound)⟩

def Files.contains (files : Files) (path : String) : Bool :=
  (files.find path).isOk

end Gallery
