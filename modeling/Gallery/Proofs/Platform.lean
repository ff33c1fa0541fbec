import Gallery.Platform
import Gallery.Proofs.Pattern.Sample

/-!
A platform to look at single libraries with: none of its files is an image, and its patterns are
those of the small engine.
-/

namespace Gallery.Platform

def bare (entries : List (String × Except WalkError FileEntry)) : Platform where
  files := .ofList entries
  imaging :=
    { imageAt := fun _ _ => .error (.unreadable "")
      imageOf := fun _ => .error (.undecodable "")
      resample := fun _ _ => #[] }
  engine := Pattern.Sample.engine

end Gallery.Platform
