import Gallery.Platform
import Gallery.Host.Image.Imaging
import Gallery.Host.Regex.Engine

/-!
The platform on which the program runs.
-/

namespace Gallery.Host

def platform (files : Files) : Platform :=
  ⟨files, imaging, Regex.engine⟩

end Gallery.Host
