import Gallery.Files.ImageFile
import Gallery.Pattern.WholeMatch

/-!
What a library works with and is not part of: the files, a library of images and an engine of
regular expressions.
-/

namespace Gallery

structure Platform where
  files : Files
  imaging : Imaging
  engine : Pattern.Engine

def Platform.hashOfFile (platform : Platform) (path : Text.RawText) :
    Except HashError PictureHash :=
  platform.imaging.hashOfFile platform.files path

end Gallery
