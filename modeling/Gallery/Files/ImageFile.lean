import Gallery.Files.Basic
import Gallery.Hash.Raster
import Gallery.Text.RawText
import Gallery.Text.Record

/-!
The hash of an image file. Opening files as images, decoding them and resampling them is up to a
library of images.
-/

namespace Gallery

inductive ImageFailure where
  | unreadable (detail : String)
  | undecodable (detail : String)
  deriving DecidableEq, Repr

def ImageFailure.detail : ImageFailure → String
  | unreadable detail => Text.wrapped "IoError" [detail]
  | undecodable detail => detail

/-- A library of images: the image in a file, the image with a content, and the samples of a channel
of an image on the grid. -/
structure Imaging where
  imageAt : Files → Text.RawText → Except ImageFailure Raster
  imageOf : (content : List UInt8) → Except ImageFailure Raster
  resample : Raster → (channel : Nat) → Array Nat

inductive HashError where
  | unreadable (path : Text.RawText) (detail : String)
  | undecodable (detail : String)
  deriving DecidableEq, Repr

def HashError.message : HashError → String
  | unreadable path _ => "could not read " ++ path.lossy
  | undecodable _ => "could not decode image"

namespace Imaging

variable (imaging : Imaging)

def hashOfContent (content : List UInt8) : Except HashError PictureHash :=
  match imaging.imageOf content with
  | .ok raster => .ok (raster.hash imaging.resample)
  | .error failure => .error (.undecodable failure.detail)

def hashOfFile (files : Files) (path : Text.RawText) : Except HashError PictureHash :=
  match imaging.imageAt files path with
  | .ok raster => .ok (raster.hash imaging.resample)
  | .error (.unreadable detail) => .error (.unreadable path detail)
  | .error (.undecodable detail) => .error (.undecodable detail)

end Imaging

end Gallery
