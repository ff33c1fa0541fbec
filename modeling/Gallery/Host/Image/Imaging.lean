import Gallery.Files.ImageFile
import Gallery.Host.Image.Netpbm
import Gallery.Host.Image.Resample

/-!
The library of images with which the program runs. The kind of an image is told from the extension
of the file's name, whatever the content; of the kinds that are known, the Netpbm images can be
decoded. It stands in for a library that is not part of the program: what is proved of the program
is proved for every library of images.
-/

namespace Gallery.Host

open Text (quoted record wrapped)

def fileReport (code : Nat) (kind message : String) : String :=
  record "Os" [("code", toString code), ("kind", kind), ("message", quoted message)]

def plainReport (kind message : String) : String :=
  record "Error" [("kind", kind), ("message", quoted message)]

def walkDetail : WalkError → String
  | .notFound => fileReport 2 "NotFound" "No such file or directory"
  | .notDirectory => fileReport 20 "NotADirectory" "Not a directory"
  | .invalidName => plainReport "InvalidInput" "file name contained an unexpected NUL byte"

def decodingDetail (format : String) (cause : Option String) : String :=
  wrapped "Decoding" [record "DecodingError" [("format", wrapped "Exact" [format]),
    ("underlying", Text.optional cause)]]

def formatName : String → String
  | "avif" => "Avif"
  | "jpg" | "jpeg" | "jfif" => "Jpeg"
  | "png" | "apng" => "Png"
  | "gif" => "Gif"
  | "webp" => "WebP"
  | "tif" | "tiff" => "Tiff"
  | "tga" => "Tga"
  | "dds" => "Dds"
  | "bmp" => "Bmp"
  | "ico" => "Ico"
  | "hdr" => "Hdr"
  | "exr" => "OpenExr"
  | "ff" => "Farbfeld"
  | "qoi" => "Qoi"
  | _ => "Pnm"

def formatFault? : String → Option String
  | "Png" => some (wrapped "Format" [record "FormatError" [("inner", "InvalidSignature")]])
  | "Bmp" => some "BmpSignatureInvalid"
  | _ => none

def extensionOfName? (name : String) : Option String :=
  let reversed := name.toList.reverse
  let extension := reversed.takeWhile (· != '.')
  if reversed.length ≤ extension.length + 1 then none
  else some (String.ofList extension.reverse)

def extension? (path : String) : Option String :=
  match ((path.splitOn "/").filter fun name => name != "" && name != ".").getLast? with
  | none | some ".." => none
  | some name => extensionOfName? name

def netpbmExtensions : List String := ["pbm", "pam", "ppm", "pgm", "pnm"]

def otherExtensions : List String :=
  ["avif", "jpg", "jpeg", "jfif", "png", "apng", "gif", "webp", "tif", "tiff", "tga", "dds", "bmp",
    "ico", "hdr", "exr", "ff", "qoi"]

def unknownKind : ImageFailure :=
  .undecodable (wrapped "Unsupported" [record "UnsupportedError" [("format", "Unknown"),
    ("kind", wrapped "Format" ["Unknown"])]])

def malformed (error : ImageError) : ImageFailure :=
  .undecodable (decodingDetail "Pnm" (some error.detail))

def imageOfKind (extension : String) (content : List UInt8) : Except ImageFailure Raster :=
  if !netpbmExtensions.contains extension then
    .error (.undecodable (decodingDetail (formatName extension) (formatFault? (formatName extension))))
  else
    match Netpbm.read content with
    | .ok raster => .ok raster
    | .error .noMagic =>
        .error (.unreadable (plainReport "UnexpectedEof" "failed to fill whole buffer"))
    | .error .headerEnds => .error (.unreadable (wrapped "Kind" ["UnexpectedEof"]))
    | .error error => .error (malformed error)

def imageAt (files : Files) (path : Text.RawText) : Except ImageFailure Raster :=
  let text := path.lossy
  match if path.text?.isSome then files.find text else .error .notFound with
  | .error error => .error (.unreadable (walkDetail error))
  | .ok entry =>
      match (extension? text).map (·.map Char.toLower) with
      | none => .error unknownKind
      | some extension =>
          if !(netpbmExtensions ++ otherExtensions).contains extension then .error unknownKind
          else
            match entry with
            | .directory => .error (.unreadable (fileReport 21 "IsADirectory" "Is a directory"))
            | .file content => imageOfKind extension content

def imaging : Imaging where
  imageAt := imageAt
  imageOf content := (Netpbm.read content).mapError malformed
  resample := Resample.channel

end Gallery.Host
