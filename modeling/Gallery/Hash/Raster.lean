import Gallery.Hash.PictureHash

/-!
From the samples of an image to its difference hash. The image is resampled to a grid of nine
columns and eight rows, the brightness of every cell is computed, and each of the 64 bits tells
whether a cell is darker than its right neighbour. All arithmetic is in single precision.
-/

namespace Gallery

/-- An image: rows from top to bottom, pixels from left to right, the channels of a pixel side by
side. One or two channels are gray, three or four are red, green and blue; a second or fourth
channel is opacity, which plays no role. -/
structure Raster where
  width : Nat
  height : Nat
  channels : Nat
  /-- The value of a full sample: 255 or 65535. -/
  maximum : Nat
  samples : Array Nat

def gridWidth : Nat := 9

def gridHeight : Nat := 8

structure HashScan where
  bits : BitVec 64
  place : Nat

namespace HashScan

def compare (scan : HashScan) (left right : Nat) : HashScan :=
  ⟨if left < right then scan.bits ||| (1#64 <<< scan.place) else scan.bits, scan.place + 1⟩

def compareCells (brightness : Nat → Nat → Nat) (count : Nat) (scan : HashScan) (y : Nat) :
    HashScan :=
  (List.range count).foldl
    (fun scan x => scan.compare (brightness x y) (brightness (x + 1) y)) scan

def compareRows (brightness : Nat → Nat → Nat) (count : Nat) : HashScan :=
  (List.range count).foldl (compareCells brightness (gridWidth - 1)) ⟨0#64, 0⟩

end HashScan

/-- The hash of a grid: row by row, one bit for every cell that has a right neighbour. -/
def differenceHash (brightness : Nat → Nat → Nat) : PictureHash :=
  ⟨(HashScan.compareRows brightness gridHeight).bits⟩

structure Color where
  red : Nat
  green : Nat
  blue : Nat
  deriving DecidableEq, Repr, Inhabited

def Color.luma (color : Color) : Nat :=
  (Float32.ofNat color.red * 0.299 + Float32.ofNat color.green * 0.587 +
    Float32.ofNat color.blue * 0.114).toUInt8.toNat

namespace Raster

def sample (raster : Raster) (channel x y : Nat) : Nat :=
  raster.samples.getD ((y * raster.width + x) * raster.channels + channel) 0

section Grid

variable (resample : Raster → (channel : Nat) → Array Nat)

/-- The cells of a channel on the grid. An image of the grid's size is taken as it is. -/
def grid (raster : Raster) (channel : Nat) : Array Nat :=
  if raster.width = gridWidth ∧ raster.height = gridHeight then
    ((List.range (gridWidth * gridHeight)).map fun p =>
      raster.sample channel (p % gridWidth) (p / gridWidth)).toArray
  else resample raster channel

def toByte (raster : Raster) (sample : Nat) : Nat :=
  if raster.maximum = 65535 then (sample + 128) / 257 else sample

def colors (raster : Raster) : Array Color :=
  let cells := fun channel => (raster.grid resample channel).map raster.toByte
  let red := cells 0
  let green := if raster.channels < 3 then red else cells 1
  let blue := if raster.channels < 3 then red else cells 2
  ((List.range (gridWidth * gridHeight)).map fun p =>
    ⟨red.getD p 0, green.getD p 0, blue.getD p 0⟩).toArray

def hashBy (brightness : Color → Nat) (raster : Raster) : PictureHash :=
  let cells := (raster.colors resample).map brightness
  differenceHash fun x y => cells.getD (y * gridWidth + x) 0

def hash (raster : Raster) : PictureHash :=
  raster.hashBy resample Color.luma

end Grid

end Raster

end Gallery
