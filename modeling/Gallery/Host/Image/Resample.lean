import Gallery.Hash.Raster

/-!
Resampling an image to the grid of nine columns and eight rows by a triangle filter, first the rows
and then the columns, in single precision.
-/

namespace Gallery.Host

namespace Resample

def triangle (x : Float32) : Float32 :=
  if x.abs < 1.0 then 1.0 - x.abs else 0.0

def clamp (low high : Nat) (x : Float32) : Nat :=
  (max (low : Int) (min (high : Int) x.toInt64.toInt)).toNat

/-- The first sample that counts for output `o` when `n` samples become `m`, and the weights of the
samples from there on. The weights sum up to one. -/
def weights (n m o : Nat) : Nat × List Float32 :=
  let ratio := Float32.ofNat n / Float32.ofNat m
  let radius := if ratio < 1.0 then 1.0 else ratio
  let center := (Float32.ofNat o + 0.5) * ratio
  let left := clamp 0 (n - 1) (center - radius).floor
  let right := clamp (left + 1) n (center + radius).ceil
  let raw := (List.range (right - left)).map fun i =>
    triangle ((Float32.ofNat (left + i) - (center - 0.5)) / radius)
  let total := raw.foldl (· + ·) 0.0
  (left, raw.map (· / total))

def sum (value : Nat → Float32) (left : Nat) (weights : List Float32) : Float32 :=
  (weights.foldl (fun (sum, i) weight => (sum + value i * weight, i + 1)) ((0.0 : Float32), left)).1

def toSample (maximum : Nat) (x : Float32) : Nat :=
  let top := Float32.ofNat maximum
  (if x < 0.0 then 0.0 else if top < x then top else x).round.toUInt64.toNat

end Resample

def Resample.channel (raster : Raster) (channel : Nat) : Array Nat :=
  if raster.width = 0 ∨ raster.height = 0 then #[]
  else
    let columns := (List.range gridWidth).map (weights raster.width gridWidth)
    ((List.range gridHeight).flatMap fun v =>
      let row := weights raster.height gridHeight v
      columns.map fun column =>
        toSample raster.maximum (sum
          (fun x => sum (fun y => Float32.ofNat (raster.sample channel x y)) row.1 row.2)
          column.1 column.2)).toArray

end Gallery.Host
