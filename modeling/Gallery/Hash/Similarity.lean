import Gallery.Hash.PictureHash

/-!
How alike two picture hashes are: the number of bits in which they differ, and a confidence that
falls with it. Hashes that differ in at most ten bits are similar.
-/

namespace Gallery

def similarityThreshold : Nat := 10

/-- The confidence that pictures show the same when their hashes differ in `distance` bits, in
single precision: it falls by equal steps up to the threshold, where it is still positive, and is
zero beyond. -/
def confidenceAt (distance : Nat) : Float32 :=
  if distance ≤ similarityThreshold then
    (11.0 - Float32.ofNat distance - 0.1) / 11.0
  else 0.0

namespace PictureHash

def distance (a b : PictureHash) : Nat :=
  (List.range 64).countP fun i => (a.bits ^^^ b.bits).getLsbD i

def isSimilar (a b : PictureHash) : Bool :=
  a.distance b ≤ similarityThreshold

def confidence (a b : PictureHash) : Float32 :=
  confidenceAt (a.distance b)

end PictureHash

end Gallery
