import Mathlib.Data.Fintype.Prod
import Mathlib.Logic.Equiv.Fin.Basic
import Gallery.Hash.Raster
import Gallery.Proofs.Hash.Distance

/-!
The comparisons of a difference hash. After any number of comparisons the place of the next bit is
that number, and every bit before it tells the outcome of its own comparison (`Placed`), so each of
the 64 comparisons has a bit of its own (`comparisons_placed`).
-/

namespace Gallery

namespace PictureHash

/-- The places of the 64 bits by row and column. -/
def placeOf : Fin 8 × Fin 8 ≃ Fin 64 :=
  finProdFinEquiv

theorem placeOf_val (cell : Fin 8 × Fin 8) : (placeOf cell : Nat) = 8 * cell.1 + cell.2 :=
  Nat.add_comm _ _

theorem distance_eq_cells (a b : PictureHash) :
    a.distance b = (Finset.univ.filter fun cell : Fin 8 × Fin 8 =>
      a.bits.getLsbD (8 * cell.1 + cell.2) ≠ b.bits.getLsbD (8 * cell.1 + cell.2)).card := by
  rw [distance_eq_hammingDist, hammingDist]
  refine (Finset.card_equiv placeOf fun cell => ?_).symm
  rw [Finset.mem_filter_univ, Finset.mem_filter_univ, bitAt, bitAt, placeOf_val]

theorem eq_iff_cells (a b : PictureHash) :
    a = b ↔ ∀ y < 8, ∀ x < 8,
      a.bits.getLsbD (8 * y + x) = b.bits.getLsbD (8 * y + x) := by
  rw [← distance_eq_zero_iff, distance_eq_cells, Finset.card_eq_zero, Finset.filter_eq_empty_iff]
  constructor
  · intro same y row x column
    exact not_not.mp (same (Finset.mem_univ (⟨y, row⟩, ⟨x, column⟩)))
  · intro same cell _
    exact not_not.mpr (same cell.1 cell.1.isLt cell.2 cell.2.isLt)

end PictureHash

namespace HashScan

theorem compare_bits (scan : HashScan) (left right p : Nat) (inside : scan.place < 64) :
    (scan.compare left right).bits.getLsbD p =
      (scan.bits.getLsbD p || (decide (p = scan.place) && decide (left < right))) := by
  rw [compare, ← BitVec.twoPow_eq]
  by_cases darker : left < right
  · rw [if_pos darker, BitVec.getLsbD_or, BitVec.getLsbD_twoPow]
    simp [inside, darker, eq_comm]
  · rw [if_neg darker]
    simp [darker]

/-- The comparison of place `p`. -/
def DarkerAt (brightness : Nat → Nat → Nat) (p : Nat) : Prop :=
  brightness (p % 8) (p / 8) < brightness (p % 8 + 1) (p / 8)

instance (brightness : Nat → Nat → Nat) (p : Nat) : Decidable (DarkerAt brightness p) :=
  inferInstanceAs (Decidable (_ < _))

/-- After the first `count` comparisons: the next place, and the bits before it. -/
structure Placed (brightness : Nat → Nat → Nat) (count : Nat) (scan : HashScan) : Prop where
  place : scan.place = count
  bits : ∀ p, scan.bits.getLsbD p = (decide (p < count) && decide (DarkerAt brightness p))

section Scan

variable (brightness : Nat → Nat → Nat)

theorem placed_start : Placed brightness 0 ⟨0#64, 0⟩ :=
  ⟨rfl, by simp⟩

theorem Placed.compare {brightness : Nat → Nat → Nat} {scan : HashScan} {x y : Nat}
    (placed : Placed brightness (8 * y + x) scan) (column : x < 8) (row : y < 8) :
    Placed brightness (8 * y + (x + 1))
      (scan.compare (brightness x y) (brightness (x + 1) y)) := by
  have here : DarkerAt brightness (8 * y + x) ↔ brightness x y < brightness (x + 1) y := by
    rw [DarkerAt, show (8 * y + x) % 8 = x by omega, show (8 * y + x) / 8 = y by omega]
  refine ⟨by rw [HashScan.compare, placed.place, Nat.add_assoc], fun p => ?_⟩
  rw [compare_bits scan _ _ p (by rw [placed.place]; omega), placed.bits, placed.place]
  by_cases next : p = 8 * y + x
  · simp [next, here]
  · simp [next, show p < 8 * y + (x + 1) ↔ p < 8 * y + x by omega]

theorem Placed.cells {brightness : Nat → Nat → Nat} {scan : HashScan} {y : Nat}
    (placed : Placed brightness (8 * y) scan) (row : y < 8) (count : Nat) (inside : count ≤ 8) :
    Placed brightness (8 * y + count) (compareCells brightness count scan y) := by
  induction count with
  | zero => exact placed
  | succ count ih =>
      rw [compareCells, List.range_succ, List.foldl_append]
      exact (ih (by omega)).compare (by omega) row

theorem placed_rows (count : Nat) (inside : count ≤ 8) :
    Placed brightness (8 * count) (compareRows brightness count) := by
  induction count with
  | zero => exact placed_start brightness
  | succ count ih =>
      rw [compareRows, List.range_succ, List.foldl_append, Nat.mul_succ]
      exact (ih (by omega)).cells (by omega) 8 (Nat.le_refl 8)

/-- The state in which cell `(x, y)` is compared with its right neighbour. -/
def before (x y : Nat) : HashScan :=
  compareCells brightness x (compareRows brightness y) y

theorem before_place (x y : Nat) (column : x < 8) (row : y < 8) :
    (before brightness x y).place = 8 * y + x :=
  ((placed_rows brightness y (by omega)).cells row x (by omega)).place

theorem differenceHash_bits (x y : Nat) (column : x < 8) (row : y < 8) :
    (differenceHash brightness).bits.getLsbD (8 * y + x) =
      decide (brightness x y < brightness (x + 1) y) := by
  rw [differenceHash, (placed_rows brightness gridHeight (Nat.le_refl 8)).bits]
  simp [DarkerAt, gridHeight, show 8 * y + x < 64 by omega, show (8 * y + x) % 8 = x by omega,
    show (8 * y + x) / 8 = y by omega]

end Scan

end HashScan

namespace Raster

/-- The color of a pixel as it stands in the image; the parts of a gray one are the same. -/
def pixel (raster : Raster) (x y : Nat) : Color :=
  let part := fun channel => raster.toByte (raster.sample channel x y)
  if raster.channels < 3 then ⟨part 0, part 0, part 0⟩ else ⟨part 0, part 1, part 2⟩

/-- A pixel of the image is darker than its right neighbour. -/
def IsDarker (brightness : Color → Nat) (raster : Raster) (x y : Nat) : Prop :=
  brightness (raster.pixel x y) < brightness (raster.pixel (x + 1) y)

instance (brightness : Color → Nat) (raster : Raster) (x y : Nat) :
    Decidable (raster.IsDarker brightness x y) :=
  inferInstanceAs (Decidable (_ < _))

section Grid

variable (resample : Raster → Nat → Array Nat) (brightness : Color → Nat) (raster : Raster)
  (wide : raster.width = 9) (high : raster.height = 8)

include wide high

theorem grid_cell (channel x y : Nat) (column : x < 9) (row : y < 8) :
    (raster.grid resample channel)[y * 9 + x]? = some (raster.sample channel x y) := by
  have inside : y * 9 + x < 72 := by omega
  have rest : (y * 9 + x) % 9 = x := by omega
  have whole : (y * 9 + x) / 9 = y := by omega
  simp [grid, wide, high, gridWidth, gridHeight, inside, rest, whole]

theorem colors_cell (x y : Nat) (column : x < 9) (row : y < 8) :
    ((raster.colors resample).map brightness).getD (y * 9 + x) 0 = brightness (raster.pixel x y) := by
  have inside : y * 9 + x < 72 := by omega
  have cell := fun channel => raster.grid_cell resample wide high channel x y column row
  have color : (raster.colors resample)[y * 9 + x]? = some (raster.pixel x y) := by
    by_cases gray : raster.channels < 3 <;>
      simp [colors, pixel, gridWidth, gridHeight, inside, gray, cell]
  rw [Array.getD_eq_getD_getElem?, Array.getElem?_map, color]
  rfl

theorem hashBy_bits (x y : Nat) (column : x < 8) (row : y < 8) :
    (raster.hashBy resample brightness).bits.getLsbD (8 * y + x) =
      decide (raster.IsDarker brightness x y) := by
  rw [hashBy, HashScan.differenceHash_bits _ x y column row, gridWidth,
    raster.colors_cell resample brightness wide high x y (by omega) row,
    raster.colors_cell resample brightness wide high (x + 1) y (by omega) row]
  rfl

end Grid

/-- For every image of nine by eight pixels, however other sizes are resampled, and every way to tell
how bright a color is, the bit at place `8 * y + x` of its hash is set just when pixel `(x, y)` is darker than its right neighbour,
and no bit is shifted out of the 64. So images of that size have the same hash just when their
comparisons agree, and the distance of two hashes is the number of those that do not. -/
theorem comparisons_placed (resample : Raster → Nat → Array Nat) (brightness : Color → Nat)
    (raster : Raster) (wide : raster.width = 9) (high : raster.height = 8) :
    (∀ y < 8, ∀ x < 8, (raster.hashBy resample brightness).bits.getLsbD (8 * y + x) =
      decide (raster.IsDarker brightness x y)) ∧
    (∀ cells : Nat → Nat → Nat, ∀ y < 8, ∀ x < 8,
      (HashScan.before cells x y).place = 8 * y + x ∧ (HashScan.before cells x y).place < 64) ∧
    ∀ other : Raster, other.width = 9 → other.height = 8 →
      (raster.hashBy resample brightness = other.hashBy resample brightness ↔
        ∀ y < 8, ∀ x < 8, (raster.IsDarker brightness x y ↔ other.IsDarker brightness x y)) ∧
      (raster.hashBy resample brightness).distance (other.hashBy resample brightness) =
        (Finset.univ.filter fun cell : Fin 8 × Fin 8 =>
          ¬(raster.IsDarker brightness cell.2 cell.1 ↔
            other.IsDarker brightness cell.2 cell.1)).card := by
  have bits := raster.hashBy_bits resample brightness wide high
  refine ⟨fun y row x column => bits x y column row, ?_, fun other otherWide otherHigh => ?_⟩
  · intro cells y row x column
    rw [HashScan.before_place cells x y column row]
    exact ⟨rfl, by omega⟩
  · have otherBits := other.hashBy_bits resample brightness otherWide otherHigh
    constructor
    · rw [PictureHash.eq_iff_cells]
      refine forall₂_congr fun y row => forall₂_congr fun x column => ?_
      rw [bits x y column row, otherBits x y column row, decide_eq_decide]
    · rw [PictureHash.distance_eq_cells]
      congr 1
      apply Finset.filter_congr
      rintro ⟨y, x⟩ _
      rw [bits x y x.isLt y.isLt, otherBits x y x.isLt y.isLt, Ne, decide_eq_decide]

/-- A gray image of nine by eight pixels: in the first `rising` rows it gets brighter to the right,
in the others darker. -/
def ramps (rising : Nat) : Raster :=
  ⟨9, 8, 1, 255, ((List.range 72).map fun p =>
    if p / 9 < rising then 20 * (p % 9) else 20 * (8 - p % 9)).toArray⟩

/-- When the last row is turned round, its eight comparisons fail and all others stay. -/
theorem comparisons_placed_ramps :
    let resample : Raster → Nat → Array Nat := fun _ _ => #[]
    (ramps 8).width = 9 ∧ (ramps 8).height = 8 ∧ (ramps 7).width = 9 ∧ (ramps 7).height = 8 ∧
    ((ramps 8).hashBy resample Color.green).bits.getLsbD 63 = true ∧
    ((ramps 7).hashBy resample Color.green).bits.getLsbD 63 = false ∧
    ((ramps 7).hashBy resample Color.green).bits.getLsbD 55 = true ∧
    (ramps 8).hashBy resample Color.green ≠ (ramps 7).hashBy resample Color.green ∧
    ((ramps 8).hashBy resample Color.green).distance ((ramps 7).hashBy resample Color.green) = 8 := by
  intro resample
  obtain ⟨rising, _, others⟩ := comparisons_placed resample Color.green (ramps 8) rfl rfl
  obtain ⟨falling, _, _⟩ := comparisons_placed resample Color.green (ramps 7) rfl rfl
  obtain ⟨same, distance⟩ := others (ramps 7) rfl rfl
  refine ⟨rfl, rfl, rfl, rfl, (rising 7 (by decide) 7 (by decide)).trans ?last,
    (falling 7 (by decide) 7 (by decide)).trans ?turned,
    (falling 6 (by decide) 7 (by decide)).trans ?kept, fun equal => ?apart, distance.trans ?count⟩
  case last => decide +kernel
  case turned => decide +kernel
  case kept => decide +kernel
  case apart =>
    have agree := same.mp equal 7 (by decide) 7 (by decide)
    revert agree
    decide +kernel
  case count => decide +kernel

end Raster

end Gallery
