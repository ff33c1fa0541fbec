import Mathlib.InformationTheory.Hamming
import Gallery.Proofs.Pattern.Sample
import Gallery.Sql.Function

/-!
The distance of hashes. It is the number of places at which their bits differ, hence a metric
(`distance_eq_hammingDist`). Hashes are stored as signed integers; whether two of them are similar
and with which confidence depends on the distance of the bits that they stand for, so the two
functions of statements on hashes agree (`hash_functions_agree`).
-/

namespace Gallery

namespace PictureHash

/-- The bits of a hash by their places. -/
def bitAt (hash : PictureHash) (place : Fin 64) : Bool :=
  hash.bits.getLsbD place

/-- The hash with the bits of a signed integer. -/
def ofSigned (n : Int64) : PictureHash :=
  ⟨n.toUInt64.toBitVec⟩

theorem bitAt_injective (a b : PictureHash) (same : a.bitAt = b.bitAt) : a = b := by
  have bits : a.bits = b.bits := by
    apply BitVec.eq_of_getLsbD_eq
    intro place inside
    exact congrFun same ⟨place, inside⟩
  cases a
  cases b
  exact congrArg mk bits

/-- The number of set bits in the exclusive or is the number of places with different bits. -/
theorem distance_eq_hammingDist (a b : PictureHash) :
    a.distance b = hammingDist a.bitAt b.bitAt := by
  have places : List.range 64 = (List.finRange 64).map Fin.val :=
    List.map_coe_finRange_eq_range.symm
  rw [distance, places, List.countP_map, hammingDist, ← List.toFinset_finRange,
    (List.nodup_finRange 64).card_eq_countP]
  apply List.countP_congr
  intro place _
  rw [Function.comp_apply, BitVec.getLsbD_xor, decide_eq_true_eq, bne_iff_ne]
  rfl

theorem distance_self (hash : PictureHash) : hash.distance hash = 0 := by
  rw [distance_eq_hammingDist, hammingDist_self]

theorem distance_comm (a b : PictureHash) : a.distance b = b.distance a := by
  rw [distance_eq_hammingDist, distance_eq_hammingDist, hammingDist_comm]

theorem distance_eq_zero_iff (a b : PictureHash) : a.distance b = 0 ↔ a = b := by
  rw [distance_eq_hammingDist, hammingDist_eq_zero]
  constructor
  · exact bitAt_injective a b
  · rintro rfl
    rfl

theorem distance_le (a b : PictureHash) : a.distance b ≤ 64 := by
  have places := hammingDist_le_card_fintype (x := a.bitAt) (y := b.bitAt)
  rwa [← distance_eq_hammingDist, Fintype.card_fin] at places

theorem distance_triangle (a b c : PictureHash) :
    a.distance c ≤ a.distance b + b.distance c := by
  rw [distance_eq_hammingDist, distance_eq_hammingDist, distance_eq_hammingDist]
  exact hammingDist_triangle _ _ _

theorem isSimilar_self (hash : PictureHash) : hash.isSimilar hash = true := by
  simp [isSimilar, distance_self]

theorem isSimilar_comm (a b : PictureHash) : a.isSimilar b = b.isSimilar a := by
  rw [isSimilar, isSimilar, distance_comm]

theorem ofInt_signed (n : Int64) : ofInt n.toInt = ofSigned n := by
  rw [ofInt, Int64.toInt, BitVec.ofInt_toInt]
  rfl

end PictureHash

namespace Sql

/-- The confidences in double precision: they are positive at the distances of similar hashes, where
they fall as the distance grows. -/
theorem doubled_confidences : ∀ near : Fin 11, 0.0 < toDouble (confidenceAt near) ∧
    ∀ far : Fin 11, near < far →
      toDouble (confidenceAt far) < toDouble (confidenceAt near) := by
  decide +kernel

theorem doubled_confidence_far : ¬0.0 < toDouble 0.0 := by
  decide +kernel

theorem doubled_confidence_pos_iff (distance : Nat) :
    0.0 < toDouble (confidenceAt distance) ↔ distance ≤ 10 := by
  constructor
  · intro positive
    by_contra far
    rw [confidenceAt, similarityThreshold, if_neg far] at positive
    exact doubled_confidence_far positive
  · intro near
    exact (doubled_confidences ⟨distance, by omega⟩).1

theorem doubled_confidence_falls (near far : Nat) (less : near < far) (within : far ≤ 10) :
    toDouble (confidenceAt far) < toDouble (confidenceAt near) :=
  (doubled_confidences ⟨near, by omega⟩).2 ⟨far, by omega⟩ less

/-- The distance of hashes is a metric on 64 bits. For any two signed integers the functions of
statements answer by the distance of their bits: that hashes are similar up to a distance of ten,
which is when the confidence is positive, and with a confidence that falls as the distance grows. -/
theorem hash_functions_agree (engine : Pattern.Engine) (fileExists : String → Bool) :
    (∀ a b : PictureHash, (a.distance b = 0 ↔ a = b) ∧ a.distance b = b.distance a ∧
      a.distance b ≤ 64 ∧ ∀ c, a.distance c ≤ a.distance b + b.distance c) ∧
    ∃ (similar : Int64 → Int64 → Int) (confidence : Int64 → Int64 → Float),
      (∀ x y : Int64,
        callFunction? engine fileExists "SIMILAR_HASHES" [.integer x.toInt, .integer y.toInt] =
          some (.ok (.integer (similar x y))) ∧
        callFunction? engine fileExists "SIMILARITY_CONFIDENCE"
            [.integer x.toInt, .integer y.toInt] =
          some (.ok (.real (confidence x y))) ∧
        (similar x y = 1 ↔ (PictureHash.ofSigned x).distance (.ofSigned y) ≤ 10) ∧
        (similar x y = 1 ↔ 0.0 < confidence x y)) ∧
      ∀ x y u v : Int64,
        (PictureHash.ofSigned x).distance (.ofSigned y) <
          (PictureHash.ofSigned u).distance (.ofSigned v) →
        (PictureHash.ofSigned u).distance (.ofSigned v) ≤ 10 →
          confidence u v < confidence x y := by
  refine ⟨fun a b => ⟨a.distance_eq_zero_iff b, a.distance_comm b, a.distance_le b,
    a.distance_triangle b⟩, ?_⟩
  refine ⟨fun x y => if (PictureHash.ofSigned x).isSimilar (.ofSigned y) then 1 else 0,
    fun x y => toDouble (confidenceAt ((PictureHash.ofSigned x).distance (.ofSigned y))), ?_, ?_⟩
  · intro x y
    have near : (PictureHash.ofSigned x).isSimilar (.ofSigned y) = true ↔
        (PictureHash.ofSigned x).distance (.ofSigned y) ≤ 10 := by
      rw [PictureHash.isSimilar, decide_eq_true_eq, similarityThreshold]
    have positive := doubled_confidence_pos_iff ((PictureHash.ofSigned x).distance (.ofSigned y))
    refine ⟨?_, ?_, ?_, ?_⟩
    · simp [callFunction?, similarHashesValue, Value.isNull, truth, PictureHash.ofInt_signed]
    · simp [callFunction?, similarityConfidenceValue, Value.isNull, PictureHash.confidence,
        PictureHash.ofInt_signed]
    · simp [near]
    · rw [positive]
      simp [near]
  · intro x y u v less within
    exact doubled_confidence_falls _ _ less within

/-- Zero, the hash with all bits set but ten, and the one with all bits set. -/
theorem hash_functions_agree_extremes :
    ∃ (similar : Int64 → Int64 → Int) (confidence : Int64 → Int64 → Float),
      callFunction? Pattern.Sample.engine (fun _ => false) "SIMILAR_HASHES"
          [.integer (-1), .integer (-1024)] =
        some (.ok (.integer (similar (-1) (-1024)))) ∧
      similar (-1) (-1024) = 1 ∧ 0.0 < confidence (-1) (-1024) ∧ similar 0 (-1) ≠ 1 ∧
      confidence (-1) (-1024) < confidence 0 0 := by
  obtain ⟨_, similar, confidence, answers, falls⟩ := hash_functions_agree Pattern.Sample.engine fun _ => false
  obtain ⟨called, _, near, positive⟩ := answers (-1) (-1024)
  obtain ⟨_, _, apart, _⟩ := answers 0 (-1)
  have alike := near.mpr (by decide +kernel)
  refine ⟨similar, confidence, called, alike, positive.mp alike, ?_, ?_⟩
  · rw [Ne, apart]
    decide +kernel
  · exact falls 0 0 (-1) (-1024) (by decide +kernel) (by decide +kernel)

end Sql

end Gallery
