import Gallery.Library.Ranking
import Gallery.Proofs.Library.Similarity
import Gallery.Proofs.Text.ByteOrder
import Mathlib

/-!
The ranking of similar pictures. A selection keeps the rows and orders them by a confidence that it
computes, in double precision; confidences fall as distances grow, so this is the order of the
distances (`rankedRows_exact`). Pictures at one distance are in the order of the bytes of their
paths, and these differ, so that there is only one ranking (`ranking_exact`).
-/

namespace Gallery

/-- A similar picture is before another one when it is nearer, or as near with a path of which the
bytes come first. -/
inductive Library.Similar.Precedes (a b : Similar) : Prop where
  | nearer (less : a.distance < b.distance)
  | asNear (same : a.distance = b.distance)
      (path : Text.utf8 a.picture.path < Text.utf8 b.picture.path)

/-- What is known of the confidences at the distances of similar hashes, also in double precision,
where they are in the reverse order of the distances. -/
theorem confidences : ∀ near : Fin 11, 0.0 < confidenceAt near ∧
    Sql.toSingle (Sql.toDouble (confidenceAt near)) = confidenceAt near ∧ ∀ far : Fin 11,
      (near < far → confidenceAt far < confidenceAt near ∧ confidenceAt near ≠ confidenceAt far) ∧
      (Sql.Value.real (Sql.toDouble (confidenceAt far))).order
        (.real (Sql.toDouble (confidenceAt near))) = compare near.val far.val := by
  decide +kernel

namespace Library

/-! The condition and the result are read from their texts, here with texts as parameters. -/

theorem rankingCondition_reads (hash except : String) :
    Sql.Expression.read rankingText.toList [hash, except, except] =
      some (rankingCondition (.text hash) (.text except)) := by
  cbv

theorem confidenceExpression_reads (hash : String) :
    Sql.Expression.read confidenceText.toList [hash] =
      some (confidenceExpression (.text hash)) := by
  cbv

/-! What the selection computes for a row. -/

section Row

variable (world : Sql.World) (picture : Picture) (hash : PictureHash) (except : Option Int)

theorem evaluate_id :
    (Sql.Expression.column (some "p") "id").evaluate world (pictureScope picture) =
      .ok (.integer picture.id) := by
  rw [Sql.Expression.evaluate, pictureScope, find_id picture (some "p") "p" [] (by simp)]
  rfl

theorem evaluate_kept :
    (Sql.Expression.or (.same (.value (idValue except)) (.value .null))
      (.compare .different (.column (some "p") "id") (.value (idValue except)))).evaluate world
      (pictureScope picture) = .ok (Sql.truth (some picture.id != except)) := by
  have found := find_id picture (some "p") "p" [] (by simp)
  cases except with
  | none => rfl
  | some id =>
      -- The identity is not missing, so the right side decides.
      have differ : Sql.Comparison.different.admits
          ((Sql.Value.integer picture.id).order (.integer id)) = (some picture.id != some id) := by
        rw [Sql.Comparison.admits, bne, Sql.integer_order]
        rfl
      have right : (Sql.Expression.compare .different (.column (some "p") "id")
          (.value (idValue (some id)))).evaluate world (pictureScope picture) =
            .ok (Sql.truth (some picture.id != some id)) := by
        rw [← differ, Sql.Expression.evaluate, evaluate_id world picture]
        simp only [Sql.Expression.affinity?, pictureScope, found]
        rfl
      rw [Sql.Expression.evaluate, right]
      cases some picture.id != some id <;> rfl

theorem evaluate_ranking :
    (rankingCondition (.integer hash.toInt) (idValue except)).evaluate world
      (pictureScope picture) =
      .ok (Sql.truth ((similar? hash picture).isSome && some picture.id != except)) := by
  have alike := Sql.evaluate_call world (pictureScope picture) "SIMILAR_HASHES" _ _ _
    (Sql.evaluateAll_cons _ _ _ _ _ _ (evaluate_hash picture world)
      (Sql.evaluateAll_values _ _ [.integer hash.toInt]))
    (Sql.call_additional world "SIMILAR_HASHES" _ (by decide))
  have hashed := Sql.evaluate_and _ _ _ _ _ _ (evaluate_hasHash picture world)
    (alike.trans (similar_hashes _ (some hash)))
  refine (Sql.evaluate_and _ _ _ _ _ _ hashed (evaluate_kept world picture except)).trans ?_
  rw [similar?]
  cases picture.hash with
  | none => rfl
  | some own => cases same : own.isSimilar hash <;> simp [same]

/-- The row of a similar picture. -/
def Similar.row (similar : Similar) : Picture × Sql.Value :=
  (similar.picture, .real (Sql.toDouble similar.confidence))

theorem similar_iff (similar : Similar) :
    similar? hash picture = some similar ↔
      similar.picture = picture ∧ ∃ own, picture.hash = some own ∧ own.distance hash ≤ 10 ∧
        similar.distance = own.distance hash := by
  obtain ⟨other, distance⟩ := similar
  simp only [similar?, Option.bind_eq_some_iff, PictureHash.isSimilar, decide_eq_true_eq]
  constructor
  · rintro ⟨own, hashed, found⟩
    split at found
    · next near =>
        cases found
        exact ⟨rfl, own, hashed, near, rfl⟩
    · cases found
  · rintro ⟨rfl, own, hashed, near, rfl⟩
    exact ⟨own, hashed, if_pos near⟩

theorem evaluate_confidence (similar : Similar) (found : similar? hash picture = some similar) :
    (confidenceExpression (.integer hash.toInt)).evaluate world (pictureScope picture) =
      .ok similar.row.2 := by
  obtain ⟨_, own, hashed, _, distance⟩ := (similar_iff picture hash similar).mp found
  have value := evaluate_hash picture world
  rw [hashed] at value
  have computed := Sql.evaluate_call world (pictureScope picture) "SIMILARITY_CONFIDENCE" _ _ _
    (Sql.evaluateAll_cons _ _ _ _ _ _ value (Sql.evaluateAll_values _ _ [.integer hash.toInt]))
    (Sql.call_additional world "SIMILARITY_CONFIDENCE" _ (by decide))
  refine computed.trans ?_
  simp [Sql.similarityConfidenceValue, idValue, Sql.Value.isNull, ofInt_toInt, Similar.row,
    Similar.confidence, PictureHash.confidence, distance]

end Row

/-! The order of the rows. -/

theorem isBefore_iff (a b : Similar) : a.isBefore b = true ↔
    a.distance < b.distance ∨ a.distance = b.distance ∧ a.picture.path ≤ b.picture.path := by
  simp [Similar.isBefore]

theorem isRankedBefore_row (a b : Similar) (nearA : a.distance ≤ 10) (nearB : b.distance ≤ 10) :
    isRankedBefore a.row b.row = a.isBefore b := by
  have order := ((confidences ⟨a.distance, by omega⟩).2.2 ⟨b.distance, by omega⟩).2
  rw [Bool.eq_iff_iff, isBefore_iff, isRankedBefore, Similar.row, Similar.row, Similar.confidence,
    Similar.confidence, order, Ordering.isLE_then_iff_or, Nat.compare_eq_lt, Nat.compare_eq_eq]
  have paths : (compare a.picture.path b.picture.path).isLE = true ↔
      a.picture.path ≤ b.picture.path := Std.LawfulBCmp.isLE_iff_le
  exact or_congr_right (and_congr_right fun _ => paths)

theorem similarPictures_ordered (library : Library) (hash : PictureHash) (except : Option Int) :
    (library.similarPictures hash except).Pairwise fun a b => a.isBefore b = true := by
  apply List.pairwise_mergeSort
  · intro a b c first second
    rw [isBefore_iff] at first second ⊢
    rcases first with nearer | ⟨same, path⟩
    · left
      omega
    · rcases second with nearer | ⟨sameToo, pathToo⟩
      · left
        omega
      · right
        exact ⟨same.trans sameToo, String.le_trans path pathToo⟩
  · intro a b
    rw [Bool.or_eq_true, isBefore_iff, isBefore_iff]
    have paths := String.le_total a.picture.path b.picture.path
    rcases Nat.lt_trichotomy a.distance b.distance with less | same | greater
    · exact .inl (.inl less)
    · rw [same]
      simpa using paths
    · exact .inr (.inl greater)

theorem mapM_rows (compute : Picture → Except Sql.FunctionError (Picture × Sql.Value))
    (hash : PictureHash) (keep : Picture → Bool) (pictures : List Picture)
    (computed : ∀ picture similar, similar? hash picture = some similar →
      compute picture = .ok similar.row) :
    (pictures.filter fun picture => (similar? hash picture).isSome && keep picture).mapM compute =
      .ok (((pictures.filter keep).filterMap (similar? hash)).map Similar.row) := by
  induction pictures with
  | nil => rfl
  | cons picture rest ih =>
      cases kept : keep picture with
      | false => simpa [kept] using ih
      | true =>
          cases found : similar? hash picture with
          | none => simpa [kept, found] using ih
          | some similar =>
              have first := computed picture similar found
              simp [kept, found, first, ih, bind, Except.bind, pure, Except.pure]

/-- The selection succeeds and gives the rows of the similar pictures in their order. -/
theorem rankedRows_exact (library : Library) (platform : Platform) (hash : PictureHash)
    (except : Option Int) :
    library.rankedRows platform hash except =
      .ok ((library.similarPictures hash except).map Similar.row) := by
  have kept := picturesWhere_of_values library platform _ _ fun picture _ =>
    evaluate_ranking (library.world platform) picture hash except
  have rows := mapM_rows (fun picture => do
      let confidence ← (confidenceExpression (.integer hash.toInt)).evaluate (library.world platform)
        (pictureScope picture)
      return (picture, confidence)) hash (fun picture => some picture.id != except)
    library.pictures fun picture similar found => by
      have same := ((similar_iff picture hash similar).mp found).1
      rw [evaluate_confidence (library.world platform) picture hash similar found, ← same]
      rfl
  have sorted : (library.similarPictures hash except).map Similar.row =
      (((library.pictures.filter fun picture => some picture.id != except).filterMap
        (similar? hash)).map Similar.row).mergeSort isRankedBefore := by
    apply List.map_mergeSort
    intro a memberA b memberB
    obtain ⟨_, _, foundA⟩ := List.mem_filterMap.mp memberA
    obtain ⟨_, _, foundB⟩ := List.mem_filterMap.mp memberB
    obtain ⟨_, _, _, nearA, distanceA⟩ := (similar_iff _ hash a).mp foundA
    obtain ⟨_, _, _, nearB, distanceB⟩ := (similar_iff _ hash b).mp foundB
    exact (isRankedBefore_row a b (by omega) (by omega)).symm
  rw [sorted, rankedRows, kept]
  simp only [bind, Except.bind] at rows ⊢
  rw [rows]
  rfl

/-- What is read from the rows are the similar pictures with their confidences. -/
theorem readRanked_rows (ranked : List Similar) (near : ∀ similar ∈ ranked, similar.distance ≤ 10) :
    (ranked.map Similar.row).mapM readRanked? =
      some (ranked.map fun similar => (similar.picture, similar.confidence)) := by
  induction ranked with
  | nil => rfl
  | cons similar rest ih =>
      have distance : similar.distance < 11 :=
        Nat.lt_succ_of_le (near similar List.mem_cons_self)
      have read : readRanked? similar.row = some (similar.picture, similar.confidence) := by
        rw [Similar.row, readRanked?, Similar.confidence]
        exact congrArg (fun confidence => some (similar.picture, confidence))
          (confidences ⟨similar.distance, distance⟩).2.1
      have others := ih fun other member => near other (List.mem_cons_of_mem similar member)
      simp [read, others]

theorem similarPictures_apart (library : Library) (keyed : library.Keyed) (hash : PictureHash)
    (except : Option Int) :
    (library.similarPictures hash except).Pairwise fun a b => a.picture.path ≠ b.picture.path := by
  apply (List.Perm.pairwise_iff Ne.symm (List.mergeSort_perm _ _)).mpr
  apply List.Pairwise.filterMap _ _ (distinct_filter Picture.path library.pictures _ keyed.paths)
  intro a b apart first foundFirst second foundSecond
  rw [((similar_iff a hash first).mp foundFirst).1, ((similar_iff b hash second).mp foundSecond).1]
  exact apart

theorem similarPictures_strict (library : Library) (keyed : library.Keyed) (hash : PictureHash)
    (except : Option Int) :
    (library.similarPictures hash except).Pairwise Similar.Precedes := by
  have ordered := similarPictures_ordered library hash except
  have apart := similarPictures_apart library keyed hash except
  apply (ordered.and apart).imp
  rintro a b ⟨before, different⟩
  rw [isBefore_iff] at before
  rcases before with nearer | ⟨same, path⟩
  · exact .nearer nearer
  · exact .asNear same ((Text.lt_iff_utf8 _ _).mp (lt_of_le_of_ne path different))

/-- The ranking has, each once, the pictures whose hash differs in at most ten bits, except the one
that is left out. The nearer ones come first and those at one distance in the order of the bytes of
their paths. The selection gives them in this order, each with the confidence of its distance; the
confidences are positive, and smaller at greater distances. The condition and the confidence of the
selection are the expressions that their texts say. -/
theorem ranking_exact (library : Library) (reachable : Reachable library) (platform : Platform)
    (hash : PictureHash) (except : Option Int) :
    (∀ similar, similar ∈ library.similarPictures hash except ↔
      similar.picture ∈ library.pictures ∧ some similar.picture.id ≠ except ∧
        ∃ own, similar.picture.hash = some own ∧ own.distance hash ≤ 10 ∧
          similar.distance = own.distance hash) ∧
    ((library.similarPictures hash except).map (·.picture)).Nodup ∧
    (library.similarPictures hash except).Pairwise Similar.Precedes ∧
    (∃ rows, library.rankedRows platform hash except = .ok rows ∧
      rows.mapM readRanked? = some ((library.similarPictures hash except).map fun similar =>
        (similar.picture, confidenceAt similar.distance))) ∧
    (∀ far ≤ 10, 0.0 < confidenceAt far ∧ ∀ near < far,
      confidenceAt far < confidenceAt near ∧ confidenceAt near ≠ confidenceAt far) ∧
    ∀ first second,
      Sql.Expression.read rankingText.toList [first, second, second] =
        some (rankingCondition (.text first) (.text second)) ∧
      Sql.Expression.read confidenceText.toList [first] =
        some (confidenceExpression (.text first)) := by
  have keyed := keyed_of_reachable library reachable
  have members (similar : Similar) : similar ∈ library.similarPictures hash except ↔
      similar.picture ∈ library.pictures ∧ some similar.picture.id ≠ except ∧
        ∃ own, similar.picture.hash = some own ∧ own.distance hash ≤ 10 ∧
          similar.distance = own.distance hash := by
    have found := mem_similarPictures library hash except similar
    simp only [PictureHash.isSimilar, decide_eq_true_eq] at found
    exact found
  have apart := similarPictures_apart library keyed hash except
  refine ⟨members, ?_, similarPictures_strict library keyed hash except,
    ⟨_, rankedRows_exact library platform hash except, readRanked_rows _ ?_⟩, ?_,
    fun first second => ⟨rankingCondition_reads first second, confidenceExpression_reads first⟩⟩
  · apply List.pairwise_map.mpr
    apply apart.imp
    intro a b different same
    exact different (congrArg Picture.path same)
  · intro similar member
    obtain ⟨_, _, _, _, near, distance⟩ := (members similar).mp member
    omega
  · intro far bound
    constructor
    · exact (confidences ⟨far, by omega⟩).1
    · intro near less
      exact ((confidences ⟨near, by omega⟩).2.2 ⟨far, by omega⟩).1 less

/-- Two pictures at one distance, one nearer, one too far away, and one without a hash. -/
def shades : Library :=
  [Operation.insertPicture "ö.png" (some ⟨0x8000000000000001⟩), .insertPicture "z.png" (some ⟨3⟩),
    .insertPicture "n.png" (some ⟨0x8000000000000000⟩), .insertPicture "a.png" (some ⟨0x7FF⟩),
    .insertPicture "b.png" none].foldl after empty

theorem ranking_exact_shades : ∃ ranked rows, shades.similarPictures ⟨0⟩ none = ranked ∧
    ⟨⟨2, "z.png", some ⟨3⟩⟩, 2⟩ ∈ ranked ∧
    ⟨⟨1, "ö.png", some ⟨0x8000000000000001⟩⟩, 2⟩ ∈ ranked ∧
    ranked.Pairwise Similar.Precedes ∧ shades.rankedRows (.bare []) ⟨0⟩ none = .ok rows ∧
    rows.mapM readRanked? = some (ranked.map fun similar =>
      (similar.picture, confidenceAt similar.distance)) := by
  obtain ⟨members, _, ordered, ⟨rows, selected, read⟩, _⟩ :=
    ranking_exact shades (reachable_run _) (.bare []) ⟨0⟩ none
  have first := (members ⟨⟨2, "z.png", some ⟨3⟩⟩, 2⟩).mpr
    ⟨by decide +kernel, by decide, ⟨3⟩, rfl, by decide +kernel, by decide +kernel⟩
  have second := (members ⟨⟨1, "ö.png", some ⟨0x8000000000000001⟩⟩, 2⟩).mpr
    ⟨by decide +kernel, by decide, ⟨0x8000000000000001⟩, rfl, by decide +kernel, by decide +kernel⟩
  exact ⟨_, rows, rfl, first, second, ordered, selected, read⟩

end Library

end Gallery
