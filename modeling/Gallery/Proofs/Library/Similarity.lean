import Gallery.Proofs.Hash.Distance
import Gallery.Proofs.Library.Search
import Gallery.Proofs.Library.Relations
import Gallery.Proofs.Query.Emission
import Gallery.Proofs.Query.WrittenForm

/-!
Two ways to the pictures that are similar to one: the query `similar_to` for its path, and the
ranking of the pictures by their distance. The query compares hashes inside a condition and finds
the picture itself as well; the ranking leaves it out (`similar_ways_agree`).
-/

namespace Gallery

namespace Query

/-! A query that is a single pseudo-tag. -/

theorem expand_pseudo (definitions : Definitions) (budget : Nat) (name : String)
    (argument : Option Argument) :
    expand definitions budget (.pseudo name argument) =
      if budget = 0 then .error (.tooLarge 0) else .ok (.pseudo name argument) := by
  cases budget with
  | zero => rfl
  | succ budget =>
      rw [expand, expandWithin, if_neg (by omega)]
      rfl

theorem ofExpr_pattern (lookup : TagLookup) (registry : Registry) (caseDefault : Bool)
    (name template : String) (argument : Argument)
    (found : registry.find? name = some ⟨.pattern, template⟩) :
    Condition.ofExpr lookup registry caseDefault (.pseudo name (some argument)) =
      .ok (.pattern template argument.pattern (Condition.flagsOf caseDefault argument)) := by
  unfold Condition.ofExpr
  rw [found]

theorem compile_pattern (text name template : String) (argument : Argument) (catalogue : Catalogue)
    (registry : Registry) (settings : CompilerSettings)
    (parsed : parse text = .ok (.pseudo name (some argument)))
    (found : registry.find? name = some ⟨.pattern, template⟩) :
    compile text catalogue registry settings =
      if settings.maxNodes = 0 then .error (.tooLarge 0)
      else .ok ⟨.pseudo name (some argument), some (.pattern template argument.pattern
        (Condition.flagsOf settings.caseSensitive argument))⟩ := by
  have valid : registry.validate (.pseudo name (some argument)) = .ok () := by
    simp [Registry.validate, Registry.admits, found]
  have satisfiable : isUnsatisfiable (.pseudo name (some argument)) = false :=
    isUnsatisfiable_of_true _ (fun _ => true) rfl
  have built := ofExpr_pattern catalogue.lookup registry settings.caseSensitive name template
    argument found
  simp only [compile, parsed, compileExpr, expand_pseudo]
  split
  · rfl
  · simp [bind, Except.bind, pure, Except.pure, valid, satisfiable, built]

end Query

namespace Library

theorem picturesWhere_of_values (library : Library) (platform : Platform) (expression : Sql.Expression)
    (keep : Picture → Bool)
    (values : ∀ picture ∈ library.pictures, expression.evaluate (library.world platform)
      (pictureScope picture) = .ok (Sql.truth (keep picture))) :
    library.picturesWhere platform expression = .ok (library.pictures.filter keep) := by
  have filtered := filterM_ok (fun picture : Picture => do
      let value ← expression.evaluate (library.world platform) (pictureScope picture)
      return value.truth? == some true) id keep library.pictures fun picture member => by
    rw [id, values picture member]
    cases keep picture <;> rfl
  simpa [picturesWhere] using filtered

/-- A condition with a value on every picture finds the pictures on which it is true. -/
theorem picturesMatching_of_values (library : Library) (platform : Platform)
    (condition : Query.Condition) (expression : Sql.Expression) (keep : Picture → Bool)
    (stands : condition.expression? = some expression)
    (resolved : expression.isResolved (library.world platform) conditionScope = true)
    (within : condition.limit? = none)
    (values : ∀ picture ∈ library.pictures, expression.evaluate (library.world platform)
      (pictureScope picture) = .ok (Sql.truth (keep picture))) :
    library.picturesMatching platform condition = .ok (library.pictures.filter keep) := by
  rw [picturesMatching_resolved library platform condition expression stands resolved within,
    picturesWhere_of_values library platform expression keep values]
  rfl

/-- The query `similar_to` for a path. -/
def similarQuery (path : String) (caseSensitive : Option Bool) : Query.Expr :=
  .pseudo "similar_to" (some ⟨path, caseSensitive⟩)

theorem search_similar (library : Library) (reachable : Reachable library) (platform : Platform)
    (path : String) (caseSensitive : Option Bool) (settings : CompilerSettings) :
    library.search platform (similarQuery path caseSensitive).text .standard settings =
      if settings.maxNodes = 0 then .error (.query (.tooLarge 0))
      else .ok (library.pictures.filter (library.isSimilarTo · path)) := by
  rcases catalogue_read library (keyed_of_reachable library reachable)
    (related_of_reachable library reachable) with ⟨catalogue, read, _⟩
  have parsed : Query.parse (similarQuery path caseSensitive).text =
      .ok (similarQuery path caseSensitive) :=
    Query.parse_text _ ⟨by decide, by decide⟩ (Nat.zero_le _)
  have found : ∃ template, Query.Registry.standard.find? "similar_to" =
      some ⟨.pattern, template⟩ := ⟨_, rfl⟩
  rcases found with ⟨template, found⟩
  have compiled := Query.compile_pattern _ _ template _ catalogue .standard settings parsed found
  rcases Query.pattern_expression settings.caseSensitive "similar_to" template
    ⟨path, caseSensitive⟩ found with ⟨expression, standard, stands⟩
  have resolved := resolved_standard library platform _ _ _ _ standard
  have within := Query.limit_of_few_nodes catalogue.lookup settings.caseSensitive _ _
    (Query.ofExpr_pattern _ _ _ "similar_to" template ⟨path, caseSensitive⟩ found)
    (by simp [Query.Expr.nodeCount])
  cases standard
  have matching := picturesMatching_of_values library platform _ _ (library.isSimilarTo · path) stands
    resolved within fun picture _ => evaluate_similar library platform picture path
  by_cases none_ : settings.maxNodes = 0
  · rw [if_pos none_] at compiled ⊢
    simp only [search, compile, read, compiled]
    rfl
  · rw [if_neg none_] at compiled ⊢
    simp only [search, compile, read, compiled, bind, Except.bind, run, matching, Except.mapError]

theorem mem_similarPictures (library : Library) (hash : PictureHash) (except : Option Int)
    (similar : Similar) :
    similar ∈ library.similarPictures hash except ↔
      similar.picture ∈ library.pictures ∧ some similar.picture.id ≠ except ∧
        ∃ own, similar.picture.hash = some own ∧ own.isSimilar hash = true ∧
          similar.distance = own.distance hash := by
  simp only [similarPictures, List.mem_mergeSort, List.mem_filterMap, List.mem_filter, similar?,
    Option.bind_eq_some_iff, bne_iff_ne]
  constructor
  · rintro ⟨picture, ⟨stored, other⟩, own, hashed, same⟩
    split at same
    · next close =>
        cases same
        exact ⟨stored, other, own, hashed, close, rfl⟩
    · cases same
  · rintro ⟨stored, other, own, hashed, close, same⟩
    exact ⟨similar.picture, ⟨stored, other⟩, own, hashed, by rw [if_pos close, ← same]⟩

/-- The pictures are different, and both have hashes, which are similar at the distance. -/
def Near (a b : Picture) (distance : Nat) : Prop :=
  a ≠ b ∧ ∃ first second, a.hash = some first ∧ b.hash = some second ∧
    first.isSimilar second = true ∧ distance = first.distance second

theorem Near.symm {a b : Picture} {distance : Nat} (near : Near a b distance) :
    Near b a distance := by
  rcases near with ⟨other, first, second, hashed, hashedToo, close, rfl⟩
  exact ⟨other.symm, second, first, hashedToo, hashed, second.isSimilar_comm first ▸ close,
    first.distance_comm second⟩

section Stored

variable (library : Library) (keyed : library.Keyed) (picture : Picture)
  (stored : picture ∈ library.pictures)

include keyed stored

theorem findSimilar_stored :
    ∃ similar, library.findSimilar picture.id = .ok similar ∧
      ∀ near : Similar, near ∈ similar ↔
        near.picture ∈ library.pictures ∧ Near near.picture picture near.distance := by
  have found : library.picture? picture.id = some picture :=
    find_of_mem Picture.id library.pictures picture keyed.pictures.distinct stored
  refine ⟨_, by rw [findSimilar, found], ?_⟩
  intro near
  cases hashed : picture.hash with
  | none => simp [Near, hashed]
  | some hash =>
      have apart (other : Picture) (storedToo : other ∈ library.pictures) :
          some other.id ≠ some picture.id ↔ other ≠ picture := by
        constructor
        · rintro different rfl
          exact different rfl
        · intro different same
          exact different (eq_of_key Picture.id library.pictures other picture
            keyed.pictures.distinct storedToo stored (Option.some.inj same))
      simp only [mem_similarPictures, Near, hashed]
      constructor
      · rintro ⟨storedToo, different, own, hashedToo, close, same⟩
        exact ⟨storedToo, (apart _ storedToo).mp different, own, hash, hashedToo, rfl, close, same⟩
      · rintro ⟨storedToo, different, own, _, hashedToo, sameHash, close, same⟩
        cases sameHash
        exact ⟨storedToo, (apart _ storedToo).mpr different, own, hashedToo, close, same⟩

/-- The condition of the query for a stored path holds of the picture itself and of those near. -/
theorem isSimilarTo_stored (other : Picture) :
    library.isSimilarTo other picture.path = true ↔
      picture.hash.isSome = true ∧ (other = picture ∨ ∃ distance, Near other picture distance) := by
  have found : library.pictureAt? picture.path = some picture :=
    find_of_mem Picture.path library.pictures picture keyed.paths stored
  rw [isSimilarTo, found]
  cases hashed : picture.hash with
  | none => cases other.hash <;> simp [hashed]
  | some hash =>
      by_cases same : other = picture
      · simp [same, hashed, hash.isSimilar_self]
      · cases hashedToo : other.hash with
        | none => simp [Near, same, hashedToo]
        | some own => simp [Near, same, hashed, hashedToo]

end Stored

/-- For a stored picture with a hash, the query for its path finds the picture itself and the
pictures that the ranking gives; without a hash neither finds any. A picture is in the ranking of
another with the confidence with which the other is in its own. -/
theorem similar_ways_agree (library : Library) (reachable : Reachable library) (platform : Platform)
    (settings : CompilerSettings) (picture : Picture) (stored : picture ∈ library.pictures)
    (caseSensitive : Option Bool) :
    ∃ similar, library.findSimilar picture.id = .ok similar ∧
      (picture.hash = none → similar = []) ∧
      (settings.maxNodes = 0 →
        library.search platform (similarQuery picture.path caseSensitive).text .standard settings =
          .error (.query (.tooLarge 0))) ∧
      (settings.maxNodes ≠ 0 → ∃ found,
        library.search platform (similarQuery picture.path caseSensitive).text .standard settings =
          .ok found ∧
        ∀ other, other ∈ found ↔ picture.hash.isSome = true ∧
          (other = picture ∨ ∃ near ∈ similar, near.picture = other)) ∧
      ∀ other ∈ library.pictures, other ≠ picture →
        ∃ others, library.findSimilar other.id = .ok others ∧ ∀ confidence,
          (∃ near ∈ similar, near.picture = other ∧ near.confidence = confidence) ↔
            ∃ near ∈ others, near.picture = picture ∧ near.confidence = confidence := by
  have keyed := keyed_of_reachable library reachable
  rcases findSimilar_stored library keyed picture stored with ⟨similar, ranked, members⟩
  have searched := search_similar library reachable platform picture.path caseSensitive settings
  refine ⟨similar, ranked, ?_, ?_, ?_, ?_⟩
  · intro unhashed
    apply List.eq_nil_iff_forall_not_mem.mpr
    intro near member
    rcases (members near).mp member with ⟨_, _, _, _, _, hashed, _⟩
    simp [unhashed] at hashed
  · intro none_
    rw [searched, if_pos none_]
  · intro some_
    rw [if_neg some_] at searched
    refine ⟨_, searched, ?_⟩
    intro other
    rw [List.mem_filter, isSimilarTo_stored library keyed picture stored]
    constructor
    · rintro ⟨storedToo, hashed, rfl | ⟨distance, near⟩⟩
      · exact ⟨hashed, .inl rfl⟩
      · exact ⟨hashed, .inr ⟨⟨other, distance⟩, (members _).mpr ⟨storedToo, near⟩, rfl⟩⟩
    · rintro ⟨hashed, rfl | ⟨near, member, rfl⟩⟩
      · exact ⟨stored, hashed, .inl rfl⟩
      · rcases (members near).mp member with ⟨storedToo, close⟩
        exact ⟨storedToo, hashed, .inr ⟨near.distance, close⟩⟩
  · intro other storedToo different
    rcases findSimilar_stored library keyed other storedToo with ⟨others, rankedToo, membersToo⟩
    refine ⟨others, rankedToo, ?_⟩
    intro confidence
    constructor
    · rintro ⟨near, member, rfl, rfl⟩
      have close := ((members near).mp member).2.symm
      exact ⟨⟨picture, near.distance⟩, (membersToo _).mpr ⟨stored, close⟩, rfl, rfl⟩
    · rintro ⟨near, member, rfl, rfl⟩
      have close := ((membersToo near).mp member).2.symm
      exact ⟨⟨other, near.distance⟩, (members _).mpr ⟨storedToo, close⟩, rfl, rfl⟩

/-- A picture whose path must be quoted, one that differs from it in ten bits, and one without a
hash. -/
def twins : Library :=
  [Operation.insertPicture "a\"\\ .png" (some ⟨0x8000000000000000⟩),
    .insertPicture "b.png" (some ⟨0x80000000000003FF⟩), .insertPicture "c.png" none].foldl after
    empty

theorem similar_ways_agree_twins : ∃ similar found,
    twins.findSimilar 1 = .ok similar ∧
    twins.search (.bare []) (similarQuery "a\"\\ .png" none).text .standard {} = .ok found ∧
    ∀ other, other ∈ found ↔ other = ⟨1, "a\"\\ .png", some ⟨0x8000000000000000⟩⟩ ∨
      ∃ near ∈ similar, near.picture = other := by
  rcases similar_ways_agree twins (reachable_run _) (.bare []) {}
    ⟨1, "a\"\\ .png", some ⟨0x8000000000000000⟩⟩ (by decide +kernel) none with
    ⟨similar, ranked, _, _, searched, _⟩
  rcases searched (by decide) with ⟨found, done, members⟩
  exact ⟨similar, found, ranked, done, fun other => by simpa using members other⟩

end Library

end Gallery
