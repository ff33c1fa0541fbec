import Gallery.Proofs.Library.Meaning

/-!
The catalogue that queries are compiled against says of labels and symbols what the tables of the
library say. Since these are distinct, no row takes the place of another.
-/

namespace Gallery

namespace Catalogue

theorem insertTagTypes (catalogue : Catalogue) (tagTypes : List TagType)
    (distinct : Distinct TagType.symbol (catalogue.tagTypes ++ tagTypes)) :
    tagTypes.foldl insertTagType catalogue =
      { catalogue with tagTypes := catalogue.tagTypes ++ tagTypes } := by
  induction tagTypes generalizing catalogue with
  | nil => simp
  | cons tagType rest ih =>
      have apart : ∀ old ∈ catalogue.tagTypes, old.symbol ≠ tagType.symbol := fun old member =>
        (List.pairwise_append.mp distinct).2.2 old member tagType (by simp)
      have kept : catalogue.tagTypes.filter (·.symbol != tagType.symbol) = catalogue.tagTypes :=
        List.filter_eq_self.mpr fun old member => by simpa using apart old member
      have inserted : catalogue.insertTagType tagType =
          { catalogue with tagTypes := catalogue.tagTypes ++ [tagType] } := by
        rw [insertTagType, kept]
      rw [List.foldl_cons, inserted, ih _ (by simpa using distinct)]
      simp

theorem insertTags (catalogue : Catalogue) (tags : List Tag)
    (distinct : Distinct Tag.label (catalogue.tags ++ tags)) :
    tags.foldl insertTag catalogue = { catalogue with tags := catalogue.tags ++ tags } := by
  induction tags generalizing catalogue with
  | nil => simp
  | cons tag rest ih =>
      have apart : ∀ old ∈ catalogue.tags, old.label ≠ tag.label := fun old member =>
        (List.pairwise_append.mp distinct).2.2 old member tag (by simp)
      have kept : catalogue.tags.filter (·.label != tag.label) = catalogue.tags :=
        List.filter_eq_self.mpr fun old member => by simpa using apart old member
      have inserted : catalogue.insertTag tag =
          { catalogue with tags := catalogue.tags ++ [tag] } := by
        rw [insertTag, kept]
      rw [List.foldl_cons, inserted, ih _ (by simpa using distinct)]
      simp

theorem ofLists_distinct (tagTypes : List TagType) (tags : List Tag)
    (symbols : Distinct TagType.symbol tagTypes) (labels : Distinct Tag.label tags) :
    ofLists tagTypes tags = ⟨tagTypes, tags⟩ := by
  rw [ofLists, insertTagTypes empty tagTypes symbols]
  exact insertTags ⟨tagTypes, []⟩ tags labels

end Catalogue

namespace Library

theorem stored_of_tagType (stored : StoredTagType) (tagType : TagType)
    (decoded : stored.tagType? = some tagType) : tagType.stored = stored := by
  rw [StoredTagType.tagType?] at decoded
  split at decoded
  · next symbol shape =>
      split at decoded
      · next range =>
          cases decoded
          have sameSymbol : symbol.toString = stored.symbol :=
            String.toList_inj.mp (by simp [shape])
          have sameColor : (stored.color.toNat : Int) = stored.color := by omega
          rw [TagType.stored, sameSymbol, sameColor]
      · cases decoded
  · cases decoded

theorem mapM_some {α β : Type} (f : α → Option β) (back : β → α) (items : List α)
    (results : List β) (same : ∀ item result, f item = some result → back result = item)
    (read : items.mapM f = some results) : results.map back = items := by
  induction items generalizing results with
  | nil =>
      cases read
      rfl
  | cons item rest ih =>
      simp only [List.mapM_cons, Option.bind_eq_bind, Option.bind_eq_some_iff] at read
      rcases read with ⟨result, first, others, second, last⟩
      cases last
      rw [List.map_cons, same item result first, ih others second]

/-- A catalogue that is read has the stored tag types and tags, each once. -/
theorem catalogue_exact (library : Library) (keyed : library.Keyed) (catalogue : Catalogue)
    (read : library.catalogue = .ok catalogue) :
    ∃ tagTypes : List TagType, catalogue = ⟨tagTypes, library.tags⟩ ∧
      tagTypes.map TagType.stored = library.tagTypes := by
  rw [Library.catalogue, readTagTypes] at read
  split at read
  · next tagTypes decoded =>
      have same := mapM_some _ TagType.stored library.tagTypes tagTypes stored_of_tagType decoded
      have symbols : Distinct TagType.symbol tagTypes := by
        have stored := keyed.symbols
        rw [← same] at stored
        exact (List.pairwise_map.mp stored).imp fun apart same => apart (congrArg Char.toString same)
      cases read
      exact ⟨tagTypes, Catalogue.ofLists_distinct tagTypes library.tags symbols keyed.labels, same⟩
  · cases read

theorem toString_injective (a b : Char) (same : a.toString = b.toString) : a = b := by
  simpa using congrArg String.toList same

theorem symbol_id (tagTypes : List TagType) (stored : List StoredTagType) (c : Char)
    (same : tagTypes.map TagType.stored = stored) :
    (tagTypes.find? (·.symbol == c)).map (·.id) =
      (stored.find? (·.symbol == c.toString)).map (·.id) := by
  have predicate : (fun tagType : TagType => tagType.symbol == c) =
      (fun stored : StoredTagType => stored.symbol == c.toString) ∘ TagType.stored := by
    funext tagType
    rw [Bool.eq_iff_iff, Function.comp_apply, beq_iff_eq, beq_iff_eq]
    exact ⟨congrArg Char.toString, toString_injective _ _⟩
  rw [← same, List.find?_map, Option.map_map, predicate]
  rfl

/-- The catalogue finds the identity of the type with a symbol exactly when a tag may have it. -/
theorem typed_iff (library : Library) (keyed : library.Keyed) (catalogue : Catalogue)
    (read : library.catalogue = .ok catalogue) (tag : Tag) (c : Char) :
    library.Typed tag (some c) ↔
      ∃ id, (catalogue.tagType? c).map (·.id) = some id ∧ tag.typeId = some id := by
  rcases catalogue_exact library keyed catalogue read with ⟨tagTypes, rfl, same⟩
  rw [Catalogue.tagType?, symbol_id tagTypes library.tagTypes c same]
  constructor
  · intro typed
    rcases typed c rfl with ⟨stored, member, symbol, type⟩
    -- Symbols are distinct, so the first stored type with the symbol is the one of the tag.
    have found := find_of_mem StoredTagType.symbol library.tagTypes stored keyed.symbols member
    rw [symbol] at found
    exact ⟨stored.id, by rw [found]; rfl, type⟩
  · rintro ⟨id, found, type⟩ other same
    cases same
    rcases Option.map_eq_some_iff.mp found with ⟨stored, first, rfl⟩
    exact ⟨stored, List.mem_of_find?_eq_some first, by simpa using List.find?_some first, type⟩

theorem catalogue_tag (library : Library) (keyed : library.Keyed) (catalogue : Catalogue)
    (read : library.catalogue = .ok catalogue) (label : String) :
    catalogue.tag? label = library.tag? label := by
  rcases catalogue_exact library keyed catalogue read with ⟨tagTypes, rfl, _⟩
  rfl

/-- A reference is replaced by a definition exactly when its tag has it and is of the right type. -/
theorem replacement_iff (library : Library) (keyed : library.Keyed) (catalogue : Catalogue)
    (read : library.catalogue = .ok catalogue) (label : String) (symbol : Option Char)
    (definition : String) :
    catalogue.definitions.replacement? label symbol = some definition ↔
      ∃ tag, library.tag? label = some tag ∧ library.Typed tag symbol ∧
        tag.definition = some definition := by
  have tag := catalogue_tag library keyed catalogue read label
  simp only [Query.Definitions.replacement?, Catalogue.definitions, Catalogue.definition?, tag]
  cases found : library.tag? label with
  | none => simp
  | some known =>
      cases symbol with
      | none => simp [Typed]
      | some c =>
          have typed := typed_iff library keyed catalogue read known c
          simp only [Option.all_some, Catalogue.hasType, tag, found, Option.bind_some,
            Option.some.injEq, exists_eq_left', typed]
          cases type : catalogue.tagType? c with
          | none => simp
          | some tagType => simp

end Library

end Gallery
