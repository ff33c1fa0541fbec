import Gallery.Proofs.Library.Counts
import Gallery.Proofs.Library.Registration
import Gallery.Proofs.Library.Similarity
import Gallery.Proofs.Query.Stability

/-!
Three ways to the pictures that carry a tag: counting its attachments, listing the tags of every
picture, and searching for its label. The label is read back as the reference that it is, nothing in
it is expanded, and the condition of a reference looks for an attachment (`search_reference`). So
the three agree, and the symbol of a tag type narrows the search to the tags of the type
(`usage_counts_agree`).
-/

namespace Gallery

namespace Query

theorem settled_tag (definitions : Definitions) (label : String) (symbol : Option Char)
    (plain : definitions.definition? label = none) : Settled definitions (.tag label symbol) := by
  intro other mark member
  cases List.mem_singleton.mp member
  exact .inl plain

/-- A reference to a tag without a definition stays as it is, whatever the pseudo-tags are. -/
theorem compile_reference (catalogue : Catalogue) (registry : Registry)
    (settings : CompilerSettings) (roomy : 1 ≤ settings.maxNodes) (label : String)
    (symbol : Option Char) (plain : catalogue.definition? label = none)
    (wellFormed : (Expr.tag label symbol).WellFormed) :
    compile (Expr.tag label symbol).text catalogue registry settings =
      .ok ⟨.tag label symbol, some (Condition.ofReference catalogue.lookup label symbol)⟩ := by
  have parsed := parse_text (.tag label symbol) wellFormed (Nat.zero_le _)
  have expanded := expand_settled catalogue.definitions settings.maxNodes (.tag label symbol)
    (settled_tag _ label symbol plain)
  have enough : (Expr.tag label symbol).nodeCount ≤ settings.maxNodes := roomy
  rw [if_pos enough] at expanded
  have satisfiable : isUnsatisfiable (.tag label symbol) = false :=
    isUnsatisfiable_of_true _ (fun _ => true) rfl
  simp only [compile, parsed, compileExpr, expanded]
  simp [bind, Except.bind, pure, Except.pure, Registry.validate, satisfiable, Condition.ofExpr]

end Query

namespace Library

section Reference

variable (library : Library) (platform : Platform) (registry : Query.Registry)
  (settings : CompilerSettings) (roomy : 1 ≤ settings.maxNodes)

/-- What the condition of a reference finds. -/
theorem matching_reference (keyed : library.Keyed) (catalogue : Catalogue)
    (read : library.catalogue = .ok catalogue) (tag : Tag) (stored : tag ∈ library.tags)
    (symbol : Option Char) :
    library.picturesMatching platform
        (Query.Condition.ofReference catalogue.lookup tag.label symbol) =
      .ok (library.pictures.filter fun picture =>
        decide (library.Typed tag symbol) && library.attachments.contains ⟨picture.id, tag.id⟩) := by
  have within : (Query.Condition.ofReference catalogue.lookup tag.label symbol).limit? = none :=
    Query.limit_of_few_nodes catalogue.lookup true (.tag tag.label symbol) _ rfl
      (by simp [Query.Expr.nodeCount])
  rw [reference_exact library keyed catalogue read tag.label symbol,
    tag_of_mem library keyed tag stored] at within ⊢
  by_cases typed : library.Typed tag symbol
  · simp only [if_pos typed, decide_eq_true typed, Bool.true_and] at within ⊢
    apply picturesMatching_of_values library platform _ _ _ rfl
      (resolved_carries library platform tag.id) within
    intro picture _
    exact evaluate_carries library platform picture tag.id (keyed.tags.positive tag stored)
  · simp only [if_neg typed, decide_eq_false typed, Bool.false_and] at within ⊢
    apply picturesMatching_of_values library platform _ _ _ rfl rfl within
    intro picture _
    rfl

include roomy

/-- Searching for a tag without a definition, with a symbol or without, finds the pictures that
carry it when it is of the right type. -/
theorem search_reference (keyed : library.Keyed) (related : library.Related) (tag : Tag)
    (stored : tag ∈ library.tags) (leaf : tag.definition = none) (symbol : Option Char)
    (wellFormed : (Query.Expr.tag tag.label symbol).WellFormed) :
    library.search platform (Query.Expr.tag tag.label symbol).text registry settings =
      .ok (library.pictures.filter fun picture =>
        decide (library.Typed tag symbol) && library.attachments.contains ⟨picture.id, tag.id⟩) := by
  obtain ⟨catalogue, read, _⟩ := catalogue_read library keyed related
  have plain : catalogue.definition? tag.label = none := by
    rw [Catalogue.definition?, catalogue_tag library keyed catalogue read,
      tag_of_mem library keyed tag stored]
    exact leaf
  have compiled := Query.compile_reference catalogue registry settings roomy tag.label symbol plain
    wellFormed
  have matching := matching_reference library platform keyed catalogue read tag stored symbol
  simp only [search, compile, read, compiled, bind, Except.bind, run, matching, Except.mapError]

theorem search_label (keyed : library.Keyed) (related : library.Related) (tag : Tag)
    (valid : tag.Valid) (stored : tag ∈ library.tags) (leaf : tag.definition = none) :
    library.search platform tag.label registry settings =
      .ok (library.pictures.filter fun picture =>
        library.attachments.contains ⟨picture.id, tag.id⟩) := by
  have searched := search_reference library platform registry settings roomy keyed related tag stored
    leaf none ⟨valid.named, rfl⟩
  have text : (Query.Expr.tag tag.label none).text = tag.label := by
    simp [Query.Expr.text, Query.Expr.write]
  have untyped : library.Typed tag none := by
    intro c member
    cases member
  simpa [text, untyped] using searched

theorem search_typed (keyed : library.Keyed) (related : library.Related) (tag : Tag)
    (valid : tag.Valid) (stored : tag ∈ library.tags) (leaf : tag.definition = none)
    (type : StoredTagType) (storedToo : type ∈ library.tagTypes) :
    library.search platform (type.symbol ++ tag.label) registry settings =
      .ok (if tag.typeId = some type.id then
          library.pictures.filter fun picture =>
            library.attachments.contains ⟨picture.id, tag.id⟩
        else []) := by
  obtain ⟨symbol, same, marks⟩ := (related.tagTypes type storedToo).marked
  have searched := search_reference library platform registry settings roomy keyed related tag stored
    leaf (some symbol) ⟨valid.named, marks⟩
  have text : (Query.Expr.tag tag.label (some symbol)).text = type.symbol ++ tag.label := by
    rw [same]
    simp [Query.Expr.text, Query.Expr.write]
  -- Symbols are distinct, so only one type can be meant.
  have typed : library.Typed tag (some symbol) ↔ tag.typeId = some type.id := by
    constructor
    · intro typed
      obtain ⟨other, storedOther, sameSymbol, ofType⟩ := typed symbol rfl
      rwa [eq_of_key StoredTagType.symbol library.tagTypes other type keyed.symbols storedOther
        storedToo (sameSymbol.trans same.symm)] at ofType
    · rintro ofType c ⟨⟩
      exact ⟨type, storedToo, same, ofType⟩
  rw [text] at searched
  by_cases ofType : tag.typeId = some type.id
  · simpa [typed, ofType] using searched
  · simpa [typed, ofType] using searched

end Reference

/-- Listing the tags of the pictures shows the same as their attachments. -/
theorem listed_iff (library : Library) (keyed : library.Keyed) (tag : Tag)
    (stored : tag ∈ library.tags) (picture : Int) :
    tag.label ∈ library.tagsOf picture ↔ ⟨picture, tag.id⟩ ∈ library.attachments := by
  rw [mem_tagsOf_iff]
  constructor
  · rintro ⟨other, storedOther, same, attached⟩
    rwa [eq_of_key Tag.label library.tags other tag keyed.labels storedOther stored same] at attached
  · intro attached
    exact ⟨tag, stored, rfl, attached⟩

theorem carriers_listed (library : Library) (keyed : library.Keyed) (tag : Tag)
    (stored : tag ∈ library.tags) :
    (library.pictures.filter fun picture => library.attachments.contains ⟨picture.id, tag.id⟩) =
      library.pictures.filter fun picture => (library.tagsOf picture.id).contains tag.label := by
  apply List.filter_congr
  intro picture _
  rw [Bool.eq_iff_iff, List.contains_iff_mem, List.contains_iff_mem]
  exact (listed_iff library keyed tag stored picture.id).symm

/-- The tag types have one count each, which says how many tags of the catalogue are of the type. -/
theorem type_counts_agree (library : Library) (keyed : library.Keyed) (related : library.Related) :
    ∃ catalogue, library.catalogue = .ok catalogue ∧
      catalogue.tagTypes.map TagType.stored = library.tagTypes ∧
      library.tagTypeCounts = catalogue.tagTypes.map fun tagType =>
        (tagType.id, catalogue.tags.countP (·.typeId == some tagType.id)) := by
  obtain ⟨catalogue, read, tags, tagTypes⟩ := catalogue_read library keyed related
  refine ⟨catalogue, read, tagTypes, ?_⟩
  rw [tagTypeCounts_eq library keyed, ← tagTypes, tags, List.map_map]
  rfl

/-- Every tag and every tag type has one count. A tag without a definition counts as often as a
search for its label finds a picture, and as often as it is listed among the tags of one; before the
label, the symbol of its type changes nothing, and the symbol of another type finds nothing. A
compound tag counts zero times. -/
theorem usage_counts_agree (library : Library) (reachable : Reachable library) (platform : Platform)
    (registry : Query.Registry) (settings : CompilerSettings) (roomy : 1 ≤ settings.maxNodes) :
    (library.tags.map (·.id)).Nodup ∧ library.tagCounts.map Prod.fst = library.tags.map (·.id) ∧
    (∀ tag ∈ library.tags, tag.definition ≠ none → library.tagCounts.lookup tag.id = some 0) ∧
    (∀ tag ∈ library.tags, tag.definition = none → ∃ found,
      library.search platform tag.label registry settings = .ok found ∧
      library.tagCounts.lookup tag.id = some found.length ∧
      found = (library.pictures.filter fun picture =>
        (library.tagsOf picture.id).contains tag.label) ∧
      ∀ type ∈ library.tagTypes,
        library.search platform (type.symbol ++ tag.label) registry settings =
          .ok (if tag.typeId = some type.id then found else [])) ∧
    (library.tagTypes.map (·.id)).Nodup ∧
    ∃ catalogue, library.catalogue = .ok catalogue ∧
      catalogue.tagTypes.map TagType.stored = library.tagTypes ∧
      library.tagTypeCounts = catalogue.tagTypes.map fun tagType =>
        (tagType.id, catalogue.tags.countP (·.typeId == some tagType.id)) := by
  have keyed := keyed_of_reachable library reachable
  have related := related_of_reachable library reachable
  have plain := carriesPlain_invariant.holds library reachable
  refine ⟨List.pairwise_map.mpr keyed.tags.distinct, ?_, ?_, ?_,
    List.pairwise_map.mpr keyed.tagTypes.distinct, type_counts_agree library keyed related⟩
  · rw [tagCounts_eq library keyed, List.map_map]
    rfl
  · intro tag stored compound
    rw [tagCounts_lookup library keyed tag stored,
      tagCount_eq_zero library plain keyed tag stored compound]
  · intro tag stored leaf
    have valid := valid_of_reachable library reachable tag stored
    refine ⟨_, search_label library platform registry settings roomy keyed related tag valid stored
      leaf, ?_, carriers_listed library keyed tag stored, ?_⟩
    · rw [tagCounts_lookup library keyed tag stored, tagCount_eq library keyed related]
    · intro type storedToo
      exact search_typed library platform registry settings roomy keyed related tag valid stored
        leaf type storedToo

/-- Two tag types, a tag of the first, one whose label differs from a keyword only in letter case,
and a compound tag. -/
def portraits : Library :=
  [Operation.insertTagType "people" '@' 0, .insertTagType "moods" '!' 0,
    .insertTag "ann" (some 1) none, .insertTag "and" none none,
    .insertTag "us" none (some "@ann OR and"), .insertPicture "a.png" none,
    .insertPicture "b.png" none, .attachTag 1 "ann", .attachTag 2 "ann", .attachTag 2 "and"].foldl
    after empty

theorem usage_counts_agree_portraits : ∃ found,
    portraits.search (.bare []) "ann" .standard ⟨1, true⟩ = .ok found ∧
    portraits.tagCounts.lookup 1 = some found.length ∧
    portraits.search (.bare []) "@ann" .standard ⟨1, true⟩ = .ok found ∧
    portraits.search (.bare []) "!ann" .standard ⟨1, true⟩ = .ok [] ∧
    portraits.tagCounts.lookup 3 = some 0 := by
  have reachable : Reachable portraits := reachable_run _
  obtain ⟨_, _, compound, plain, _⟩ :=
    usage_counts_agree portraits reachable (.bare []) .standard ⟨1, true⟩ (Nat.le_refl 1)
  obtain ⟨found, searched, counted, _, typed⟩ :=
    plain ⟨1, "ann", some 1, none⟩ (by decide +kernel) rfl
  have people := typed ⟨1, "people", "@", 0⟩ (by decide +kernel)
  have moods := typed ⟨2, "moods", "!", 0⟩ (by decide +kernel)
  have us := compound ⟨3, "us", none, some "@ann OR and"⟩ (by decide +kernel) (by decide)
  exact ⟨found, searched, counted, people, moods, us⟩

end Library

end Gallery
