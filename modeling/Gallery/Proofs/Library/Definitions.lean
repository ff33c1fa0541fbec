import Gallery.Proofs.Library.Catalogue
import Gallery.Proofs.Query.Circularity
import Gallery.Proofs.Query.Validation

/-!
The definitions that a library stores. In every reachable library a definition can be read and does
not mention its own tag: whatever sets a definition or a label checks the two against each other
(`valid_of_reachable`). So no search meets a definition that cannot be read, and no mention of a
label escapes the check before a tag is renamed or deleted (`definitions_usable`).
-/

namespace Gallery

namespace Query

-- Definitions are read by the expansion only: what comes after it fails for other reasons.
theorem expand_of_unreadable (text : String) (catalogue : Catalogue) (registry : Registry)
    (settings : CompilerSettings) (label : String) (fault : SyntaxError)
    (failed : compile text catalogue registry settings =
      .error (.unreadableDefinition label fault)) :
    ∃ expr, expand catalogue.definitions settings.maxNodes expr =
      .error (.unreadableDefinition label fault) := by
  rw [compile] at failed
  split at failed
  · cases failed
  · next expr _ =>
      rcases (compileExpr_error_iff expr catalogue registry settings _).mp failed with
        unexpanded | ⟨expanded, _, invalid⟩
      · exact ⟨expr, unexpanded⟩
      · obtain ⟨_, same, _⟩ := (registry.validate_error_iff expanded _).mp invalid
        cases same

end Query

/-- The definition of the tag can be read and refers to the label, with a symbol or without. -/
def Tag.Mentions (tag : Tag) (label : String) : Prop :=
  ∃ definition expr, tag.definition = some definition ∧ Query.parse definition = .ok expr ∧
    ∃ symbol, (label, symbol) ∈ expr.references

/-- A tag as the checks admit it: its label can name a tag, and its definition, when there is one,
can be read and does not mention the label. -/
structure Tag.Valid (tag : Tag) : Prop where
  named : Query.isLabel tag.label = true
  defined : Library.validateDefinition? tag.label tag.definition = .ok ()

theorem validateDefinition_ok_iff (label definition : String) :
    validateDefinition label definition = .ok () ↔
      ∃ expr, Query.parse definition = .ok expr ∧ ∀ symbol, (label, symbol) ∉ expr.references := by
  rw [validateDefinition]
  cases parsed : Query.parse definition with
  | error error => simp
  | ok expr =>
      have mentioned := expr.mem_labels_iff label
      simp [mentioned]

theorem mentions_iff (definition label : String) (expr : Query.Expr)
    (parsed : Query.parse definition = .ok expr) :
    mentions definition label = true ↔ ∃ symbol, (label, symbol) ∈ expr.references := by
  rw [mentions, parsed, ← expr.mem_labels_iff label]
  exact List.contains_iff_mem

theorem Tag.Valid.readable (tag : Tag) (valid : tag.Valid) (definition : String)
    (defined : tag.definition = some definition) :
    ∃ expr, Query.parse definition = .ok expr ∧
      ∀ symbol, (tag.label, symbol) ∉ expr.references := by
  have checked := valid.defined
  rw [defined] at checked
  exact (validateDefinition_ok_iff tag.label definition).mp checked

theorem Tag.Valid.not_self (tag : Tag) (valid : tag.Valid) : ¬tag.Mentions tag.label := by
  rintro ⟨definition, expr, defined, parsed, symbol, mentioned⟩
  obtain ⟨other, parsed', apart⟩ := valid.readable tag definition defined
  rw [parsed] at parsed'
  cases parsed'
  exact apart symbol mentioned

namespace Library

/-- Every stored tag is one that the checks admit. -/
def TagsValid (library : Library) : Prop :=
  ∀ tag ∈ library.tags, tag.Valid

theorem tagsValid_replaceTag (library : Library) (valid : library.TagsValid) (tag : Tag)
    (validTag : tag.Valid) : (library.replaceTag tag).TagsValid := by
  intro other member
  obtain ⟨old, stored, rfl⟩ := List.mem_map.mp member
  split
  · exact validTag
  · exact valid old stored

theorem tagsValid_insertTag (library : Library) (valid : library.TagsValid) (label : String)
    (typeId : Option Int) (definition : Option String) (tag : Tag) (next : Library)
    (done : library.insertTag label typeId definition = .ok (tag, next)) : next.TagsValid := by
  obtain ⟨named, defined, _, _, rfl, rfl⟩ :=
    insertTag_ok library label typeId definition tag next done
  intro other member
  rcases List.mem_append.mp member with old | new
  · exact valid other old
  · cases List.mem_singleton.mp new
    exact ⟨named, defined⟩

theorem label_of_tag (library : Library) (label : String) (tag : Tag)
    (found : library.tag? label = some tag) : tag.label = label := by
  simpa using List.find?_some found

theorem tagsValid_defineTag (library : Library) (valid : library.TagsValid) (label : String)
    (definition : Option String) (tag : Tag) (next : Library)
    (done : library.defineTag label definition = .ok (tag, next)) : next.TagsValid := by
  obtain ⟨old, defined, found, _, rfl, rfl⟩ :=
    defineTag_ok library label definition tag next done
  have same := label_of_tag library label old found
  apply tagsValid_replaceTag library valid
  -- The definition was checked against the label under which the tag was found, which is its own.
  exact ⟨(valid old (mem_of_tag library label old found)).named, same ▸ defined⟩

theorem tagsValid_renameTag (library : Library) (valid : library.TagsValid)
    (label newLabel : String) (tag : Tag) (next : Library)
    (done : library.renameTag label newLabel = .ok (tag, next)) : next.TagsValid := by
  obtain ⟨old, named, _, ⟨_, _, rfl⟩ | ⟨_, _, _, defined, rfl, rfl⟩⟩ :=
    renameTag_ok library label newLabel tag next done
  · exact valid
  · exact tagsValid_replaceTag library valid _ ⟨named, defined⟩

theorem tagsValid_deleteTagType (library : Library) (valid : library.TagsValid) (symbol : Char)
    (tagType : TagType) (next : Library)
    (done : library.deleteTagType symbol = .ok (tagType, next)) : next.TagsValid := by
  obtain ⟨_, rfl⟩ := deleteTagType_ok library symbol tagType next done
  intro other member
  obtain ⟨old, stored, rfl⟩ := List.mem_map.mp member
  have validOld := valid old stored
  split
  · exact ⟨validOld.named, validOld.defined⟩
  · exact validOld

theorem tagsValid_invariant : Invariant TagsValid where
  empty := fun tag member => by cases member
  insertTagType library label symbol color tagType next _ valid done := by
    obtain ⟨_, _, _, _, _, rfl⟩ :=
      insertTagType_ok library label symbol color.toNat tagType next done
    exact valid
  updateTagType library symbol label newSymbol color tagType next _ valid done := by
    obtain ⟨_, _, _, _, _, _, rfl⟩ :=
      updateTagType_ok library symbol label newSymbol color.toNat tagType next done
    exact valid
  deleteTagType library symbol tagType next _ valid done :=
    tagsValid_deleteTagType library valid symbol tagType next done
  insertTag library label typeId definition tag next _ valid done :=
    tagsValid_insertTag library valid label typeId definition tag next done
  defineTag library label definition tag next _ valid done :=
    tagsValid_defineTag library valid label definition tag next done
  renameTag library label newLabel tag next _ valid done :=
    tagsValid_renameTag library valid label newLabel tag next done
  deleteTag library label tag next _ valid done := by
    obtain ⟨_, _, rfl⟩ := deleteTag_ok library label tag next done
    exact fun other member => valid other (List.mem_filter.mp member).1
  insertPicture library path hash picture next _ valid done := by
    obtain ⟨_, _, rfl⟩ := insertPicture_ok library path hash picture next done
    exact valid
  updateHash library id hash _ valid := valid
  deletePicture library id _ valid := valid
  movePicture library id path moved next _ valid done := by
    obtain ⟨_, _, rfl⟩ | ⟨_, _, _, _, rfl⟩ := movePicture_ok library id path moved next done
    · exact valid
    · exact valid
  mergePictures library source target _ valid := by
    rw [mergePictures]
    split
    · exact valid
    · exact valid
  attachTag library picture label id next _ valid done := by
    obtain ⟨_, _, _, _, _, rfl⟩ := attachTag_ok library picture label id next done
    exact valid

/-- Every tag of a reachable library is one that the checks admit. -/
theorem valid_of_reachable (library : Library) (reachable : Reachable library) :
    library.TagsValid :=
  tagsValid_invariant.holds library reachable

/-! What keeps a tag in its place: the definitions that mention its label. -/

theorem mem_referencing_iff (library : Library) (keyed : library.Keyed)
    (valid : library.TagsValid) (label user : String) :
    user ∈ (Catalogue.ofLists [] library.tags).referencing label ↔
      ∃ tag ∈ library.tags, tag.label = user ∧ tag.Mentions label := by
  rw [Catalogue.ofLists_distinct [] library.tags .nil keyed.labels, Catalogue.referencing,
    List.mem_mergeSort, List.mem_map]
  constructor
  · rintro ⟨tag, member, rfl⟩
    obtain ⟨stored, test⟩ := List.mem_filter.mp member
    obtain ⟨_, mentioned⟩ := (Bool.and_eq_true _ _).mp test
    obtain ⟨definition, defined, mentioned⟩ := (Option.any_eq_true _ _).mp mentioned
    obtain ⟨expr, parsed, _⟩ := (valid tag stored).readable tag definition defined
    have inside := (mentions_iff definition label expr parsed).mp mentioned
    exact ⟨tag, stored, rfl, definition, expr, defined, parsed, inside⟩
  · rintro ⟨tag, stored, rfl, mentioned⟩
    -- The tag with the label itself is left out, but its own definition never mentions it.
    have apart : tag.label ≠ label := by
      rintro rfl
      exact (valid tag stored).not_self tag mentioned
    obtain ⟨definition, expr, defined, parsed, inside⟩ := mentioned
    have test := (mentions_iff definition label expr parsed).mpr inside
    exact ⟨tag, List.mem_filter.mpr ⟨stored, by simp [apart, defined, test]⟩, rfl⟩

theorem ensureUnreferenced_iff (library : Library) (keyed : library.Keyed)
    (valid : library.TagsValid) (label : String) :
    library.ensureUnreferenced label = .ok () ↔ ∀ tag ∈ library.tags, ¬tag.Mentions label := by
  have exact := mem_referencing_iff library keyed valid label
  rw [ensureUnreferenced]
  cases users : (Catalogue.ofLists [] library.tags).referencing label with
  | nil =>
      simp only [true_iff]
      intro tag stored mentioned
      have listed := (exact tag.label).mpr ⟨tag, stored, rfl, mentioned⟩
      rw [users] at listed
      cases listed
  | cons user rest =>
      simp only [reduceCtorEq, false_iff]
      intro unmentioned
      obtain ⟨tag, stored, _, mentioned⟩ := (exact user).mp (users ▸ List.mem_cons_self)
      exact unmentioned tag stored mentioned

/-! Searches. -/

theorem compile_of_search_error (library : Library) (platform : Platform) (text : String)
    (registry : Query.Registry) (settings : CompilerSettings) (error : Query.QueryError)
    (failed : library.search platform text registry settings = .error (.query error)) :
    ∃ catalogue, library.catalogue = .ok catalogue ∧
      Query.compile text catalogue registry settings = .error error := by
  rcases (bind_error_iff _ _ _).mp failed with uncompiled | ⟨query, _, unrun⟩
  · rw [compile] at uncompiled
    split at uncompiled
    · cases uncompiled
    · next catalogue read =>
        split at uncompiled
        · next other same =>
            cases uncompiled
            exact ⟨catalogue, read, same⟩
        · cases uncompiled
  · -- What fails once a query is compiled is no matter of the query any more.
    cases ran : library.run platform query with
    | ok pictures =>
        rw [ran] at unrun
        cases unrun
    | error other =>
        rw [ran] at unrun
        cases unrun

theorem search_reads_definitions (library : Library) (keyed : library.Keyed)
    (valid : library.TagsValid) (platform : Platform) (text : String) (registry : Query.Registry)
    (settings : CompilerSettings) (label : String) (fault : Query.SyntaxError) :
    library.search platform text registry settings ≠
      .error (.query (.unreadableDefinition label fault)) := by
  intro failed
  obtain ⟨catalogue, read, uncompiled⟩ :=
    compile_of_search_error library platform text registry settings _ failed
  obtain ⟨expr, unexpanded⟩ :=
    Query.expand_of_unreadable text catalogue registry settings label fault uncompiled
  obtain ⟨other, _, ⟨same, _⟩ | ⟨definition, _, same, defined, unread⟩⟩ :=
    Query.blamed_of_expand catalogue.definitions settings.maxNodes expr _ unexpanded (by simp)
  · cases same
  · -- The definition that is blamed belongs to a stored tag, and those can be read.
    cases same
    have looked : (catalogue.tag? label).bind (·.definition) = some definition := defined
    rw [catalogue_tag library keyed catalogue read label] at looked
    obtain ⟨tag, found, defined⟩ := Option.bind_eq_some_iff.mp looked
    obtain ⟨body, parsed, _⟩ :=
      (valid tag (mem_of_tag library label tag found)).readable tag definition defined
    rw [unread] at parsed
    cases parsed

/-- Every definition of a reachable library can be read and does not mention its own tag, with a
symbol or without. Therefore no search fails because of a definition, the tags that are listed as
mentioning a label are exactly those that do, and a label passes as unmentioned before its tag is
renamed or deleted exactly when no stored definition mentions it. -/
theorem definitions_usable (library : Library) (reachable : Reachable library) :
    (∀ tag ∈ library.tags, ∀ definition, tag.definition = some definition →
      ∃ expr, Query.parse definition = .ok expr ∧
        ∀ symbol, (tag.label, symbol) ∉ expr.references) ∧
    (∀ platform text registry settings label fault,
      library.search platform text registry settings ≠
        .error (.query (.unreadableDefinition label fault))) ∧
    ∀ label,
      (∀ user, user ∈ (Catalogue.ofLists [] library.tags).referencing label ↔
        ∃ tag ∈ library.tags, tag.label = user ∧ tag.Mentions label) ∧
      (library.ensureUnreferenced label = .ok () ↔
        ∀ tag ∈ library.tags, ¬tag.Mentions label) := by
  have keyed := keyed_of_reachable library reachable
  have valid := valid_of_reachable library reachable
  refine ⟨fun tag stored => (valid tag stored).readable tag, ?_, fun label => ⟨?_, ?_⟩⟩
  · exact search_reads_definitions library keyed valid
  · exact mem_referencing_iff library keyed valid label
  · exact ensureUnreferenced_iff library keyed valid label

/-- A compound tag that got another label, and that mentions a stored tag and, with a symbol, one
that is not stored. -/
def menagerie : Library :=
  [Operation.insertTag "cat" none none, .insertTag "pets" none (some "cat OR NOT %dog"),
    .renameTag "pets" "animals", .defineTag "animals" (some "animals"), .deleteTag "cat"].foldl
      after empty

theorem definitions_usable_menagerie : Reachable menagerie ∧
    ⟨2, "animals", none, some "cat OR NOT %dog"⟩ ∈ menagerie.tags ∧
    (∃ expr, Query.parse "cat OR NOT %dog" = .ok expr ∧
      ∀ symbol, ("animals", symbol) ∉ expr.references) ∧
    menagerie.ensureUnreferenced "dog" ≠ .ok () := by
  have reachable : Reachable menagerie := reachable_run _
  have stored : ⟨2, "animals", none, some "cat OR NOT %dog"⟩ ∈ menagerie.tags := by decide +kernel
  have parsed : Query.parse "cat OR NOT %dog" =
      .ok (.or (.tag "cat" none) (.not (.tag "dog" (some '%')))) := by decide +kernel
  obtain ⟨readable, _, checked⟩ := definitions_usable menagerie reachable
  refine ⟨reachable, stored, readable _ stored _ rfl, fun passed => ?_⟩
  exact (checked "dog").2.mp passed _ stored
    ⟨_, _, rfl, parsed, some '%', by simp [Query.Expr.references]⟩

end Library

end Gallery
