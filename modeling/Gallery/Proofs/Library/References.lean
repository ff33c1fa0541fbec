import Mathlib.Data.List.Infix
import Gallery.Proofs.Library.Registration

/-!
What the labels in definitions refer to. A label refers to a tag by name only, so the tag that has
the label could be renamed or deleted under it. It is not: while a definition mentions the label,
the same tag keeps it, whatever happens to the other tags (`reference_kept`).
-/

namespace Gallery

theorem Tag.Mentions.of_definition (a b : Tag) (label : String) (mentions : a.Mentions label)
    (same : b.definition = a.definition) : b.Mentions label := by
  obtain ⟨definition, expr, defined, parsed, mentioned⟩ := mentions
  exact ⟨definition, expr, same.trans defined, parsed, mentioned⟩

namespace Library

/-- The label refers to the tag with the given identity. -/
def Resolves (library : Library) (label : String) (id : Int) : Prop :=
  ∃ tag ∈ library.tags, tag.label = label ∧ tag.id = id

/-- A definition mentions the label. -/
def Mentioned (library : Library) (label : String) : Prop :=
  ∃ tag ∈ library.tags, tag.Mentions label

/-- A label still refers to the same tag when no tag changes its label or its identity. -/
theorem resolves_map (library : Library) (change : Tag → Tag) (label : String) (id : Int)
    (kept : ∀ tag ∈ library.tags, tag.label = label →
      (change tag).label = label ∧ (change tag).id = tag.id)
    (resolves : library.Resolves label id) :
    Resolves { library with tags := library.tags.map change } label id := by
  obtain ⟨tag, stored, same, rfl⟩ := resolves
  obtain ⟨sameLabel, sameId⟩ := kept tag stored same
  exact ⟨change tag, List.mem_map_of_mem stored, sameLabel, sameId⟩

theorem resolves_deleteTagType (library : Library) (label : String) (id : Int)
    (resolves : library.Resolves label id) (symbol : Char) (tagType : TagType) (next : Library)
    (done : library.deleteTagType symbol = .ok (tagType, next)) : next.Resolves label id := by
  obtain ⟨_, rfl⟩ := deleteTagType_ok library symbol tagType next done
  apply resolves_map library _ label id _ resolves
  intro tag _ same
  by_cases typed : tag.typeId = some tagType.id
  · simp [typed, same]
  · simp [typed, same]

theorem resolves_insertTag (library : Library) (label : String) (id : Int)
    (resolves : library.Resolves label id) (other : String) (typeId : Option Int)
    (definition : Option String) (tag : Tag) (next : Library)
    (done : library.insertTag other typeId definition = .ok (tag, next)) :
    next.Resolves label id := by
  obtain ⟨_, _, _, _, _, rfl⟩ := insertTag_ok library other typeId definition tag next done
  obtain ⟨old, stored, same⟩ := resolves
  exact ⟨old, List.mem_append_left _ stored, same⟩

theorem resolves_replaceTag (library : Library) (label : String) (id : Int)
    (resolves : library.Resolves label id) (tag : Tag)
    (kept : ∀ old ∈ library.tags, old.label = label → old.id = tag.id → tag.label = label) :
    (library.replaceTag tag).Resolves label id := by
  apply resolves_map library _ label id _ resolves
  intro old stored same
  by_cases replaced : old.id = tag.id
  · simp [replaced, kept old stored same replaced]
  · simp [replaced, same]

theorem resolves_defineTag (library : Library) (keyed : library.Keyed) (label : String) (id : Int)
    (resolves : library.Resolves label id) (other : String) (definition : Option String) (tag : Tag)
    (next : Library) (done : library.defineTag other definition = .ok (tag, next)) :
    next.Resolves label id := by
  obtain ⟨defined, _, found, _, rfl, rfl⟩ := defineTag_ok library other definition tag next done
  apply resolves_replaceTag library label id resolves
  -- The tag with the new definition is the one that was found, and keeps its label.
  intro old stored same sameId
  have known := mem_of_tag library other defined found
  rwa [eq_of_id library keyed old defined stored known sameId] at same

/-! A label that a definition mentions keeps its tag from being renamed or deleted. -/

theorem apart_of_mentioned (library : Library) (keyed : library.Keyed) (valid : library.TagsValid)
    (label other : String) (mentioned : library.Mentioned label) (tag : Tag)
    (found : library.tag? other = some tag)
    (unreferenced : library.ensureUnreferenced other = .ok ()) : tag.label ≠ label := by
  intro same
  obtain ⟨user, stored, mentions⟩ := mentioned
  rw [← same, label_of_tag library other tag found] at mentions
  exact (ensureUnreferenced_iff library keyed valid other).mp unreferenced user stored mentions

theorem resolves_renameTag (library : Library) (keyed : library.Keyed) (valid : library.TagsValid)
    (label : String) (id : Int) (mentioned : library.Mentioned label)
    (resolves : library.Resolves label id) (other newLabel : String) (tag : Tag) (next : Library)
    (done : library.renameTag other newLabel = .ok (tag, next)) : next.Resolves label id := by
  obtain ⟨renamed, _, found, ⟨_, _, rfl⟩ | ⟨_, _, unreferenced, _, rfl, rfl⟩⟩ :=
    renameTag_ok library other newLabel tag next done
  · exact resolves
  · have apart := apart_of_mentioned library keyed valid label other mentioned renamed found
      unreferenced
    apply resolves_replaceTag library label id resolves
    intro old stored same sameId
    have known := mem_of_tag library other renamed found
    rw [eq_of_id library keyed old renamed stored known sameId] at same
    exact absurd same apart

theorem resolves_deleteTag (library : Library) (keyed : library.Keyed) (valid : library.TagsValid)
    (label : String) (id : Int) (mentioned : library.Mentioned label)
    (resolves : library.Resolves label id) (other : String) (tag : Tag) (next : Library)
    (done : library.deleteTag other = .ok (tag, next)) : next.Resolves label id := by
  obtain ⟨found, unreferenced, rfl⟩ := deleteTag_ok library other tag next done
  have apart := apart_of_mentioned library keyed valid label other mentioned tag found unreferenced
  obtain ⟨old, stored, same, sameId⟩ := resolves
  refine ⟨old, List.mem_filter.mpr ⟨stored, ?_⟩, same, sameId⟩
  rw [bne_iff_ne]
  intro deleted
  rw [eq_of_id library keyed old tag stored (mem_of_tag library other tag found) deleted] at same
  exact apart same

theorem tags_register (library : Library) (reachable : Reachable library) (platform : Platform)
    (path : Text.RawText) (labels : List String) :
    (library.register platform path labels).1.tags = library.tags := by
  have order := register_concurrently 1 Nat.one_pos library platform path labels
  rcases concurrently_clean 1 library reachable platform path labels _ _ order with
    ⟨text, picture, _, _, _, gains⟩ | ⟨_, _, same | same, _⟩
  · obtain ⟨added, same, _⟩ := gains.only
    rw [same]
  · rw [same]
  · rw [same]

theorem tags_attachTags (library : Library) (reachable : Reachable library) (picture : Int)
    (labels : List String) : (library.attachTags picture labels).1.tags = library.tags := by
  have once := (related_of_reachable library reachable).attachedOnce
  have order := attachTags_attaches 1 Nat.one_pos library picture labels
  obtain ⟨⟨added, same, _⟩, _⟩ := attaches_exact 1 library once picture labels _ _ order
  rw [same]

/-- The operations that may change rows of tags. -/
def changesTags : Operation → Bool
  | .deleteTagType _ | .insertTag .. | .defineTag .. | .renameTag .. | .deleteTag _ => true
  | _ => false

theorem tags_after (library : Library) (reachable : Reachable library) (operation : Operation)
    (other : changesTags operation = false) : (library.after operation).tags = library.tags := by
  have step {ε α : Type} (result : Except ε (α × Library))
      (done : ∀ value next, result = .ok (value, next) → next.tags = library.tags) :
      (library.kept result).tags = library.tags :=
    kept_of_ok (fun next => next.tags = library.tags) library result rfl done
  cases operation with
  | deleteTagType | insertTag | defineTag | renameTag | deleteTag => cases other
  | insertTagType label symbol color =>
      refine step _ fun tagType next done => ?_
      obtain ⟨_, _, _, _, _, rfl⟩ :=
        insertTagType_ok library label symbol color.toNat tagType next done
      rfl
  | updateTagType symbol label newSymbol color =>
      refine step _ fun tagType next done => ?_
      obtain ⟨_, _, _, _, _, _, rfl⟩ :=
        updateTagType_ok library symbol label newSymbol color.toNat tagType next done
      rfl
  | insertPicture path hash =>
      refine step _ fun picture next done => ?_
      obtain ⟨_, _, rfl⟩ := insertPicture_ok library path hash picture next done
      rfl
  | updateHash | deletePicture => rfl
  | movePicture target path =>
      refine step _ fun moved next done => ?_
      obtain ⟨_, _, rfl⟩ | ⟨_, _, _, _, rfl⟩ := movePicture_ok library target path moved next done
      · rfl
      · rfl
  | mergePictures source target =>
      rw [after, mergePictures]
      split
      · rfl
      · rfl
  | attachTag picture label =>
      refine step _ fun tag next done => ?_
      obtain ⟨_, _, _, _, _, rfl⟩ := attachTag_ok library picture label tag next done
      rfl
  | attachTags picture labels => exact tags_attachTags library reachable picture labels
  | register platform path labels => exact tags_register library reachable platform path labels
  | recomputeHash platform target =>
      refine step _ fun picture next done => ?_
      obtain ⟨hash, rfl⟩ := recomputeHash_ok library platform target picture next done
      rfl

/-- While a definition mentions a label, no operation changes which tag it refers to. -/
theorem resolves_after (library : Library) (reachable : Reachable library) (label : String)
    (id : Int) (mentioned : library.Mentioned label) (resolves : library.Resolves label id)
    (operation : Operation) : (library.after operation).Resolves label id := by
  have keyed := keyed_of_reachable library reachable
  have valid := valid_of_reachable library reachable
  have step {ε α : Type} (result : Except ε (α × Library))
      (done : ∀ value next, result = .ok (value, next) → next.Resolves label id) :
      (library.kept result).Resolves label id :=
    kept_of_ok (fun next => next.Resolves label id) library result resolves done
  by_cases changes : changesTags operation = true
  · cases operation with
    | deleteTagType symbol =>
        exact step _ (resolves_deleteTagType library label id resolves symbol)
    | insertTag other typeId definition =>
        exact step _ (resolves_insertTag library label id resolves other typeId definition)
    | defineTag other definition =>
        exact step _ (resolves_defineTag library keyed label id resolves other definition)
    | renameTag other newLabel =>
        exact step _
          (resolves_renameTag library keyed valid label id mentioned resolves other newLabel)
    | deleteTag other =>
        exact step _ (resolves_deleteTag library keyed valid label id mentioned resolves other)
    | _ => cases changes
  · rw [Resolves, tags_after library reachable operation (Bool.eq_false_of_not_eq_true changes)]
    exact resolves

/-- A label refers to the same tag as long as one tag keeps a definition that mentions it. -/
theorem resolves_run (library : Library) (reachable : Reachable library) (label : String)
    (id : Int) (user : Tag) (stored : user ∈ library.tags) (mentions : user.Mentions label)
    (resolves : library.Resolves label id) (operations : List Operation)
    (kept : ∀ earlier ∈ operations.inits, ∃ tag ∈ (earlier.foldl after library).tags,
      tag.id = user.id ∧ tag.definition = user.definition) :
    (operations.foldl after library).Resolves label id := by
  induction operations generalizing library user with
  | nil => exact resolves
  | cons operation rest ih =>
      -- The tag that mentions the label may change its own label, but its definition carries over.
      obtain ⟨tag, storedNext, sameId, same⟩ := kept [operation] (by simp)
      apply ih (library.after operation) (.step library operation reachable) tag storedNext
        (mentions.of_definition user tag label same)
      · exact resolves_after library reachable label id ⟨user, stored, mentions⟩ resolves operation
      · intro earlier initial
        rw [sameId, same]
        exact kept (operation :: earlier) (by simpa using initial)

/-- A definition that mentions a label of a stored tag, with a symbol or without, keeps its
reference: after any operation a tag with the same identity has the label, and so it is after a run
of operations during which the definition stays. -/
theorem reference_kept (library : Library) (reachable : Reachable library) (user target : Tag)
    (stored : user ∈ library.tags) (present : target ∈ library.tags)
    (mentions : user.Mentions target.label) :
    (∀ operation, ∃ tag ∈ (library.after operation).tags,
      tag.label = target.label ∧ tag.id = target.id) ∧
    ∀ operations : List Operation,
      (∀ earlier ∈ operations.inits, ∃ tag ∈ (earlier.foldl after library).tags,
        tag.id = user.id ∧ tag.definition = user.definition) →
      ∃ tag ∈ (operations.foldl after library).tags,
        tag.label = target.label ∧ tag.id = target.id := by
  have resolves : library.Resolves target.label target.id := ⟨target, present, rfl, rfl⟩
  constructor
  · exact resolves_after library reachable target.label target.id ⟨user, stored, mentions⟩ resolves
  · exact resolves_run library reachable target.label target.id user stored mentions resolves

/-- The tag with the definition gets another label itself, and the tag that it mentions cannot be
renamed or deleted meanwhile. -/
theorem reference_kept_menagerie :
    let operations := [Operation.renameTag "animals" "pets", .renameTag "cat" "lion",
      .deleteTag "cat"]
    Reachable menagerie ∧
    (∀ earlier ∈ operations.inits, ∃ tag ∈ (earlier.foldl after menagerie).tags,
      tag.id = 2 ∧ tag.definition = some "cat OR NOT %dog") ∧
    ∃ tag ∈ (operations.foldl after menagerie).tags, tag.label = "cat" ∧ tag.id = 1 := by
  intro operations
  have reachable : Reachable menagerie := reachable_run _
  have stored : ⟨2, "animals", none, some "cat OR NOT %dog"⟩ ∈ menagerie.tags := by decide +kernel
  have present : ⟨1, "cat", none, none⟩ ∈ menagerie.tags := by decide +kernel
  have parsed : Query.parse "cat OR NOT %dog" =
      .ok (.or (.tag "cat" none) (.not (.tag "dog" (some '%')))) := by decide +kernel
  have mentions : Tag.Mentions ⟨2, "animals", none, some "cat OR NOT %dog"⟩ "cat" :=
    ⟨_, _, rfl, parsed, none, by simp [Query.Expr.references]⟩
  have kept : ∀ earlier ∈ operations.inits, ∃ tag ∈ (earlier.foldl after menagerie).tags,
      tag.id = 2 ∧ tag.definition = some "cat OR NOT %dog" := by decide +kernel
  obtain ⟨_, throughout⟩ := reference_kept menagerie reachable _ _ stored present mentions
  exact ⟨reachable, kept, throughout operations kept⟩

end Library

end Gallery
