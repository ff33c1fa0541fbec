import Gallery.Proofs.Library.Relations
import Gallery.Proofs.Platform

/-!
The identities that the tables of a library hand out. Over a whole run, failing operations and
registrations that are undone included, a table hands out each identity above all before it
(`run_issues`). A row that goes takes everything that refers to it along, so that nothing refers to
a new row, whatever its label or path was used for before. With what the tables say of each other
this makes a library sound after every run (`sound_after_run`).
-/

namespace Gallery.Library

/-- The tables that hand out identities. -/
inductive Series where
  | tagType
  | tag
  | picture
  deriving DecidableEq, Repr

/-- The highest identity that a table has handed out. -/
def last (library : Library) : Series → Int
  | .tagType => library.lastTagType
  | .tag => library.lastTag
  | .picture => library.lastPicture

/-- The identities of the rows of a table. -/
def ids (library : Library) : Series → List Int
  | .tagType => library.tagTypes.map (·.id)
  | .tag => library.tags.map (·.id)
  | .picture => library.pictures.map (·.id)

/-- What an insertion hands out: the identity of its row, unless it fails. -/
def issued {ε Row : Type} (series : Series) (id : Row → Int) :
    Except ε (Row × Library) → List (Series × Int)
  | .ok (row, _) => [(series, id row)]
  | .error _ => []

/-- The identities that an operation hands out. -/
def issuedBy (library : Library) : Operation → List (Series × Int)
  | .insertTagType label symbol color =>
      issued .tagType TagType.id (library.insertTagType label symbol color.toNat)
  | .insertTag label typeId definition =>
      issued .tag Tag.id (library.insertTag label typeId definition)
  | .insertPicture path hash => issued .picture Picture.id (library.insertPicture path hash)
  | .register platform path _ =>
      -- The picture has its identity before a tag is refused.
      match path.text? with
      | none => []
      | some text =>
          issued .picture Picture.id
            (library.insertPicture text (platform.hashOfFile path).toOption)
  | _ => []

/-- The identities that operations hand out one after the other. -/
def issuedIn : Library → List Operation → List (Series × Int)
  | _, [] => []
  | library, operation :: rest =>
      library.issuedBy operation ++ (library.after operation).issuedIn rest

/-- On the way from one library to another the tables have handed out the identities `issued`. -/
structure Issues (library : Library) (issued : List (Series × Int)) (next : Library) : Prop where
  grows : ∀ series, library.last series ≤ next.last series
  fresh : ∀ entry ∈ issued, library.last entry.1 < entry.2 ∧ entry.2 ≤ next.last entry.1
  ascending : issued.Pairwise fun earlier later => earlier.1 = later.1 → earlier.2 < later.2
  stored : ∀ series, ∀ id ∈ next.ids series, id ∈ library.ids series ∨ (series, id) ∈ issued

theorem issues_refl (library : Library) : Issues library [] library :=
  ⟨fun _ => Int.le_refl _, by simp, .nil, fun _ _ member => .inl member⟩

theorem issues_append (library middle next : Library) (first second : List (Series × Int))
    (before : Issues library first middle) (after : Issues middle second next) :
    Issues library (first ++ second) next := by
  refine ⟨?_, ?_, ?_, ?_⟩
  · intro series
    exact (before.grows series).trans (after.grows series)
  · intro entry member
    have lower := before.grows entry.1
    have upper := after.grows entry.1
    rcases List.mem_append.mp member with early | late
    · have := before.fresh entry early
      omega
    · have := after.fresh entry late
      omega
  · -- What the second way hands out is above the counter that the first one has reached.
    refine List.pairwise_append.mpr ⟨before.ascending, after.ascending, ?_⟩
    intro earlier early later late same
    have reached := (before.fresh earlier early).2
    have above := (after.fresh later late).1
    rw [same] at reached
    omega
  · intro series id member
    rcases after.stored series id member with middle | late
    · rcases before.stored series id middle with old | early
      · exact .inl old
      · exact .inr (List.mem_append_left _ early)
    · exact .inr (List.mem_append_right _ late)

/-! Operations that hand out nothing. -/

/-- Rows may change or go, as long as none gets another identity. -/
theorem issues_of_rows (library : Library) (tagTypes : List StoredTagType) (tags : List Tag)
    (pictures : List Picture) (attachments : List Attachment)
    (sameTypes : tagTypes.map (·.id) ⊆ library.tagTypes.map (·.id))
    (sameTags : tags.map (·.id) ⊆ library.tags.map (·.id))
    (samePictures : pictures.map (·.id) ⊆ library.pictures.map (·.id)) :
    Issues library [] ⟨tagTypes, tags, pictures, attachments, library.lastTagType, library.lastTag,
      library.lastPicture⟩ := by
  refine ⟨fun series => ?_, by simp, .nil, fun series id member => .inl ?_⟩
  · cases series with
    | tagType | tag | picture => exact Int.le_refl _
  · cases series with
    | tagType => exact sameTypes member
    | tag => exact sameTags member
    | picture => exact samePictures member

theorem ids_map {Row : Type} (id : Row → Int) (rows : List Row) (change : Row → Row)
    (same : ∀ row, id (change row) = id row) : (rows.map change).map id ⊆ rows.map id := by
  rw [List.map_map]
  exact (List.map_congr_left fun row _ => same row) ▸ List.Subset.refl _

theorem ids_filter {Row : Type} (id : Row → Int) (rows : List Row) (p : Row → Bool) :
    (rows.filter p).map id ⊆ rows.map id :=
  (List.filter_sublist.map id).subset

theorem issues_attachments (library : Library) (attachments : List Attachment) :
    Issues library [] { library with attachments := attachments } :=
  issues_of_rows library _ _ _ attachments (List.Subset.refl _) (List.Subset.refl _)
    (List.Subset.refl _)

theorem issues_replaceTag (library : Library) (tag : Tag) :
    Issues library [] (library.replaceTag tag) := by
  refine issues_of_rows library _ _ _ _ (List.Subset.refl _) ?_ (List.Subset.refl _)
  apply ids_map
  intro old
  split
  · next same => exact same.symm
  · rfl

theorem issues_changePicture (library : Library) (id : Int) (change : Picture → Picture)
    (same : ∀ picture, (change picture).id = picture.id) :
    Issues library [] (library.changePicture id change) :=
  issues_of_rows library _ _ _ _ (List.Subset.refl _) (List.Subset.refl _)
    (ids_map _ _ _ (changed_id id change same))

theorem issues_deletePicture (library : Library) (id : Int) :
    Issues library [] (library.deletePicture id).2 :=
  issues_of_rows library _ _ _ _ (List.Subset.refl _) (List.Subset.refl _) (ids_filter _ _ _)

theorem issues_mergePictures (library : Library) (source target : Int) :
    Issues library [] (library.mergePictures source target).2 := by
  rw [mergePictures]
  split
  · exact issues_refl library
  · exact issues_append _ _ _ [] [] (issues_attachments library _) (issues_deletePicture _ source)

theorem issues_updateTagType (library : Library) (symbol : Char) (label : String)
    (newSymbol : Char) (color : Nat) (tagType : TagType) (next : Library)
    (done : library.updateTagType symbol label newSymbol color = .ok (tagType, next)) :
    Issues library [] next := by
  obtain ⟨old, _, _, _, _, rfl, rfl⟩ :=
    updateTagType_ok library symbol label newSymbol color tagType next done
  refine issues_of_rows library _ _ _ _ ?_ (List.Subset.refl _) (List.Subset.refl _)
  apply ids_map
  intro stored
  split
  · next same => exact same.symm
  · rfl

theorem issues_deleteTagType (library : Library) (symbol : Char) (tagType : TagType)
    (next : Library) (done : library.deleteTagType symbol = .ok (tagType, next)) :
    Issues library [] next := by
  obtain ⟨_, rfl⟩ := deleteTagType_ok library symbol tagType next done
  refine issues_of_rows library _ _ _ _ (ids_filter _ _ _) ?_ (List.Subset.refl _)
  apply ids_map
  intro tag
  split
  · rfl
  · rfl

theorem issues_attachTag (library : Library) (picture : Int) (label : String) (id : Int)
    (next : Library) (done : library.attachTag picture label = .ok (id, next)) :
    Issues library [] next := by
  obtain ⟨_, _, _, _, _, rfl⟩ := attachTag_ok library picture label id next done
  exact issues_attachments library _

theorem issues_attachTags (library : Library) (picture : Int) (labels : List String) :
    Issues library [] (library.attachTags picture labels).1 := by
  induction labels generalizing library with
  | nil => exact issues_refl library
  | cons label rest ih =>
      rw [attachTags]
      split
      · exact issues_refl library
      · next id next done =>
          exact issues_append _ _ _ [] [] (issues_attachTag library picture label id next done)
            (ih next)

/-! Operations that hand out an identity. -/

/-- A new row gets the identity after the last one of its table, and the other tables stay. -/
theorem issues_row (library next : Library) (series : Series)
    (counted : ∀ other, next.last other = library.last other + if other = series then 1 else 0)
    (added : ∀ other, next.ids other =
      library.ids other ++ if other = series then [library.last series + 1] else []) :
    Issues library [(series, library.last series + 1)] next := by
  refine ⟨fun other => ?_, fun entry member => ?_, List.pairwise_singleton _ _,
    fun other id member => ?_⟩
  · rw [counted other]
    split <;> omega
  · cases List.mem_singleton.mp member
    have here := counted series
    rw [if_pos rfl] at here
    exact ⟨Int.lt_succ _, here.ge⟩
  · rw [added other] at member
    rcases List.mem_append.mp member with old | new
    · exact .inl old
    · by_cases here : other = series
      · subst here
        rw [if_pos rfl, List.mem_singleton] at new
        exact .inr (by rw [new]; exact List.mem_singleton_self _)
      · rw [if_neg here] at new
        cases new

theorem issues_insertTagType (library : Library) (label : String) (symbol : Char) (color : Nat) :
    Issues library (issued .tagType TagType.id (library.insertTagType label symbol color))
      (library.kept (library.insertTagType label symbol color)) := by
  cases inserted : library.insertTagType label symbol color with
  | error error => exact issues_refl library
  | ok pair =>
      obtain ⟨tagType, next⟩ := pair
      obtain ⟨_, _, _, _, rfl, rfl⟩ :=
        insertTagType_ok library label symbol color tagType next inserted
      apply issues_row library _ .tagType
      · intro other
        cases other <;> simp [last, kept]
      · intro other
        cases other <;> simp [last, ids, kept, TagType.stored]

theorem issues_insertTag (library : Library) (label : String) (typeId : Option Int)
    (definition : Option String) :
    Issues library (issued .tag Tag.id (library.insertTag label typeId definition))
      (library.kept (library.insertTag label typeId definition)) := by
  cases inserted : library.insertTag label typeId definition with
  | error error => exact issues_refl library
  | ok pair =>
      obtain ⟨tag, next⟩ := pair
      obtain ⟨_, _, _, _, rfl, rfl⟩ :=
        insertTag_ok library label typeId definition tag next inserted
      apply issues_row library _ .tag
      · intro other
        cases other <;> simp [last, kept]
      · intro other
        cases other <;> simp [last, ids, kept]

theorem issues_insertPicture (library : Library) (path : String) (hash : Option PictureHash) :
    Issues library (issued .picture Picture.id (library.insertPicture path hash))
      (library.kept (library.insertPicture path hash)) := by
  cases inserted : library.insertPicture path hash with
  | error error => exact issues_refl library
  | ok pair =>
      obtain ⟨picture, next⟩ := pair
      obtain ⟨_, rfl, rfl⟩ := insertPicture_ok library path hash picture next inserted
      apply issues_row library _ .picture
      · intro other
        cases other <;> simp [last, kept]
      · intro other
        cases other <;> simp [last, ids, kept]

theorem issues_register (library : Library) (platform : Platform) (path : Text.RawText)
    (labels : List String) :
    Issues library (library.issuedBy (.register platform path labels))
      (library.register platform path labels).1 := by
  have ways := register_registers library platform path labels
  rw [issuedBy]
  generalize library.register platform path labels = outcome at ways
  obtain ⟨next, result⟩ := outcome
  cases ways with
  | unreadable unread =>
      rw [unread]
      exact issues_refl _
  | refused text error read refused =>
      simp only [read, refused]
      exact issues_refl _
  | registered text picture inserted _ read done attached =>
      have first := issues_insertPicture library text (platform.hashOfFile path).toOption
      have second := issues_attachTags inserted picture.id labels
      simp only [read]
      rw [done] at first ⊢
      rw [attached] at second
      have attaching := issues_append _ _ _ _ _ first second
      rwa [List.append_nil] at attaching
  | undone text picture inserted attached error read done failed =>
      have first := issues_insertPicture library text (platform.hashOfFile path).toOption
      have second := issues_attachTags inserted picture.id labels
      simp only [read]
      rw [done] at first ⊢
      rw [failed] at second
      have attaching := issues_append _ _ _ _ _ first second
      have removing :=
        issues_append _ _ _ _ _ attaching (issues_deletePicture attached picture.id)
      rwa [List.append_nil, List.append_nil] at removing

/-- What an operation hands out, be it successful or not. -/
theorem operation_issues (library : Library) (operation : Operation) :
    Issues library (library.issuedBy operation) (library.after operation) := by
  have nothing {ε α : Type} (result : Except ε (α × Library))
      (step : ∀ value next, result = .ok (value, next) → Issues library [] next) :
      Issues library [] (library.kept result) :=
    kept_of_ok (Issues library []) library result (issues_refl library) step
  cases operation with
  | insertTagType label symbol color =>
      exact issues_insertTagType library label symbol color.toNat
  | updateTagType symbol label newSymbol color =>
      exact nothing _ (issues_updateTagType library symbol label newSymbol color.toNat)
  | deleteTagType symbol => exact nothing _ (issues_deleteTagType library symbol)
  | insertTag label typeId definition => exact issues_insertTag library label typeId definition
  | defineTag label definition =>
      refine nothing _ fun tag next done => ?_
      obtain ⟨_, _, _, _, _, rfl⟩ := defineTag_ok library label definition tag next done
      exact issues_replaceTag library tag
  | renameTag label newLabel =>
      refine nothing _ fun tag next done => ?_
      obtain ⟨_, _, _, ⟨_, _, rfl⟩ | ⟨_, _, _, _, _, rfl⟩⟩ :=
        renameTag_ok library label newLabel tag next done
      · exact issues_refl _
      · exact issues_replaceTag library tag
  | deleteTag label =>
      refine nothing _ fun tag next done => ?_
      obtain ⟨_, _, rfl⟩ := deleteTag_ok library label tag next done
      exact issues_of_rows library _ _ _ _ (List.Subset.refl _) (ids_filter _ _ _)
        (List.Subset.refl _)
  | insertPicture path hash => exact issues_insertPicture library path hash
  | updateHash id hash => exact issues_changePicture library id _ fun _ => rfl
  | deletePicture id => exact issues_deletePicture library id
  | movePicture id path =>
      refine nothing _ fun moved next done => ?_
      obtain ⟨_, _, rfl⟩ | ⟨_, _, _, _, rfl⟩ := movePicture_ok library id path moved next done
      · exact issues_refl _
      · exact issues_changePicture library id _ fun _ => rfl
  | mergePictures source target => exact issues_mergePictures library source target
  | attachTag picture label => exact nothing _ (issues_attachTag library picture label)
  | attachTags picture labels => exact issues_attachTags library picture labels
  | register platform path labels => exact issues_register library platform path labels
  | recomputeHash platform id =>
      refine nothing _ fun picture next done => ?_
      obtain ⟨hash, rfl⟩ := recomputeHash_ok library platform id picture next done
      exact issues_changePicture library id _ fun _ => rfl

/-- Along a run each table hands out ascending identities, those of the stored rows among them. -/
theorem run_issues (library : Library) (operations : List Operation) :
    Issues library (library.issuedIn operations) (operations.foldl after library) := by
  induction operations generalizing library with
  | nil => exact issues_refl library
  | cons operation rest ih =>
      exact issues_append _ _ _ _ _ (operation_issues library operation) (ih _)

/-! New rows. -/

theorem unattached_tag (library : Library) (keyed : library.Keyed) (plain : library.CarriesPlain)
    (label : String) (typeId : Option Int) (definition : Option String) (tag : Tag)
    (next : Library) (done : library.insertTag label typeId definition = .ok (tag, next)) :
    ∀ attachment ∈ next.attachments, attachment.tag ≠ tag.id := by
  obtain ⟨_, _, _, _, rfl, rfl⟩ := insertTag_ok library label typeId definition tag next done
  intro attachment member same
  obtain ⟨old, stored, names, _⟩ := plain attachment member
  have handedOut := keyed.tags.handedOut old stored
  dsimp only at same
  omega

theorem unattached_picture (library : Library) (keyed : library.Keyed) (related : library.Related)
    (path : String) (hash : Option PictureHash) (picture : Picture) (next : Library)
    (done : library.insertPicture path hash = .ok (picture, next)) :
    ∀ attachment ∈ next.attachments, attachment.picture ≠ picture.id := by
  obtain ⟨_, rfl, rfl⟩ := insertPicture_ok library path hash picture next done
  intro attachment member same
  obtain ⟨old, stored, names⟩ := related.attachedTo attachment member
  have handedOut := keyed.pictures.handedOut old stored
  dsimp only at same
  omega

/-- The rows of a library agree with each other: labels, symbols and paths are admitted and
distinct, and what a row refers to is stored. -/
structure Sound (library : Library) : Prop where
  tagLabels : Distinct Tag.label library.tags
  tagsNamed : ∀ tag ∈ library.tags, validateLabel tag.label = .ok ()
  symbols : Distinct StoredTagType.symbol library.tagTypes
  typesMarked : ∀ stored ∈ library.tagTypes, ∃ symbol : Char,
    stored.symbol = symbol.toString ∧ validateSymbol symbol = .ok ()
  typeLabels : Distinct StoredTagType.label library.tagTypes
  typesNamed : ∀ stored ∈ library.tagTypes, Text.isBlankText stored.label.toList = false
  paths : Distinct Picture.path library.pictures
  tagsTyped : ∀ tag ∈ library.tags, ∀ id, tag.typeId = some id →
    ∃ stored ∈ library.tagTypes, stored.id = id
  attachedOnce : library.attachments.Nodup
  attachedPictures : ∀ attachment ∈ library.attachments,
    ∃ picture ∈ library.pictures, picture.id = attachment.picture
  attachedTags : ∀ attachment ∈ library.attachments,
    ∃ tag ∈ library.tags, tag.id = attachment.tag

theorem sound_of_reachable (library : Library) (reachable : Reachable library) :
    library.Sound := by
  have keyed := keyed_of_reachable library reachable
  have valid := valid_of_reachable library reachable
  have related := related_of_reachable library reachable
  have plain := carriesPlain_invariant.holds library reachable
  exact {
    tagLabels := keyed.labels
    tagsNamed := fun tag stored => if_pos (valid tag stored).named
    symbols := keyed.symbols
    typesMarked := fun stored member =>
      have ⟨symbol, same, marks⟩ := (related.tagTypes stored member).marked
      ⟨symbol, same, (validateSymbol_ok_iff symbol).mpr marks⟩
    typeLabels := keyed.typeLabels
    typesNamed := fun stored member => (related.tagTypes stored member).visible
    paths := keyed.paths
    tagsTyped := related.typed
    attachedOnce := related.attachedOnce
    attachedPictures := related.attachedTo
    attachedTags := fun attachment member =>
      have ⟨tag, stored, names, _⟩ := plain attachment member
      ⟨tag, stored, names⟩ }

/-- After every run of operations from the empty library the rows agree with each other, and along
the run each table has handed out every identity above all before it, those of its rows among them.
A new tag and a new picture have no attachments, and the library is read as a catalogue with one
entry for each stored tag and tag type. -/
theorem sound_after_run (operations : List Operation) :
    let library := operations.foldl after empty
    library.Sound ∧
    ((empty.issuedIn operations).Pairwise fun earlier later =>
      earlier.1 = later.1 → earlier.2 < later.2) ∧
    (∀ series, ∀ id ∈ library.ids series, (series, id) ∈ empty.issuedIn operations) ∧
    (∀ label typeId definition tag next,
      library.insertTag label typeId definition = .ok (tag, next) →
        ∀ attachment ∈ next.attachments, attachment.tag ≠ tag.id) ∧
    (∀ path hash picture next, library.insertPicture path hash = .ok (picture, next) →
      ∀ attachment ∈ next.attachments, attachment.picture ≠ picture.id) ∧
    ∃ catalogue, library.catalogue = .ok catalogue ∧ catalogue.tags = library.tags ∧
      catalogue.tagTypes.map TagType.stored = library.tagTypes := by
  intro library
  have reachable : Reachable library := reachable_run operations
  have keyed := keyed_of_reachable library reachable
  have related := related_of_reachable library reachable
  have plain := carriesPlain_invariant.holds library reachable
  have issues := run_issues empty operations
  refine ⟨sound_of_reachable library reachable, issues.ascending, ?_,
    unattached_tag library keyed plain, unattached_picture library keyed related,
    catalogue_read library keyed related⟩
  intro series id member
  rcases issues.stored series id member with old | new
  · -- The empty library has no rows from before the run.
    cases series <;> cases old
  · exact new

/-- A tag is deleted while a picture carries it, and a registration is undone. -/
def reuse : List Operation :=
  [.insertTag "cat" none none, .insertPicture "a.png" none, .attachTag 1 "cat",
    .register (.bare []) "b.png".toUTF8.toList ["cat", "dog"], .deleteTag "cat",
    .insertPicture "b.png" none]

/-- Neither identity is used again: the tag that comes back is a new one, which no picture
carries. -/
theorem sound_after_run_reuse :
    empty.issuedIn reuse = [(.tag, 1), (.picture, 1), (.picture, 2), (.picture, 3)] ∧
    ∃ next, (reuse.foldl after empty).insertTag "cat" none none =
      .ok (⟨2, "cat", none, none⟩, next) ∧ ∀ attachment ∈ next.attachments, attachment.tag ≠ 2 := by
  have inserted : (reuse.foldl after empty).insertTag "cat" none none =
      .ok (⟨2, "cat", none, none⟩, ⟨[], [⟨2, "cat", none, none⟩],
        [⟨1, "a.png", none⟩, ⟨3, "b.png", none⟩], [], 0, 2, 3⟩) := by decide +kernel
  obtain ⟨_, _, _, unattached, _⟩ := sound_after_run reuse
  exact ⟨by decide +kernel, _, inserted, unattached "cat" none none _ _ inserted⟩

end Gallery.Library
