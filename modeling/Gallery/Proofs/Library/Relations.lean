import Gallery.Proofs.Library.Attachment
import Gallery.Proofs.Library.Definitions

/-!
How the tables of a library refer to each other. In every reachable library the type of a tag is
stored, a picture carries a tag once, and the pictures and tags of the attachments are stored
(`related_of_reachable`). Every stored tag type can be read, so that there is always a catalogue
(`catalogue_read`).
-/

namespace Gallery

/-- A stored tag type as the checks admit it: its symbol is one character that can be a symbol, its
label shows, and its color is one. -/
structure StoredTagType.Valid (stored : StoredTagType) : Prop where
  marked : ∃ symbol, stored.symbol = symbol.toString ∧ Query.isTypeSymbol symbol = true
  visible : Text.isBlankText stored.label.toList = false
  colored : 0 ≤ stored.color ∧ stored.color < 0x100000000

theorem TagType.stored_valid (tagType : TagType) (symbol : Query.isTypeSymbol tagType.symbol = true)
    (visible : Text.isBlankText tagType.label.toList = false) (color : tagType.color < 0x100000000) :
    tagType.stored.Valid :=
  ⟨⟨tagType.symbol, rfl, symbol⟩, visible, Int.natCast_nonneg _, by
    simpa [TagType.stored] using Int.ofNat_lt.mpr color⟩

theorem StoredTagType.Valid.readable (stored : StoredTagType) (valid : stored.Valid) :
    ∃ tagType, stored.tagType? = some tagType := by
  obtain ⟨symbol, same, _⟩ := valid.marked
  have shape : stored.symbol.toList = [symbol] := by simp [same]
  rw [StoredTagType.tagType?, shape]
  exact ⟨_, if_pos valid.colored⟩

namespace Library

/-- The tag types are admitted by the checks, and what a row refers to is stored. -/
structure Related (library : Library) : Prop where
  tagTypes : ∀ stored ∈ library.tagTypes, stored.Valid
  typed : ∀ tag ∈ library.tags, ∀ id, tag.typeId = some id →
    ∃ stored ∈ library.tagTypes, stored.id = id
  attachedOnce : library.attachments.Nodup
  attachedTo : ∀ attachment ∈ library.attachments,
    ∃ picture ∈ library.pictures, picture.id = attachment.picture

theorem related_empty : Related empty :=
  ⟨by simp [empty], by simp [empty], .nil, by simp [empty]⟩

theorem related_insertTagType (library : Library) (related : library.Related) (label : String)
    (symbol : Char) (color : UInt32) (tagType : TagType) (next : Library)
    (done : library.insertTagType label symbol color.toNat = .ok (tagType, next)) :
    next.Related := by
  obtain ⟨symbolValid, visible, _, _, rfl, rfl⟩ :=
    insertTagType_ok library label symbol color.toNat tagType next done
  refine { related with tagTypes := ?_, typed := ?_ }
  · intro stored member
    rcases List.mem_append.mp member with old | new
    · exact related.tagTypes stored old
    · rw [List.mem_singleton.mp new]
      exact TagType.stored_valid _ symbolValid visible color.toNat_lt
  · intro tag member id type
    obtain ⟨stored, known, same⟩ := related.typed tag member id type
    exact ⟨stored, List.mem_append_left _ known, same⟩

theorem related_updateTagType (library : Library) (related : library.Related) (symbol : Char)
    (label : String) (newSymbol : Char) (color : UInt32) (tagType : TagType) (next : Library)
    (done : library.updateTagType symbol label newSymbol color.toNat = .ok (tagType, next)) :
    next.Related := by
  obtain ⟨old, symbolValid, visible, _, _, rfl, rfl⟩ :=
    updateTagType_ok library symbol label newSymbol color.toNat tagType next done
  refine { related with tagTypes := ?_, typed := ?_ }
  · intro stored member
    obtain ⟨before, known, rfl⟩ := List.mem_map.mp member
    split
    · exact TagType.stored_valid _ symbolValid visible color.toNat_lt
    · exact related.tagTypes before known
  · intro tag member id type
    obtain ⟨stored, known, same⟩ := related.typed tag member id type
    refine ⟨_, List.mem_map.mpr ⟨stored, known, rfl⟩, ?_⟩
    -- The changed tag type keeps its identity.
    split
    · next changed => exact changed.symm.trans same
    · exact same

theorem related_deleteTagType (library : Library) (related : library.Related) (symbol : Char)
    (tagType : TagType) (next : Library)
    (done : library.deleteTagType symbol = .ok (tagType, next)) : next.Related := by
  obtain ⟨_, rfl⟩ := deleteTagType_ok library symbol tagType next done
  refine { related with tagTypes := ?_, typed := ?_ }
  · intro stored member
    exact related.tagTypes stored (List.mem_filter.mp member).1
  · intro tag member id type
    obtain ⟨old, known, rfl⟩ := List.mem_map.mp member
    split at type
    · cases type
    · next other =>
        obtain ⟨stored, member, same⟩ := related.typed old known id type
        -- A tag that still has a type has another one than the deleted.
        have apart : stored.id ≠ tagType.id := by
          intro deleted
          exact other (type.trans (congrArg some (same.symm.trans deleted)))
        exact ⟨stored, List.mem_filter.mpr ⟨member, by simpa using apart⟩, same⟩

theorem related_insertTag (library : Library) (related : library.Related) (label : String)
    (typeId : Option Int) (definition : Option String) (tag : Tag) (next : Library)
    (done : library.insertTag label typeId definition = .ok (tag, next)) : next.Related := by
  obtain ⟨_, _, known, _, rfl, rfl⟩ := insertTag_ok library label typeId definition tag next done
  refine { related with typed := ?_ }
  intro other member id type
  rcases List.mem_append.mp member with old | new
  · exact related.typed other old id type
  · cases List.mem_singleton.mp new
    simpa using known id type

/-- A tag may be put in place of another when it has the type of a stored one. -/
theorem related_replaceTag (library : Library) (related : library.Related) (tag old : Tag)
    (stored : old ∈ library.tags) (same : tag.typeId = old.typeId) :
    (library.replaceTag tag).Related := by
  refine { related with typed := ?_ }
  intro other member id type
  obtain ⟨before, known, rfl⟩ := List.mem_map.mp member
  split at type
  · exact related.typed old stored id (same ▸ type)
  · exact related.typed before known id type

theorem related_deleteTag (library : Library) (related : library.Related) (label : String)
    (tag : Tag) (next : Library) (done : library.deleteTag label = .ok (tag, next)) :
    next.Related := by
  obtain ⟨_, _, rfl⟩ := deleteTag_ok library label tag next done
  refine { related with typed := ?_, attachedOnce := ?_, attachedTo := ?_ }
  · intro other member
    exact related.typed other (List.mem_filter.mp member).1
  · exact related.attachedOnce.filter _
  · intro attachment member
    exact related.attachedTo attachment (List.mem_filter.mp member).1

theorem related_insertPicture (library : Library) (related : library.Related) (path : String)
    (hash : Option PictureHash) (picture : Picture) (next : Library)
    (done : library.insertPicture path hash = .ok (picture, next)) : next.Related := by
  obtain ⟨_, _, rfl⟩ := insertPicture_ok library path hash picture next done
  refine { related with attachedTo := ?_ }
  intro attachment member
  obtain ⟨old, stored, same⟩ := related.attachedTo attachment member
  exact ⟨old, List.mem_append_left _ stored, same⟩

theorem related_changePicture (library : Library) (related : library.Related) (id : Int)
    (change : Picture → Picture) (sameId : ∀ picture, (change picture).id = picture.id) :
    (library.changePicture id change).Related := by
  refine { related with attachedTo := ?_ }
  intro attachment member
  obtain ⟨picture, stored, same⟩ := related.attachedTo attachment member
  exact ⟨_, List.mem_map.mpr ⟨picture, stored, rfl⟩,
    (changed_id id change sameId picture).trans same⟩

theorem related_deletePicture (library : Library) (related : library.Related) (id : Int) :
    (library.deletePicture id).2.Related := by
  refine { related with attachedOnce := ?_, attachedTo := ?_ }
  · exact related.attachedOnce.filter _
  · -- The attachments of the deleted picture have gone with it.
    intro attachment member
    obtain ⟨member, apart⟩ := List.mem_filter.mp member
    obtain ⟨picture, stored, same⟩ := related.attachedTo attachment member
    exact ⟨picture, List.mem_filter.mpr ⟨stored, by rwa [same]⟩, same⟩

theorem mem_of_picture (library : Library) (id : Int) (picture : Picture)
    (found : library.picture? id = some picture) : picture ∈ library.pictures ∧ picture.id = id :=
  ⟨List.mem_of_find?_eq_some found, by simpa using List.find?_some found⟩

theorem related_copyTags (library : Library) (related : library.Related) (source target : Int)
    (picture : Picture) (found : library.picture? target = some picture) :
    (library.copyTags source target).Related := by
  refine { related with attachedOnce := ?_, attachedTo := ?_ }
  · -- A copy differs from another one in the tag, since the originals agree in the picture.
    have copies : ((library.attachments.filter (·.picture == source)).map fun attachment =>
        ({ attachment with picture := target } : Attachment)).Nodup := by
      refine (related.attachedOnce.filter _).map_on ?_
      intro a fromA b fromB same
      have ofA : a.picture = source := by simpa using (List.mem_filter.mp fromA).2
      have ofB : b.picture = source := by simpa using (List.mem_filter.mp fromB).2
      have sameTag : a.tag = b.tag := (Attachment.mk.inj same).2
      calc
        a = ⟨source, b.tag⟩ := by rw [← ofA, ← sameTag]
        _ = b := by rw [← ofB]
    refine List.nodup_append'.mpr ⟨related.attachedOnce, copies.filter _, ?_⟩
    intro attachment old copied
    simpa [old] using (List.mem_filter.mp copied).2
  · intro attachment member
    rcases List.mem_append.mp member with old | copied
    · exact related.attachedTo attachment old
    · obtain ⟨original, _, rfl⟩ := List.mem_map.mp (List.mem_filter.mp copied).1
      obtain ⟨stored, same⟩ := mem_of_picture library target picture found
      exact ⟨picture, stored, same⟩

theorem related_mergePictures (library : Library) (related : library.Related)
    (source target : Int) : (library.mergePictures source target).2.Related := by
  rw [mergePictures]
  split
  · exact related
  · next possible =>
      simp only [not_or, Option.isNone_iff_eq_none] at possible
      obtain ⟨picture, found⟩ := Option.ne_none_iff_exists'.mp possible.2.2
      exact related_deletePicture _
        (related_copyTags library related source target picture found) source

theorem related_attachTag (library : Library) (related : library.Related) (picture : Int)
    (label : String) (id : Int) (next : Library)
    (done : library.attachTag picture label = .ok (id, next)) : next.Related := by
  obtain ⟨tag, _, _, _, present, rfl⟩ := attachTag_ok library picture label id next done
  obtain ⟨known, found⟩ := Option.ne_none_iff_exists'.mp present
  obtain ⟨stored, same⟩ := mem_of_picture library picture known found
  by_cases attached : library.attachments.contains ⟨picture, tag.id⟩ = true
  · simpa only [attached, ↓reduceIte] using related
  · simp only [attached, Bool.false_eq_true, ↓reduceIte]
    refine { related with attachedOnce := ?_, attachedTo := ?_ }
    · refine List.nodup_append'.mpr ⟨related.attachedOnce, List.nodup_singleton _, ?_⟩
      intro attachment old new
      cases List.mem_singleton.mp new
      exact attached (List.contains_iff_mem.mpr old)
    · intro attachment member
      rcases List.mem_append.mp member with old | new
      · exact related.attachedTo attachment old
      · cases List.mem_singleton.mp new
        exact ⟨known, stored, same⟩

theorem related_invariant : Invariant Related where
  empty := related_empty
  insertTagType library label symbol color tagType next _ related done :=
    related_insertTagType library related label symbol color tagType next done
  updateTagType library symbol label newSymbol color tagType next _ related done :=
    related_updateTagType library related symbol label newSymbol color tagType next done
  deleteTagType library symbol tagType next _ related done :=
    related_deleteTagType library related symbol tagType next done
  insertTag library label typeId definition tag next _ related done :=
    related_insertTag library related label typeId definition tag next done
  defineTag library label definition tag next _ related done := by
    obtain ⟨old, _, found, _, rfl, rfl⟩ := defineTag_ok library label definition tag next done
    exact related_replaceTag library related _ old (mem_of_tag library label old found) rfl
  renameTag library label newLabel tag next _ related done := by
    obtain ⟨old, _, found, ⟨_, _, rfl⟩ | ⟨_, _, _, _, rfl, rfl⟩⟩ :=
      renameTag_ok library label newLabel tag next done
    · exact related
    · exact related_replaceTag library related _ old (mem_of_tag library label old found) rfl
  deleteTag library label tag next _ related done :=
    related_deleteTag library related label tag next done
  insertPicture library path hash picture next _ related done :=
    related_insertPicture library related path hash picture next done
  updateHash library id hash _ related :=
    related_changePicture library related id _ fun _ => rfl
  deletePicture library id _ related := related_deletePicture library related id
  movePicture library id path moved next _ related done := by
    obtain ⟨_, _, rfl⟩ | ⟨_, _, _, _, rfl⟩ := movePicture_ok library id path moved next done
    · exact related
    · exact related_changePicture library related id _ fun _ => rfl
  mergePictures library source target _ related :=
    related_mergePictures library related source target
  attachTag library picture label id next _ related done :=
    related_attachTag library related picture label id next done

/-- What the rows of a reachable library refer to is stored. -/
theorem related_of_reachable (library : Library) (reachable : Reachable library) :
    library.Related :=
  related_invariant.holds library reachable

theorem mapM_of_readable {α β : Type} (f : α → Option β) (items : List α)
    (readable : ∀ item ∈ items, ∃ result, f item = some result) :
    ∃ results, items.mapM f = some results := by
  induction items with
  | nil => exact ⟨[], rfl⟩
  | cons item rest ih =>
      obtain ⟨result, first⟩ := readable item List.mem_cons_self
      obtain ⟨results, others⟩ := ih fun other member =>
        readable other (List.mem_cons_of_mem item member)
      exact ⟨result :: results, by simp [first, others]⟩

/-- The catalogue can be read, and has one entry for each stored tag and tag type. -/
theorem catalogue_read (library : Library) (keyed : library.Keyed) (related : library.Related) :
    ∃ catalogue, library.catalogue = .ok catalogue ∧ catalogue.tags = library.tags ∧
      catalogue.tagTypes.map TagType.stored = library.tagTypes := by
  obtain ⟨tagTypes, decoded⟩ := mapM_of_readable StoredTagType.tagType? library.tagTypes
    fun stored member => (related.tagTypes stored member).readable stored
  have read : library.catalogue = .ok (.ofLists tagTypes library.tags) := by
    rw [Library.catalogue, readTagTypes, decoded]
    rfl
  obtain ⟨_, same, stored⟩ := catalogue_exact library keyed _ read
  exact ⟨_, read, by rw [same], by rwa [same]⟩

end Library

end Gallery
