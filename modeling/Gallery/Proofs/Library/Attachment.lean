import Gallery.Proofs.Library.Keys

/-!
What pictures carry. In every reachable library an attachment names a stored tag without a
definition: a compound tag cannot be attached, and a tag that a picture carries gets no definition.
Since no two tags share an identity, the tag that is named is the only one that it can mean
(`attached_tag_plain`).
-/

namespace Gallery.Library

/-- Every attachment names a stored tag without a definition. -/
def CarriesPlain (library : Library) : Prop :=
  ∀ attachment ∈ library.attachments,
    ∃ tag ∈ library.tags, tag.id = attachment.tag ∧ tag.definition = none

/-- Nothing is lost when every attachment names a tag that was named before, and the tags that are
still named stay plain. -/
theorem carriesPlain_of_kept (library next : Library) (plain : library.CarriesPlain)
    (named : ∀ attachment ∈ next.attachments,
      ∃ old ∈ library.attachments, old.tag = attachment.tag)
    (stays : ∀ attachment ∈ next.attachments, ∀ tag ∈ library.tags, tag.id = attachment.tag →
      tag.definition = none → ∃ new ∈ next.tags, new.id = tag.id ∧ new.definition = none) :
    next.CarriesPlain := by
  intro attachment member
  obtain ⟨old, before, same⟩ := named attachment member
  obtain ⟨tag, stored, names, undefined_⟩ := plain old before
  rw [same] at names
  obtain ⟨new, storedNew, sameId, undefinedNew⟩ :=
    stays attachment member tag stored names undefined_
  exact ⟨new, storedNew, sameId.trans names, undefinedNew⟩

/-- The tags play no role for attachments that are left. -/
theorem carriesPlain_of_fewer (library next : Library) (plain : library.CarriesPlain)
    (sameTags : next.tags = library.tags)
    (named : ∀ attachment ∈ next.attachments,
      ∃ old ∈ library.attachments, old.tag = attachment.tag) : next.CarriesPlain := by
  apply carriesPlain_of_kept library next plain named
  intro attachment _ tag stored _ undefined_
  exact ⟨tag, sameTags ▸ stored, rfl, undefined_⟩

theorem eq_of_id (library : Library) (keyed : library.Keyed) (a b : Tag) (first : a ∈ library.tags)
    (second : b ∈ library.tags) (same : a.id = b.id) : a = b :=
  eq_of_key Tag.id library.tags a b keyed.tags.distinct first second same

theorem plain_of_named (library : Library) (keyed : library.Keyed) (plain : library.CarriesPlain)
    (attachment : Attachment) (member : attachment ∈ library.attachments) (tag : Tag)
    (stored : tag ∈ library.tags) (names : tag.id = attachment.tag) : tag.definition = none := by
  obtain ⟨other, storedOther, namesOther, undefined_⟩ := plain attachment member
  rw [eq_of_id library keyed tag other stored storedOther (names.trans namesOther.symm)]
  exact undefined_

/-- A tag may be put in place of another when it is plain, or no picture carries it. -/
theorem carriesPlain_replaceTag (library : Library) (plain : library.CarriesPlain) (tag : Tag)
    (allowed : ∀ attachment ∈ library.attachments, attachment.tag = tag.id →
      tag.definition = none) : (library.replaceTag tag).CarriesPlain := by
  apply carriesPlain_of_kept library _ plain
  · intro attachment member
    exact ⟨attachment, member, rfl⟩
  · intro attachment member old stored names undefined_
    by_cases replaced : old.id = tag.id
    · refine ⟨tag, List.mem_map.mpr ⟨old, stored, if_pos replaced⟩, replaced.symm, ?_⟩
      exact allowed attachment member (names.symm.trans replaced)
    · exact ⟨old, List.mem_map.mpr ⟨old, stored, if_neg replaced⟩, rfl, undefined_⟩

theorem carriesPlain_insertTag (library : Library) (plain : library.CarriesPlain) (label : String)
    (typeId : Option Int) (definition : Option String) (tag : Tag) (next : Library)
    (done : library.insertTag label typeId definition = .ok (tag, next)) : next.CarriesPlain := by
  obtain ⟨_, _, _, _, _, rfl⟩ := insertTag_ok library label typeId definition tag next done
  apply carriesPlain_of_kept library _ plain
  · intro attachment member
    exact ⟨attachment, member, rfl⟩
  · intro attachment _ old stored _ undefined_
    exact ⟨old, List.mem_append_left _ stored, rfl, undefined_⟩

theorem carriesPlain_defineTag (library : Library) (plain : library.CarriesPlain) (label : String)
    (definition : Option String) (tag : Tag) (next : Library)
    (done : library.defineTag label definition = .ok (tag, next)) : next.CarriesPlain := by
  obtain ⟨old, _, _, unused, rfl, rfl⟩ := defineTag_ok library label definition tag next done
  apply carriesPlain_replaceTag library plain
  intro attachment member names
  cases definition with
  | none => rfl
  | some text =>
      -- A definition is set only when the count of the tag is zero, and this attachment counts.
      have nobody := List.countP_eq_zero.mp (unused rfl) attachment member
      exact absurd (by simpa using names) nobody

theorem carriesPlain_renameTag (library : Library) (keyed : library.Keyed)
    (plain : library.CarriesPlain) (label newLabel : String) (tag : Tag) (next : Library)
    (done : library.renameTag label newLabel = .ok (tag, next)) : next.CarriesPlain := by
  obtain ⟨old, _, found, ⟨_, _, rfl⟩ | ⟨_, _, _, _, rfl, rfl⟩⟩ :=
    renameTag_ok library label newLabel tag next done
  · exact plain
  · apply carriesPlain_replaceTag library plain
    intro attachment member names
    -- The definition is kept, and identities tell tags apart: the old tag is the one carried.
    have stored := mem_of_tag library label old found
    exact plain_of_named library keyed plain attachment member old stored names.symm

theorem carriesPlain_deleteTag (library : Library) (plain : library.CarriesPlain) (label : String)
    (tag : Tag) (next : Library) (done : library.deleteTag label = .ok (tag, next)) :
    next.CarriesPlain := by
  obtain ⟨_, _, rfl⟩ := deleteTag_ok library label tag next done
  apply carriesPlain_of_kept library _ plain
  · intro attachment member
    exact ⟨attachment, (List.mem_filter.mp member).1, rfl⟩
  · -- The attachments of the deleted tag have gone with it.
    intro attachment member old stored names undefined_
    have apart := (List.mem_filter.mp member).2
    rw [← names] at apart
    exact ⟨old, List.mem_filter.mpr ⟨stored, apart⟩, rfl, undefined_⟩

theorem carriesPlain_deleteTagType (library : Library) (plain : library.CarriesPlain)
    (symbol : Char) (tagType : TagType) (next : Library)
    (done : library.deleteTagType symbol = .ok (tagType, next)) : next.CarriesPlain := by
  obtain ⟨_, rfl⟩ := deleteTagType_ok library symbol tagType next done
  apply carriesPlain_of_kept library _ plain
  · intro attachment member
    exact ⟨attachment, member, rfl⟩
  · intro attachment _ old stored _ undefined_
    refine ⟨_, List.mem_map.mpr ⟨old, stored, rfl⟩, ?_, ?_⟩
    · split <;> rfl
    · split
      · exact undefined_
      · exact undefined_

theorem carriesPlain_deletePicture (library : Library) (plain : library.CarriesPlain) (id : Int) :
    (library.deletePicture id).2.CarriesPlain := by
  apply carriesPlain_of_fewer library (library.deletePicture id).2 plain rfl
  intro attachment member
  exact ⟨attachment, (List.mem_filter.mp member).1, rfl⟩

theorem carriesPlain_copyTags (library : Library) (plain : library.CarriesPlain)
    (source target : Int) : (library.copyTags source target).CarriesPlain := by
  apply carriesPlain_of_fewer library (library.copyTags source target) plain rfl
  intro attachment member
  rcases List.mem_append.mp member with old | copied
  · exact ⟨attachment, old, rfl⟩
  · obtain ⟨original, from_, rfl⟩ := List.mem_map.mp (List.mem_filter.mp copied).1
    exact ⟨original, (List.mem_filter.mp from_).1, rfl⟩

theorem carriesPlain_mergePictures (library : Library) (plain : library.CarriesPlain)
    (source target : Int) : (library.mergePictures source target).2.CarriesPlain := by
  rw [mergePictures]
  split
  · exact plain
  · exact carriesPlain_deletePicture _ (carriesPlain_copyTags library plain source target) source

theorem carriesPlain_attachTag (library : Library) (plain : library.CarriesPlain) (picture : Int)
    (label : String) (id : Int) (next : Library)
    (done : library.attachTag picture label = .ok (id, next)) : next.CarriesPlain := by
  obtain ⟨tag, found, undefined_, _, _, rfl⟩ :=
    attachTag_ok library picture label id next done
  intro attachment member
  dsimp only at member
  split at member
  · exact plain attachment member
  · rcases List.mem_append.mp member with old | new
    · exact plain attachment old
    · cases List.mem_singleton.mp new
      exact ⟨tag, mem_of_tag library label tag found, rfl, undefined_⟩

theorem carriesPlain_invariant : Invariant CarriesPlain where
  empty := fun attachment member => by cases member
  insertTagType library label symbol color tagType next _ plain done := by
    obtain ⟨_, _, _, _, _, rfl⟩ :=
      insertTagType_ok library label symbol color.toNat tagType next done
    exact plain
  updateTagType library symbol label newSymbol color tagType next _ plain done := by
    obtain ⟨_, _, _, _, _, _, rfl⟩ :=
      updateTagType_ok library symbol label newSymbol color.toNat tagType next done
    exact plain
  deleteTagType library symbol tagType next _ plain done :=
    carriesPlain_deleteTagType library plain symbol tagType next done
  insertTag library label typeId definition tag next _ plain done :=
    carriesPlain_insertTag library plain label typeId definition tag next done
  defineTag library label definition tag next _ plain done :=
    carriesPlain_defineTag library plain label definition tag next done
  renameTag library label newLabel tag next reachable plain done :=
    carriesPlain_renameTag library (keyed_of_reachable library reachable) plain label newLabel tag
      next done
  deleteTag library label tag next _ plain done :=
    carriesPlain_deleteTag library plain label tag next done
  insertPicture library path hash picture next _ plain done := by
    obtain ⟨_, _, rfl⟩ := insertPicture_ok library path hash picture next done
    exact plain
  updateHash library id hash _ plain := plain
  deletePicture library id _ plain := carriesPlain_deletePicture library plain id
  movePicture library id path moved next _ plain done := by
    obtain ⟨_, _, rfl⟩ | ⟨_, _, _, _, rfl⟩ := movePicture_ok library id path moved next done
    · exact plain
    · exact plain
  mergePictures library source target _ plain :=
    carriesPlain_mergePictures library plain source target
  attachTag library picture label id next _ plain done :=
    carriesPlain_attachTag library plain picture label id next done

/-- No picture of a reachable library carries a tag that has a definition. -/
theorem attached_tag_plain (library : Library) (reachable : Reachable library)
    (attachment : Attachment) (member : attachment ∈ library.attachments) (tag : Tag)
    (stored : tag ∈ library.tags) (names : tag.id = attachment.tag) : tag.definition = none :=
  plain_of_named library (keyed_of_reachable library reachable)
    (carriesPlain_invariant.holds library reachable) attachment member tag stored names

/-- A picture under `cat`; `pets` is refused for it, and so is a definition for `cat`. -/
def shelf : Library :=
  [Operation.insertTag "cat" none none, .insertTag "pets" none (some "cat OR dog"),
    .insertPicture "a.png" none, .attachTag 1 "cat", .attachTag 1 "pets",
    .defineTag "cat" (some "dog")].foldl after empty

theorem attached_tag_plain_shelf : Reachable shelf ∧ ⟨1, 1⟩ ∈ shelf.attachments ∧
    ∃ cat ∈ shelf.tags, cat.label = "cat" ∧ cat.id = 1 ∧ cat.definition = none := by
  have reachable : Reachable shelf := reachable_run _
  have carried : (⟨1, 1⟩ : Attachment) ∈ shelf.attachments := by decide +kernel
  have stored : shelf.tags.head? = some ⟨1, "cat", none, none⟩ := by decide +kernel
  refine ⟨reachable, carried, ⟨1, "cat", none, none⟩, List.mem_of_head? stored, rfl, rfl, ?_⟩
  exact attached_tag_plain shelf reachable ⟨1, 1⟩ carried _ (List.mem_of_head? stored) rfl

end Gallery.Library
