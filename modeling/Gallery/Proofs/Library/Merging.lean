import Gallery.Proofs.Library.Counts
import Gallery.Proofs.Library.Registration

/-!
Merging a picture into another one. The tags of both are copied onto the second, where it carries
them already left out, and the first goes with all its attachments (`merging_exact`). A copy that is
left out is the only attachment that gets lost, so a tag counts once less exactly when both pictures
carried it (`tagCount_merged`).
-/

namespace Gallery.Library

section Merged

variable (library : Library) (source target : Int)

/-- The library after the picture `source` has been merged into `target`. -/
def merged : Library :=
  ((library.copyTags source target).deletePicture source).2

theorem merge_possible (apart : source ≠ target) (first : library.picture? source ≠ none)
    (second : library.picture? target ≠ none) :
    library.mergePictures source target = (true, library.merged source target) := by
  rw [mergePictures, if_neg]
  · rfl
  · simp only [not_or, Option.isNone_iff_eq_none]
    exact ⟨apart, first, second⟩

theorem merge_cases :
    library.mergePictures source target = (false, library) ∧
      ¬(source ≠ target ∧ library.picture? source ≠ none ∧ library.picture? target ≠ none) ∨
    library.mergePictures source target = (true, library.merged source target) ∧
      source ≠ target ∧ library.picture? source ≠ none ∧ library.picture? target ≠ none := by
  by_cases possible :
      source ≠ target ∧ library.picture? source ≠ none ∧ library.picture? target ≠ none
  · right
    exact ⟨merge_possible library source target possible.1 possible.2.1 possible.2.2, possible⟩
  · left
    constructor
    · rw [mergePictures, if_pos]
      simp only [Option.isNone_iff_eq_none]
      tauto
    · exact possible

/-- The attachments that are copied. -/
def copies : List Attachment :=
  ((library.attachments.filter (·.picture == source)).map fun attachment =>
    ({ attachment with picture := target } : Attachment)).filter (!library.attachments.contains ·)

theorem mem_copies_iff (attachment : Attachment) :
    attachment ∈ library.copies source target ↔ attachment.picture = target ∧
      ⟨source, attachment.tag⟩ ∈ library.attachments ∧ attachment ∉ library.attachments := by
  simp only [copies, List.mem_filter, List.mem_map, Bool.not_eq_true', ← Bool.not_eq_true,
    List.contains_iff_mem, beq_iff_eq]
  constructor
  · rintro ⟨⟨original, ⟨member, rfl⟩, rfl⟩, fresh⟩
    exact ⟨rfl, member, fresh⟩
  · rintro ⟨rfl, member, fresh⟩
    exact ⟨⟨⟨source, attachment.tag⟩, ⟨member, rfl⟩, rfl⟩, fresh⟩

theorem mem_merged_iff (attachment : Attachment) :
    attachment ∈ (library.merged source target).attachments ↔ attachment.picture ≠ source ∧
      (attachment ∈ library.attachments ∨
        attachment.picture = target ∧ ⟨source, attachment.tag⟩ ∈ library.attachments) := by
  have shape : (library.merged source target).attachments =
      (library.attachments ++ library.copies source target).filter (·.picture != source) := rfl
  rw [shape, List.mem_filter, List.mem_append, mem_copies_iff, bne_iff_ne]
  tauto

/-- Attachments of one picture that are stored once differ in their tags. -/
theorem count_of_picture (attachments : List Attachment) (once : attachments.Nodup)
    (picture tag : Int) (own : ∀ attachment ∈ attachments, attachment.picture = picture) :
    attachments.countP (·.tag == tag) = if ⟨picture, tag⟩ ∈ attachments then 1 else 0 := by
  rw [← once.count, List.count]
  apply List.countP_congr
  intro attachment member
  rw [← own attachment member, beq_iff_eq, beq_iff_eq]
  constructor
  · rintro rfl
    rfl
  · intro same
    rw [same]

/-- A tag loses an attachment exactly when both pictures carried it. -/
theorem tagCount_merged (related : library.Related) (apart : source ≠ target)
    (picture : Picture) (found : library.picture? target = some picture) (tag : Int) :
    library.tagCount tag = (library.merged source target).tagCount tag +
      if ⟨source, tag⟩ ∈ library.attachments ∧ ⟨target, tag⟩ ∈ library.attachments then 1
      else 0 := by
  have once := (related_copyTags library related source target picture found).attachedOnce
  have copiedOnce : (library.copies source target).Nodup := (List.nodup_append'.mp once).2.1
  -- The attachments of the source go, and what is copied stays: it belongs to the target.
  have before := List.countP_eq_countP_filter_add library.attachments (·.tag == tag)
    (·.picture == source)
  have gone := count_of_picture (library.attachments.filter (·.picture == source))
    (related.attachedOnce.filter _) source tag (by simp)
  have copied := count_of_picture (library.copies source target) copiedOnce target tag
    fun attachment member => ((mem_copies_iff library source target attachment).mp member).1
  have stays : (library.copies source target).filter (·.picture != source) =
      library.copies source target := by
    apply List.filter_eq_self.mpr
    intro attachment member
    rw [((mem_copies_iff library source target attachment).mp member).1, bne_iff_ne]
    exact apart.symm
  have after : (library.merged source target).tagCount tag =
      (library.attachments.filter (!·.picture == source)).countP (·.tag == tag) +
        (library.copies source target).countP (·.tag == tag) := by
    have shape : (library.merged source target).attachments =
        (library.attachments ++ library.copies source target).filter (·.picture != source) := rfl
    rw [tagCount, shape, List.filter_append, stays, List.countP_append]
    rfl
  rw [after, tagCount, before, gone, copied]
  simp only [List.mem_filter, mem_copies_iff, beq_self_eq_true, and_true, true_and]
  by_cases first : (⟨source, tag⟩ : Attachment) ∈ library.attachments
  · by_cases second : (⟨target, tag⟩ : Attachment) ∈ library.attachments
    · simp only [first, second, not_true_eq_false, and_false, and_self, ↓reduceIte]
      omega
    · simp only [first, second, not_false_eq_true, and_false, and_self, ↓reduceIte]
      omega
  · simp only [first, false_and, ↓reduceIte]
    omega

end Merged

/-- All rows are as they were, except that the picture `source` and its attachments have gone, and
that `target` carries the tags of both. -/
structure Merges (library : Library) (source target : Int) (next : Library) : Prop where
  only : ∃ attachments, next = { library with
    pictures := library.pictures.filter (·.id != source)
    attachments := attachments }
  gone : next.picture? source = none ∧ ∀ attachment ∈ next.attachments, attachment.picture ≠ source
  kept : next.picture? target = library.picture? target ∧ ∀ picture, picture.id ≠ source →
    (picture ∈ next.pictures ↔ picture ∈ library.pictures)
  once : next.attachments.Nodup
  joined : ∀ tag, ⟨target, tag⟩ ∈ next.attachments ↔
    ⟨source, tag⟩ ∈ library.attachments ∨ ⟨target, tag⟩ ∈ library.attachments
  elsewhere : ∀ attachment, attachment.picture ≠ source → attachment.picture ≠ target →
    (attachment ∈ next.attachments ↔ attachment ∈ library.attachments)
  labels : (next.tagsOf target).Nodup ∧ ∀ label, label ∈ next.tagsOf target ↔
    label ∈ library.tagsOf source ∨ label ∈ library.tagsOf target
  counts : ∀ tag ∈ library.tags, ∃ before after,
    library.tagCounts.lookup tag.id = some before ∧ next.tagCounts.lookup tag.id = some after ∧
      before = after + if ⟨source, tag.id⟩ ∈ library.attachments ∧
        ⟨target, tag.id⟩ ∈ library.attachments then 1 else 0

theorem joined_merged (library : Library) (source target : Int) (apart : source ≠ target)
    (tag : Int) : ⟨target, tag⟩ ∈ (library.merged source target).attachments ↔
      ⟨source, tag⟩ ∈ library.attachments ∨ ⟨target, tag⟩ ∈ library.attachments := by
  rw [mem_merged_iff]
  constructor
  · rintro ⟨_, own | ⟨_, copied⟩⟩
    · exact .inr own
    · exact .inl copied
  · rintro (copied | own)
    · exact ⟨apart.symm, .inr ⟨rfl, copied⟩⟩
    · exact ⟨apart.symm, .inl own⟩

theorem tagsOf_merged (library : Library) (source target : Int) (apart : source ≠ target)
    (label : String) : label ∈ (library.merged source target).tagsOf target ↔
      label ∈ library.tagsOf source ∨ label ∈ library.tagsOf target := by
  simp only [mem_tagsOf_iff, joined_merged library source target apart]
  have same : (library.merged source target).tags = library.tags := rfl
  rw [same, ← exists_or]
  apply exists_congr
  intro tag
  tauto

theorem merges_merged (library : Library) (keyed : library.Keyed) (related : library.Related)
    (source target : Int) (apart : source ≠ target) (first : library.picture? source ≠ none)
    (second : library.picture? target ≠ none) :
    library.Merges source target (library.merged source target) := by
  have possible := merge_possible library source target apart first second
  have keyedNext := keyed_mergePictures library keyed source target
  have relatedNext := related_mergePictures library related source target
  rw [possible] at keyedNext relatedNext
  obtain ⟨picture, found⟩ := Option.ne_none_iff_exists'.mp second
  have pictures : (library.merged source target).pictures =
      library.pictures.filter (·.id != source) := rfl
  exact {
    only := ⟨_, rfl⟩
    gone := by
      constructor
      · simp [picture?, pictures]
      · intro attachment member
        exact ((mem_merged_iff library source target attachment).mp member).1
    kept := by
      constructor
      · rw [picture?, pictures, List.find?_filter]
        apply congrArg library.pictures.find?
        funext other
        by_cases same : other.id = target
        · simp [same, apart.symm]
        · simp [same]
      · intro other different
        rw [pictures, List.mem_filter, bne_iff_ne]
        exact and_iff_left different
    once := relatedNext.attachedOnce
    joined := joined_merged library source target apart
    elsewhere := by
      intro attachment notSource notTarget
      rw [mem_merged_iff]
      tauto
    labels := ⟨nodup_tagsOf _ keyedNext target, tagsOf_merged library source target apart⟩
    counts := by
      intro tag stored
      exact ⟨_, _, tagCounts_lookup library keyed tag stored,
        tagCounts_lookup _ keyedNext tag stored,
        tagCount_merged library source target related apart picture found tag.id⟩ }

/-- Pictures can be merged exactly when they are two and both stored. The second then carries the
tags of both, the first is gone, and nothing else changes; a tag counts once less exactly when both
carried it. Otherwise nothing changes at all. -/
theorem merging_exact (library : Library) (reachable : Reachable library) (source target : Int) :
    ((library.mergePictures source target).1 = true ↔
      source ≠ target ∧ library.picture? source ≠ none ∧ library.picture? target ≠ none) ∧
    ((library.mergePictures source target).1 = true →
      library.Merges source target (library.mergePictures source target).2) ∧
    ((library.mergePictures source target).1 = false →
      (library.mergePictures source target).2 = library) := by
  have keyed := keyed_of_reachable library reachable
  have related := related_of_reachable library reachable
  rcases merge_cases library source target with ⟨same, impossible⟩ | ⟨same, apart, first, second⟩
  · rw [same]
    simp [impossible]
  · rw [same]
    have merges := merges_merged library keyed related source target apart first second
    simp [merges, apart, first, second]

/-- Two pictures that share a tag, of which each has one more, and a third picture. -/
def litter : Library :=
  [Operation.insertTag "cat" none none, .insertTag "dog" none none, .insertTag "owl" none none,
    .insertPicture "a.png" (some ⟨1⟩), .insertPicture "b.png" (some ⟨2⟩),
    .insertPicture "c.png" none, .attachTag 1 "cat", .attachTag 1 "dog", .attachTag 2 "cat",
    .attachTag 2 "owl", .attachTag 3 "dog"].foldl after empty

/-- The shared tag is carried by one picture less, the others by as many as before. -/
theorem merging_exact_litter :
    let next := (litter.mergePictures 1 2).2
    litter.Merges 1 2 next ∧ ⟨2, 2⟩ ∈ next.attachments ∧ ⟨3, 2⟩ ∈ next.attachments ∧
      litter.tagCounts = [(1, 2), (2, 2), (3, 1)] ∧ next.tagCounts = [(1, 1), (2, 2), (3, 1)] := by
  intro next
  have reachable : Reachable litter := reachable_run _
  obtain ⟨possible, merges, _⟩ := merging_exact litter reachable 1 2
  have done := merges (possible.mpr ⟨by decide, by decide +kernel, by decide +kernel⟩)
  have copied : ⟨2, 2⟩ ∈ next.attachments := (done.joined 2).mpr (.inl (by decide +kernel))
  have kept : ⟨3, 2⟩ ∈ next.attachments :=
    (done.elsewhere ⟨3, 2⟩ (by decide) (by decide)).mpr (by decide +kernel)
  exact ⟨done, copied, kept, by decide +kernel, by decide +kernel⟩

end Gallery.Library
