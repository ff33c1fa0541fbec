import Gallery.Proofs.Library.Attachment
import Gallery.Proofs.Library.Relations

/-!
How often tags and tag types are used. The counts come from joining each table with the one that
refers to it, where a row that nothing refers to is left alone. In a reachable library they have one
entry for each row, and say how many rows refer to it (`tagCounts_eq`, `tagTypeCounts_eq`).
-/

namespace Gallery.Library

section Join

variable {Row Other : Type} (id : Row → Int) (others : List Other) (belongs : Row → Other → Bool)

theorem leftJoin_cons (row : Row) (rest : List Row) :
    leftJoin (row :: rest) others belongs =
      leftJoin [row] others belongs ++ leftJoin rest others belongs := by
  simp [leftJoin]

theorem row_of_mem_leftJoin (rows : List Row) (pair : Row × Option Other)
    (member : pair ∈ leftJoin rows others belongs) : pair.1 ∈ rows := by
  obtain ⟨row, stored, inGroup⟩ := List.mem_flatMap.mp member
  split at inGroup
  · rw [List.mem_singleton.mp inGroup]
    exact stored
  · obtain ⟨other, _, rfl⟩ := List.mem_map.mp inGroup
    exact stored

/-- The rows of a group have one identity between them, and there is always one. -/
theorem ids_of_group (row : Row) :
    ∃ more, (leftJoin [row] others belongs).map (fun pair => id pair.1) = id row :: more ∧
      ∀ key ∈ more, key = id row := by
  cases found : others.filter (belongs row) with
  | nil => exact ⟨[], by simp [leftJoin, found], by simp⟩
  | cons other rest =>
      exact ⟨rest.map fun _ => id row, by simp [leftJoin, found, Function.comp_def], by simp⟩

theorem eraseDups_of_group (keys : List Int) (key : Int) (same : ∀ other ∈ keys, other = key) :
    (key :: keys).eraseDups = [key] := by
  rw [List.eraseDups_cons, List.filter_eq_nil_iff.mpr, List.eraseDups_nil]
  intro other member
  simp [same other member]

/-- Grouped by identity there is one group for each row. -/
theorem keys_of_join (rows : List Row) (distinct : Distinct id rows) :
    ((leftJoin rows others belongs).map fun pair => id pair.1).eraseDups = rows.map id := by
  induction rows with
  | nil => rfl
  | cons row rest ih =>
      obtain ⟨apart, distinctRest⟩ := List.pairwise_cons.mp distinct
      obtain ⟨more, group, same⟩ := ids_of_group id others belongs row
      -- No later row has the identity of the first, so erasing its repetitions leaves them alone.
      have untouched : ((leftJoin rest others belongs).map fun pair => id pair.1).removeAll
          (id row :: more) = (leftJoin rest others belongs).map fun pair => id pair.1 := by
        rw [List.removeAll, List.filter_eq_self]
        intro key member
        obtain ⟨pair, joined, rfl⟩ := List.mem_map.mp member
        have other := apart pair.1 (row_of_mem_leftJoin others belongs rest pair joined)
        rw [Bool.not_eq_true', ← Bool.not_eq_true, List.contains_iff_mem]
        intro inGroup
        rcases List.mem_cons.mp inGroup with first | later
        · exact other first.symm
        · exact other (same _ later).symm
      rw [leftJoin_cons, List.map_append, group, List.eraseDups_append, untouched,
        eraseDups_of_group more (id row) same, ih distinctRest]
      rfl

theorem count_of_group (row : Row) :
    (leftJoin [row] others belongs).countP (fun pair => id pair.1 == id row && pair.2.isSome) =
      others.countP (belongs row) := by
  rw [others.countP_eq_length_filter]
  cases found : others.filter (belongs row) with
  | nil => simp [leftJoin, found]
  | cons other rest =>
      have group : leftJoin [row] others belongs = (other :: rest).map fun other =>
        (row, some other) := by simp [leftJoin, found]
      rw [group, List.countP_eq_length.mpr (by simp), List.length_map]

theorem count_of_other_group (rows : List Row) (key : Int) (apart : ∀ row ∈ rows, key ≠ id row) :
    (leftJoin rows others belongs).countP (fun pair => id pair.1 == key && pair.2.isSome) = 0 := by
  apply List.countP_eq_zero.mpr
  intro pair member same
  have other := apart pair.1 (row_of_mem_leftJoin others belongs rows pair member)
  simp only [Bool.and_eq_true, beq_iff_eq] at same
  exact other same.1.symm

theorem count_of_join (rows : List Row) (distinct : Distinct id rows) (row : Row)
    (stored : row ∈ rows) :
    (leftJoin rows others belongs).countP (fun pair => id pair.1 == id row && pair.2.isSome) =
      others.countP (belongs row) := by
  induction rows with
  | nil => cases stored
  | cons first rest ih =>
      obtain ⟨apart, distinctRest⟩ := List.pairwise_cons.mp distinct
      rw [leftJoin_cons, List.countP_append]
      rcases List.mem_cons.mp stored with rfl | later
      · rw [count_of_group, count_of_other_group id others belongs rest (id row) apart,
          Nat.add_zero]
      · have before := count_of_other_group id others belongs [first] (id row) fun other member => by
          rw [List.mem_singleton.mp member]
          exact (apart row later).symm
        rw [before, ih distinctRest later, Nat.zero_add]

theorem countJoined_eq (rows : List Row) (distinct : Distinct id rows) :
    countJoined id (leftJoin rows others belongs) =
      rows.map fun row => (id row, others.countP (belongs row)) := by
  rw [countJoined, keys_of_join id others belongs rows distinct, List.map_map]
  apply List.map_congr_left
  intro row stored
  exact congrArg (Prod.mk (id row)) (count_of_join id others belongs rows distinct row stored)

end Join

variable (library : Library)

/-- Every tag has one count, that of its attachments. -/
theorem tagCounts_eq (keyed : library.Keyed) :
    library.tagCounts = library.tags.map fun tag => (tag.id, library.tagCount tag.id) :=
  countJoined_eq Tag.id library.attachments _ library.tags keyed.tags.distinct

/-- Every tag type has one count, that of the tags of the type. -/
theorem tagTypeCounts_eq (keyed : library.Keyed) :
    library.tagTypeCounts = library.tagTypes.map fun stored =>
      (stored.id, library.tags.countP (·.typeId == some stored.id)) :=
  countJoined_eq StoredTagType.id library.tags _ library.tagTypes keyed.tagTypes.distinct

theorem lookup_of_counts {Row : Type} (id : Row → Int) (count : Row → Nat) (rows : List Row)
    (distinct : Distinct id rows) (row : Row) (stored : row ∈ rows) :
    (rows.map fun row => (id row, count row)).lookup (id row) = some (count row) := by
  induction rows with
  | nil => cases stored
  | cons first rest ih =>
      obtain ⟨apart, distinctRest⟩ := List.pairwise_cons.mp distinct
      rw [List.map_cons, List.lookup_cons]
      rcases List.mem_cons.mp stored with rfl | later
      · simp
      · have other : (id row == id first) = false := by simpa using (apart row later).symm
        rw [other, ih distinctRest later]

theorem tagCounts_lookup (keyed : library.Keyed) (tag : Tag) (stored : tag ∈ library.tags) :
    library.tagCounts.lookup tag.id = some (library.tagCount tag.id) := by
  rw [tagCounts_eq library keyed]
  exact lookup_of_counts Tag.id (fun tag => library.tagCount tag.id) library.tags
    keyed.tags.distinct tag stored

/-! The pictures that a count stands for. -/

theorem tagCount_eq_zero (plain : library.CarriesPlain) (keyed : library.Keyed) (tag : Tag)
    (stored : tag ∈ library.tags) (compound : tag.definition ≠ none) :
    library.tagCount tag.id = 0 := by
  apply List.countP_eq_zero.mpr
  intro attachment member same
  have names : tag.id = attachment.tag := (beq_iff_eq.mp same).symm
  exact compound (plain_of_named library keyed plain attachment member tag stored names)

theorem mem_carriers_iff (related : library.Related) (tag picture : Int) :
    picture ∈ (library.attachments.filter (·.tag == tag)).map (·.picture) ↔
      picture ∈ (library.pictures.filter fun picture =>
        library.attachments.contains ⟨picture.id, tag⟩).map (·.id) := by
  simp only [List.mem_map, List.mem_filter, List.contains_iff_mem, beq_iff_eq]
  constructor
  · rintro ⟨attachment, ⟨member, rfl⟩, rfl⟩
    obtain ⟨carrier, stored, same⟩ := related.attachedTo attachment member
    refine ⟨carrier, ⟨stored, ?_⟩, same⟩
    rw [same]
    exact member
  · rintro ⟨carrier, ⟨_, member⟩, rfl⟩
    exact ⟨_, ⟨member, rfl⟩, rfl⟩

/-- A tag counts once for each stored picture that carries it. -/
theorem tagCount_eq (keyed : library.Keyed) (related : library.Related) (tag : Int) :
    library.tagCount tag = (library.pictures.filter fun picture =>
      library.attachments.contains ⟨picture.id, tag⟩).length := by
  have onceEach : ((library.attachments.filter (·.tag == tag)).map (·.picture)).Nodup := by
    apply (related.attachedOnce.filter _).map_on
    intro a fromA b fromB same
    have tagA : a.tag = tag := by simpa using (List.mem_filter.mp fromA).2
    have tagB : b.tag = tag := by simpa using (List.mem_filter.mp fromB).2
    calc
      a = ⟨a.picture, tag⟩ := by rw [← tagA]
      _ = ⟨b.picture, b.tag⟩ := by rw [same, tagB]
  have apart : ((library.pictures.filter fun picture =>
      library.attachments.contains ⟨picture.id, tag⟩).map (·.id)).Nodup :=
    List.pairwise_map.mpr (distinct_filter _ _ _ keyed.pictures.distinct)
  have same := (List.perm_ext_iff_of_nodup onceEach apart).mpr (mem_carriers_iff library related tag)
  simpa [tagCount, List.countP_eq_length_filter] using same.length_eq

end Gallery.Library
