import Gallery.Proofs.Library.Invariant

/-!
The keys of a library. In every reachable library the rows of a table stand in the order of their
identities, which the table has handed out, and no two rows share a label, a symbol or a path.
-/

namespace Gallery

variable {Row Key : Type}

/-- The identities of the rows ascend, are positive, and are at most `last`. -/
structure Ascends (id : Row → Int) (last : Int) (rows : List Row) : Prop where
  counted : 0 ≤ last
  ordered : rows.Pairwise fun a b => id a < id b
  positive : ∀ row ∈ rows, 0 < id row
  handedOut : ∀ row ∈ rows, id row ≤ last

/-- No two rows have the same key. -/
def Distinct (key : Row → Key) (rows : List Row) : Prop :=
  rows.Pairwise fun a b => key a ≠ key b

theorem ascends_nil (id : Row → Int) : Ascends id 0 [] :=
  ⟨Int.le_refl 0, .nil, by simp, by simp⟩

theorem ascends_append (id : Row → Int) (last : Int) (rows : List Row) (row : Row)
    (ascends : Ascends id last rows) (fresh : id row = last + 1) :
    Ascends id (last + 1) (rows ++ [row]) := by
  have counted := ascends.counted
  refine ⟨by omega, List.pairwise_append.mpr ⟨ascends.ordered, by simp, ?_⟩, ?_, ?_⟩
  · intro old member new isNew
    have := ascends.handedOut old member
    rw [List.mem_singleton.mp isNew]
    omega
  · intro other member
    rcases List.mem_append.mp member with old | new
    · exact ascends.positive other old
    · rw [List.mem_singleton.mp new]
      omega
  · intro other member
    rcases List.mem_append.mp member with old | new
    · have := ascends.handedOut other old
      omega
    · rw [List.mem_singleton.mp new]
      omega

theorem ascends_filter (id : Row → Int) (last : Int) (rows : List Row) (p : Row → Bool)
    (ascends : Ascends id last rows) : Ascends id last (rows.filter p) :=
  ⟨ascends.counted, ascends.ordered.filter p,
    fun row member => ascends.positive row (List.mem_filter.mp member).1,
    fun row member => ascends.handedOut row (List.mem_filter.mp member).1⟩

theorem ascends_map (id : Row → Int) (last : Int) (rows : List Row) (change : Row → Row)
    (same : ∀ row, id (change row) = id row) (ascends : Ascends id last rows) :
    Ascends id last (rows.map change) := by
  refine ⟨ascends.counted, List.pairwise_map.mpr (by simpa only [same] using ascends.ordered), ?_,
    ?_⟩
  · simpa only [List.forall_mem_map, same] using ascends.positive
  · simpa only [List.forall_mem_map, same] using ascends.handedOut

theorem distinct_append (key : Row → Key) (rows : List Row) (row : Row)
    (distinct : Distinct key rows) (fresh : ∀ old ∈ rows, key old ≠ key row) :
    Distinct key (rows ++ [row]) := by
  refine List.pairwise_append.mpr ⟨distinct, by simp, fun old member new isNew => ?_⟩
  rw [List.mem_singleton.mp isNew]
  exact fresh old member

theorem distinct_filter (key : Row → Key) (rows : List Row) (p : Row → Bool)
    (distinct : Distinct key rows) : Distinct key (rows.filter p) :=
  List.Pairwise.filter p distinct

theorem distinct_map (key : Row → Key) (rows : List Row) (change : Row → Row)
    (same : ∀ row, key (change row) = key row) (distinct : Distinct key rows) :
    Distinct key (rows.map change) :=
  List.Pairwise.map change (fun a b apart => by simpa only [same] using apart) distinct

/-- Changing the one row with a given identity keeps the keys distinct when no other row has its new
key. -/
theorem distinct_change (key : Row → Key) (id : Row → Int) (rows : List Row) (change : Row → Row)
    (target : Int) (new : Key) (ordered : rows.Pairwise fun a b => id a < id b)
    (distinct : Distinct key rows)
    (changed : ∀ row ∈ rows, id row = target → key (change row) = new)
    (free : ∀ row ∈ rows, id row ≠ target → key row ≠ new) :
    Distinct key (rows.map fun row => if id row = target then change row else row) := by
  refine List.pairwise_map.mpr ((ordered.and distinct).imp_of_mem ?_)
  intro a b memberA memberB apart
  by_cases isA : id a = target
  · have isB : id b ≠ target := by omega
    simp only [isA, isB, ↓reduceIte, changed a memberA isA]
    exact (free b memberB isB).symm
  · by_cases isB : id b = target
    · simp only [isA, isB, ↓reduceIte, changed b memberB isB]
      exact free a memberA isA
    · simp only [isA, isB, ↓reduceIte]
      exact apart.2

/-- In a table with distinct keys the row that is found first is the only one. -/
theorem find_of_mem [DecidableEq Key] (key : Row → Key) (rows : List Row) (row : Row)
    (distinct : Distinct key rows) (member : row ∈ rows) :
    rows.find? (key · == key row) = some row := by
  induction rows with
  | nil => cases member
  | cons first rest ih =>
      rcases List.pairwise_cons.mp distinct with ⟨apart, distinct⟩
      rcases List.mem_cons.mp member with rfl | member
      · simp
      · have different : key first ≠ key row := apart row member
        simp [different, ih distinct member]

theorem eq_of_key [DecidableEq Key] (key : Row → Key) (rows : List Row) (a b : Row)
    (distinct : Distinct key rows) (first : a ∈ rows) (second : b ∈ rows) (same : key a = key b) :
    a = b := by
  have found := find_of_mem key rows a distinct first
  rw [same, find_of_mem key rows b distinct second] at found
  exact (Option.some.inj found).symm

theorem Ascends.distinct {id : Row → Int} {last : Int} {rows : List Row}
    (ascends : Ascends id last rows) : Distinct id rows :=
  ascends.ordered.imp fun less => Int.ne_of_lt less

namespace Library

/-- The rows of every table ascend, and labels, symbols and paths are distinct. -/
structure Keyed (library : Library) : Prop where
  tagTypes : Ascends StoredTagType.id library.lastTagType library.tagTypes
  tags : Ascends Tag.id library.lastTag library.tags
  pictures : Ascends Picture.id library.lastPicture library.pictures
  typeLabels : Distinct StoredTagType.label library.tagTypes
  symbols : Distinct StoredTagType.symbol library.tagTypes
  labels : Distinct Tag.label library.tags
  paths : Distinct Picture.path library.pictures

theorem keyed_empty : Keyed empty :=
  ⟨ascends_nil _, ascends_nil _, ascends_nil _, .nil, .nil, .nil, .nil⟩

theorem keyed_insertTag (library : Library) (keyed : library.Keyed) (label : String)
    (typeId : Option Int) (definition : Option String) (tag : Tag) (next : Library)
    (done : library.insertTag label typeId definition = .ok (tag, next)) : next.Keyed := by
  rcases insertTag_ok library label typeId definition tag next done with
    ⟨_, _, _, fresh, rfl, rfl⟩
  have free : ∀ old ∈ library.tags, old.label ≠ label := by
    simpa [tag?] using fresh
  -- The new identity is above all that were handed out, those of deleted tags included.
  exact { keyed with
    tags := ascends_append _ _ _ _ keyed.tags rfl
    labels := distinct_append _ _ _ keyed.labels free }

theorem mem_of_tag (library : Library) (label : String) (tag : Tag)
    (found : library.tag? label = some tag) : tag ∈ library.tags :=
  List.mem_of_find?_eq_some found

theorem tag_of_mem (library : Library) (keyed : library.Keyed) (tag : Tag)
    (stored : tag ∈ library.tags) : library.tag? tag.label = some tag :=
  find_of_mem Tag.label library.tags tag keyed.labels stored

/-- The tag with a given identity may get a label that no other tag has. -/
theorem keyed_replaceTag (library : Library) (keyed : library.Keyed) (tag : Tag)
    (free : ∀ other ∈ library.tags, other.id ≠ tag.id → other.label ≠ tag.label) :
    (library.replaceTag tag).Keyed := by
  have same : ∀ old : Tag, (if old.id = tag.id then tag else old).id = old.id := by
    intro old
    split <;> simp_all
  exact { keyed with
    tags := ascends_map _ _ _ _ same keyed.tags
    labels := distinct_change Tag.label Tag.id library.tags (fun _ => tag) tag.id tag.label
      keyed.tags.ordered keyed.labels (fun _ _ _ => rfl) free }

theorem keyed_defineTag (library : Library) (keyed : library.Keyed) (label : String)
    (definition : Option String) (tag : Tag) (next : Library)
    (done : library.defineTag label definition = .ok (tag, next)) : next.Keyed := by
  rcases defineTag_ok library label definition tag next done with
    ⟨old, _, found, _, rfl, rfl⟩
  refine keyed_replaceTag library keyed _ fun other member different same => ?_
  -- The label stays, and a tag that has it is the one that was found under it.
  have isOld := eq_of_key Tag.label library.tags other old keyed.labels member
    (mem_of_tag library label old found) same
  rw [isOld] at different
  exact different rfl

theorem keyed_renameTag (library : Library) (keyed : library.Keyed) (label newLabel : String)
    (tag : Tag) (next : Library) (done : library.renameTag label newLabel = .ok (tag, next)) :
    next.Keyed := by
  rcases renameTag_ok library label newLabel tag next done with
    ⟨old, _, _, ⟨_, _, rfl⟩ | ⟨_, fresh, _, _, rfl, rfl⟩⟩
  · exact keyed
  · have free : ∀ other ∈ library.tags, other.label ≠ newLabel := by
      simpa [tag?] using fresh
    exact keyed_replaceTag library keyed _ fun other member _ => free other member

theorem keyed_deleteTag (library : Library) (keyed : library.Keyed) (label : String) (tag : Tag)
    (next : Library) (done : library.deleteTag label = .ok (tag, next)) : next.Keyed := by
  rcases deleteTag_ok library label tag next done with ⟨_, _, rfl⟩
  exact { keyed with
    tags := ascends_filter _ _ _ _ keyed.tags
    labels := distinct_filter _ _ _ keyed.labels }

theorem keyed_insertTagType (library : Library) (keyed : library.Keyed) (label : String)
    (symbol : Char) (color : Nat) (tagType : TagType) (next : Library)
    (done : library.insertTagType label symbol color = .ok (tagType, next)) : next.Keyed := by
  rcases insertTagType_ok library label symbol color tagType next done with
    ⟨_, _, freshSymbol, freshLabel, rfl, rfl⟩
  have freeSymbol : ∀ old ∈ library.tagTypes, old.symbol ≠ symbol.toString := by
    simpa [storedTagType?] using freshSymbol
  have freeLabel : ∀ old ∈ library.tagTypes, old.label ≠ label := by
    simpa using freshLabel
  exact { keyed with
    tagTypes := ascends_append _ _ _ _ keyed.tagTypes rfl
    typeLabels := distinct_append _ _ _ keyed.typeLabels freeLabel
    symbols := distinct_append _ _ _ keyed.symbols freeSymbol }

theorem keyed_updateTagType (library : Library) (keyed : library.Keyed) (symbol : Char)
    (label : String) (newSymbol : Char) (color : Nat) (tagType : TagType) (next : Library)
    (done : library.updateTagType symbol label newSymbol color = .ok (tagType, next)) :
    next.Keyed := by
  rcases updateTagType_ok library symbol label newSymbol color tagType next done with
    ⟨old, _, _, _, free, rfl, rfl⟩
  have same : ∀ stored : StoredTagType,
      (if stored.id = old.id then (TagType.stored ⟨old.id, label, newSymbol, color⟩)
        else stored).id = stored.id := by
    intro stored
    split <;> simp_all [TagType.stored]
  exact { keyed with
    tagTypes := ascends_map _ _ _ _ same keyed.tagTypes
    typeLabels := distinct_change _ StoredTagType.id _ _ old.id label keyed.tagTypes.ordered
      keyed.typeLabels (fun _ _ _ => rfl) fun other member different =>
        (free other member different).2
    symbols := distinct_change _ StoredTagType.id _ _ old.id newSymbol.toString
      keyed.tagTypes.ordered keyed.symbols (fun _ _ _ => rfl) fun other member different =>
        (free other member different).1 }

theorem keyed_deleteTagType (library : Library) (keyed : library.Keyed) (symbol : Char)
    (tagType : TagType) (next : Library)
    (done : library.deleteTagType symbol = .ok (tagType, next)) : next.Keyed := by
  rcases deleteTagType_ok library symbol tagType next done with ⟨_, rfl⟩
  have sameId : ∀ tag : Tag,
      (if tag.typeId = some tagType.id then { tag with typeId := none } else tag).id = tag.id := by
    intro tag
    split <;> rfl
  have sameLabel : ∀ tag : Tag,
      (if tag.typeId = some tagType.id then { tag with typeId := none } else tag).label =
        tag.label := by
    intro tag
    split <;> rfl
  exact { keyed with
    tagTypes := ascends_filter _ _ _ _ keyed.tagTypes
    typeLabels := distinct_filter _ _ _ keyed.typeLabels
    symbols := distinct_filter _ _ _ keyed.symbols
    tags := ascends_map _ _ _ _ sameId keyed.tags
    labels := distinct_map _ _ _ sameLabel keyed.labels }

theorem keyed_insertPicture (library : Library) (keyed : library.Keyed) (path : String)
    (hash : Option PictureHash) (picture : Picture) (next : Library)
    (done : library.insertPicture path hash = .ok (picture, next)) : next.Keyed := by
  rcases insertPicture_ok library path hash picture next done with ⟨fresh, rfl, rfl⟩
  have free : ∀ old ∈ library.pictures, old.path ≠ path := by
    simpa [pictureAt?] using fresh
  exact { keyed with
    pictures := ascends_append _ _ _ _ keyed.pictures rfl
    paths := distinct_append _ _ _ keyed.paths free }

theorem changed_id (id : Int) (change : Picture → Picture)
    (same : ∀ picture, (change picture).id = picture.id) (picture : Picture) :
    (if picture.id = id then change picture else picture).id = picture.id := by
  split
  · exact same picture
  · rfl

theorem keyed_updateHash (library : Library) (keyed : library.Keyed) (id : Int)
    (hash : Option PictureHash) : (library.updateHash id hash).Keyed := by
  have samePath : ∀ picture : Picture,
      (if picture.id = id then { picture with hash := hash } else picture).path =
        picture.path := by
    intro picture
    split <;> rfl
  exact { keyed with
    pictures := ascends_map _ _ _ _ (changed_id id _ fun _ => rfl) keyed.pictures
    paths := distinct_map _ _ _ samePath keyed.paths }

theorem keyed_deletePicture (library : Library) (keyed : library.Keyed) (id : Int) :
    (library.deletePicture id).2.Keyed :=
  { keyed with
    pictures := ascends_filter _ _ _ _ keyed.pictures
    paths := distinct_filter _ _ _ keyed.paths }

theorem keyed_movePicture (library : Library) (keyed : library.Keyed) (id : Int) (path : String)
    (moved : Option Picture) (next : Library)
    (done : library.movePicture id path = .ok (moved, next)) : next.Keyed := by
  rcases movePicture_ok library id path moved next done with ⟨_, _, rfl⟩ | ⟨_, _, free, _, rfl⟩
  · exact keyed
  · -- The new path may be the picture's own, but no other picture has it.
    have alone : ∀ other ∈ library.pictures, other.id ≠ id → other.path ≠ path := by
      intro other member different same
      refine different (free other ?_)
      rw [pictureAt?, ← same]
      exact find_of_mem Picture.path library.pictures other keyed.paths member
    exact { keyed with
      pictures := ascends_map _ _ _ _ (changed_id id _ fun _ => rfl) keyed.pictures
      paths := distinct_change _ Picture.id _ _ id path keyed.pictures.ordered keyed.paths
        (fun _ _ _ => rfl) alone }

/-- Attachments play no role for the keys. -/
theorem keyed_attachments (library : Library) (keyed : library.Keyed)
    (attachments : List Attachment) : Keyed { library with attachments := attachments } :=
  { keyed with }

theorem keyed_mergePictures (library : Library) (keyed : library.Keyed) (source target : Int) :
    (library.mergePictures source target).2.Keyed := by
  rw [mergePictures]
  split
  · exact keyed
  · exact keyed_deletePicture _ (keyed_attachments library keyed _) source

theorem keyed_attachTag (library : Library) (keyed : library.Keyed) (picture : Int)
    (label : String) (id : Int) (next : Library)
    (done : library.attachTag picture label = .ok (id, next)) : next.Keyed := by
  rcases attachTag_ok library picture label id next done with ⟨_, _, _, _, _, rfl⟩
  exact keyed_attachments library keyed _

theorem keyed_invariant : Invariant Keyed where
  empty := keyed_empty
  insertTagType library label symbol color tagType next _ keyed done :=
    keyed_insertTagType library keyed label symbol color.toNat tagType next done
  updateTagType library symbol label newSymbol color tagType next _ keyed done :=
    keyed_updateTagType library keyed symbol label newSymbol color.toNat tagType next done
  deleteTagType library symbol tagType next _ keyed done :=
    keyed_deleteTagType library keyed symbol tagType next done
  insertTag library label typeId definition tag next _ keyed done :=
    keyed_insertTag library keyed label typeId definition tag next done
  defineTag library label definition tag next _ keyed done :=
    keyed_defineTag library keyed label definition tag next done
  renameTag library label newLabel tag next _ keyed done :=
    keyed_renameTag library keyed label newLabel tag next done
  deleteTag library label tag next _ keyed done :=
    keyed_deleteTag library keyed label tag next done
  insertPicture library path hash picture next _ keyed done :=
    keyed_insertPicture library keyed path hash picture next done
  updateHash library id hash _ keyed := keyed_updateHash library keyed id hash
  deletePicture library id _ keyed := keyed_deletePicture library keyed id
  movePicture library id path moved next _ keyed done :=
    keyed_movePicture library keyed id path moved next done
  mergePictures library source target _ keyed := keyed_mergePictures library keyed source target
  attachTag library picture label id next _ keyed done :=
    keyed_attachTag library keyed picture label id next done

/-- The keys of every reachable library are in order. -/
theorem keyed_of_reachable (library : Library) (reachable : Reachable library) :
    library.Keyed :=
  keyed_invariant.holds library reachable

end Library

end Gallery
