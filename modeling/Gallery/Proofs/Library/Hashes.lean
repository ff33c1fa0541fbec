import Gallery.Proofs.Hash.WrittenForm
import Gallery.Proofs.Library.Similarity

/-!
A hash reads back from every form that it takes: its text, the signed integer that is stored for it,
and a library with a picture that was given the hash (`hash_read_back`).
-/

namespace Gallery

namespace PictureHash

theorem ofText_text (hash : PictureHash) : ofText hash.text = .ok hash := by
  have digits (c : Char) (member : c ∈ hash.text.toList) : Text.IsHexDigit c :=
    .inl (text_lower hash c member)
  have size : hash.text.utf8ByteSize = 16 := by
    rw [Text.utf8ByteSize_ascii _ fun c member => Text.ascii_of_hexDigit c (digits c member),
      ← String.length_toList, text_length]
  have nonempty : hash.text.toList ≠ [] :=
    List.ne_nil_of_length_pos (by rw [text_length]; decide)
  have fits : hash.bits.toNat < 16 ^ 16 := Nat.lt_of_lt_of_eq hash.bits.isLt (by decide)
  have read : Text.readHex? hash.text.toList = some hash.bits.toNat := by
    rw [readHex_digits _ nonempty digits, text, String.toList_ofList, Text.read_hexDigits,
      Nat.zero_mul, Nat.zero_add, Nat.mod_eq_of_lt fits]
  rw [ofText_of_read _ size _ read, BitVec.ofNat_toNat, BitVec.setWidth_eq]

/-- The signed integer of a hash can be stored. -/
theorem toInt_stored (hash : PictureHash) : -2 ^ 63 ≤ hash.toInt ∧ hash.toInt < 2 ^ 63 :=
  ⟨hash.bits.le_toInt, hash.bits.toInt_lt⟩

end PictureHash

namespace Library

theorem readPicture_row (picture : Picture) : readPicture? (pictureRow picture) = some picture := by
  obtain ⟨id, path, hash⟩ := picture
  cases hash with
  | none => rfl
  | some hash => simp [pictureRow, idValue, readPicture?, readHash?, ofInt_toInt]

/-! What a search finds. -/

section Found

variable (library : Library) (platform : Platform) (found : List Picture)

theorem stored_of_picturesMatching (condition : Query.Condition)
    (done : library.picturesMatching platform condition = .ok found) :
    ∀ picture ∈ found, picture ∈ library.pictures := by
  unfold picturesMatching at done
  split at done
  · cases done
  · next expression _ =>
      split at done
      · next pictures kept =>
          cases done
          exact mem_of_filterM _ library.pictures found kept
      · cases done

theorem stored_of_search (text : String) (registry : Query.Registry) (settings : CompilerSettings)
    (done : library.search platform text registry settings = .ok found) :
    ∀ picture ∈ found, picture ∈ library.pictures := by
  rcases (bind_ok_iff _ _ _).mp done with ⟨query, _, done⟩
  have done : library.run platform query = .ok found := by
    cases same : library.run platform query with
    | ok pictures =>
        rw [same] at done
        cases done
        rfl
    | error error =>
        rw [same] at done
        cases done
  rw [run] at done
  split at done
  · cases done
    simp
  · next condition _ => exact stored_of_picturesMatching library platform found condition done

end Found

/-- Every way of reading pictures that comes upon the identity of a picture yields that picture. -/
structure ReadsAs (library : Library) (picture : Picture) : Prop where
  byId : library.picture? picture.id = some picture
  byPath : library.pictureAt? picture.path = some picture
  byRow : ∀ table, library.table? "pictures" = some table → ∀ row ∈ table.rows,
    row.head? = some (.integer picture.id) → readPicture? row = some picture
  bySearch : ∀ platform text registry settings found,
    library.search platform text registry settings = .ok found →
      ∀ other ∈ found, other.id = picture.id → other = picture
  bySimilarity : ∀ hash except, ∀ similar ∈ library.similarPictures hash except,
    similar.picture.id = picture.id → similar.picture = picture

theorem readsAs_stored (library : Library) (keyed : library.Keyed) (picture : Picture)
    (stored : picture ∈ library.pictures) : library.ReadsAs picture := by
  have same (other : Picture) (storedToo : other ∈ library.pictures)
      (sameId : other.id = picture.id) : other = picture :=
    eq_of_key Picture.id library.pictures other picture keyed.pictures.distinct storedToo stored
      sameId
  constructor
  case byId => exact find_of_mem Picture.id library.pictures picture keyed.pictures.distinct stored
  case byPath => exact find_of_mem Picture.path library.pictures picture keyed.paths stored
  case byRow =>
    intro table isTable row member head
    cases isTable
    obtain ⟨other, storedToo, rfl⟩ := List.mem_map.mp member
    have sameId : other.id = picture.id := by simpa [pictureRow] using head
    rw [readPicture_row, same other storedToo sameId]
  case bySearch =>
    intro platform text registry settings found done other member
    exact same other (stored_of_search library platform found text registry settings done other member)
  case bySimilarity =>
    intro hash except similar member
    exact same similar.picture ((mem_similarPictures library hash except similar).mp member).1

theorem readsAs_inserted (library : Library) (keyed : library.Keyed) (path : String)
    (hash : Option PictureHash) (free : library.pictureAt? path = none) :
    ∃ picture next, library.insertPicture path hash = .ok (picture, next) ∧
      picture.path = path ∧ picture.hash = hash ∧ next.ReadsAs picture := by
  have done : library.insertPicture path hash = .ok (⟨library.lastPicture + 1, path, hash⟩,
      { library with
        pictures := library.pictures ++ [⟨library.lastPicture + 1, path, hash⟩]
        lastPicture := library.lastPicture + 1 }) := by
    rw [insertPicture, free]
    rfl
  refine ⟨_, _, done, rfl, rfl, ?_⟩
  exact readsAs_stored _ (keyed_insertPicture library keyed path hash _ _ done) _ (by simp)

theorem readsAs_updated (library : Library) (keyed : library.Keyed) (picture : Picture)
    (hash : Option PictureHash) (stored : picture ∈ library.pictures) :
    (library.updateHash picture.id hash).ReadsAs { picture with hash := hash } := by
  refine readsAs_stored _ (keyed_updateHash library keyed picture.id hash) _ ?_
  exact List.mem_map.mpr ⟨picture, stored, if_pos rfl⟩

end Library

/-- The text of a hash is sixteen hexadecimal digits in lower case and reads back as the hash. So
does the signed integer that is stored for it. A picture that is inserted with a hash, or given one
afterwards, has this hash wherever it is read. -/
theorem PictureHash.hash_read_back (hash : PictureHash) :
    (ofText hash.text = .ok hash ∧ hash.text.length = 16 ∧
      ∀ c ∈ hash.text.toList, Text.IsLowerHexDigit c) ∧
    (-2 ^ 63 ≤ hash.toInt ∧ hash.toInt < 2 ^ 63 ∧ ofInt hash.toInt = hash) ∧
    ∀ library, Library.Reachable library →
      (∀ path, library.pictureAt? path = none →
        ∃ picture next, library.insertPicture path (some hash) = .ok (picture, next) ∧
          picture.path = path ∧ picture.hash = some hash ∧ next.ReadsAs picture) ∧
      ∀ picture ∈ library.pictures,
        (library.updateHash picture.id (some hash)).ReadsAs { picture with hash := some hash } := by
  have long : hash.text.length = 16 := by rw [← String.length_toList, text_length]
  have range := toInt_stored hash
  refine ⟨⟨ofText_text hash, long, text_lower hash⟩,
    ⟨range.1, range.2, Library.ofInt_toInt hash⟩, fun library reachable => ?_⟩
  have keyed := Library.keyed_of_reachable library reachable
  constructor
  · intro path free
    exact Library.readsAs_inserted library keyed path (some hash) free
  · intro picture stored
    exact Library.readsAs_updated library keyed picture (some hash) stored

/-- A hash with the highest and the lowest bit, next to a picture without a hash and in place of
none. -/
theorem PictureHash.hash_read_back_high :
    (⟨0x8000000000000001⟩ : PictureHash).text = "8000000000000001" ∧
    ofText "8000000000000001" = .ok ⟨0x8000000000000001⟩ ∧
    (⟨0x8000000000000001⟩ : PictureHash).toInt = -9223372036854775807 ∧
    ofInt (-9223372036854775807) = ⟨0x8000000000000001⟩ ∧
    (∃ picture next, (Library.empty.after (.insertPicture "a.png" none)).insertPicture "b.png"
        (some ⟨0x8000000000000001⟩) = .ok (picture, next) ∧
      picture.path = "b.png" ∧ picture.hash = some ⟨0x8000000000000001⟩ ∧ next.ReadsAs picture) ∧
    ((Library.empty.after (.insertPicture "a.png" none)).updateHash 1
      (some ⟨0x8000000000000001⟩)).ReadsAs ⟨1, "a.png", some ⟨0x8000000000000001⟩⟩ := by
  have written : (⟨0x8000000000000001⟩ : PictureHash).text = "8000000000000001" := by
    decide +kernel
  have signed : (⟨0x8000000000000001⟩ : PictureHash).toInt = -9223372036854775807 := by decide
  obtain ⟨⟨ofText, _, _⟩, ⟨_, _, ofInt⟩, kept⟩ := hash_read_back ⟨0x8000000000000001⟩
  rw [written] at ofText
  rw [signed] at ofInt
  have reachable : Library.Reachable (Library.empty.after (.insertPicture "a.png" none)) :=
    .step _ _ .empty
  obtain ⟨inserted, updated⟩ := kept _ reachable
  exact ⟨written, ofText, signed, ofInt, inserted "b.png" (by decide +kernel),
    updated ⟨1, "a.png", none⟩ (by decide +kernel)⟩

end Gallery
