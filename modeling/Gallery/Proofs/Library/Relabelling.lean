import Gallery.Proofs.Library.Attachment
import Gallery.Proofs.Library.Targets

/-!
Renaming a tag, and giving a tag type another symbol. Neither touches a definition, and a label that
a definition mentions is not given up; but a reference that stood for no tag may stand for one after
the change, and a reference with a symbol may lose its tag. Where a definition leads to no such
reference, its tag finds the same pictures as before (`relabelled_search_kept`).
-/

namespace Gallery.Library

theorem tag_eq_some_iff (library : Library) (keyed : library.Keyed) (label : String) (tag : Tag) :
    library.tag? label = some tag ↔ tag ∈ library.tags ∧ tag.label = label := by
  constructor
  · intro found
    exact ⟨mem_of_tag library label tag found, label_of_tag library label tag found⟩
  · rintro ⟨stored, rfl⟩
    exact tag_of_mem library keyed tag stored

/-- What is led to is mentioned by a stored definition. -/
theorem mentioned_of_leads (library : Library) (tag : Tag) (stored : tag ∈ library.tags)
    (label : String) (symbol : Option Char) (leads : library.Leads tag label symbol) :
    ∃ user ∈ library.tags, user.Mentions label := by
  cases leads with
  | own _ _ reference => exact ⟨tag, stored, reference.mentions⟩
  | nested outer outerSymbol target _ _ leads found reference =>
      have storedTarget := mem_of_tag library outer target
        ((target_eq_some library outer outerSymbol target).mp found).1
      exact ⟨target, storedTarget, reference.mentions⟩

/-! A new label. -/

section Renamed

variable (library : Library) (keyed : library.Keyed) (old : Tag) (stored : old ∈ library.tags)
  (label : String) (keyedNext : (library.replaceTag { old with label := label }).Keyed)

include keyed stored keyedNext

theorem tag_renamed (other : String) (apart : other ≠ old.label) (apartToo : other ≠ label) :
    (library.replaceTag { old with label := label }).tag? other = library.tag? other := by
  apply Option.ext
  intro tag
  rw [tag_eq_some_iff _ keyedNext, tag_eq_some_iff library keyed]
  constructor
  · rintro ⟨member, same⟩
    rcases List.mem_map.mp member with ⟨before, known, rfl⟩
    by_cases renamed : before.id = old.id
    · rw [if_pos renamed] at same
      exact absurd same.symm apartToo
    · rw [if_neg renamed] at same ⊢
      exact ⟨known, same⟩
  · rintro ⟨known, same⟩
    have different : tag.id ≠ old.id := by
      intro sameId
      rw [eq_of_id library keyed tag old known stored sameId] at same
      exact apart same.symm
    exact ⟨List.mem_map.mpr ⟨tag, known, if_neg different⟩, same⟩

theorem target_renamed (fresh : library.tag? label = none) (other : String)
    (symbol : Option Char) (apart : other ≠ old.label)
    (mistyped : other = label → ¬library.Typed old symbol) :
    (library.replaceTag { old with label := label }).target? other symbol =
      library.target? other symbol := by
  by_cases same : other = label
  · subst same
    have nothing : library.target? other symbol = none := by
      rw [target?, fresh]
      rfl
    rw [nothing, Option.eq_none_iff_forall_ne_some]
    intro tag found
    rcases (target_eq_some _ other symbol tag).mp found with ⟨found, typed⟩
    rcases (tag_eq_some_iff _ keyedNext other tag).mp found with ⟨member, named⟩
    rcases List.mem_map.mp member with ⟨before, known, rfl⟩
    by_cases renamed : before.id = old.id
    · rw [if_pos renamed] at typed
      exact mistyped rfl typed
    · -- Another tag would have had the label before.
      rw [if_neg renamed] at named
      rw [(tag_eq_some_iff library keyed other before).mpr ⟨known, named⟩] at fresh
      cases fresh
  · apply Option.ext
    intro tag
    rw [target_eq_some, target_eq_some, tag_renamed library keyed old stored label keyedNext other
      apart same]
    rfl

end Renamed

/-- The label of a tag after a renaming. -/
def relabel (label newLabel other : String) : String :=
  if other = label then newLabel else other

theorem relabelled_stored (library : Library) (keyed : library.Keyed) (old : Tag)
    (storedOld : old ∈ library.tags) (newLabel : String) (tag : Tag) (stored : tag ∈ library.tags) :
    { tag with label := relabel old.label newLabel tag.label } ∈
      (library.replaceTag { old with label := newLabel }).tags := by
  by_cases same : tag.label = old.label
  · have isOld := eq_of_key Tag.label library.tags tag old keyed.labels stored storedOld same
    subst isOld
    rw [relabel, if_pos rfl]
    exact List.mem_map.mpr ⟨tag, stored, if_pos rfl⟩
  · have different : tag.id ≠ old.id := by
      intro sameId
      exact same (congrArg Tag.label (eq_of_id library keyed tag old stored storedOld sameId))
    rw [relabel, if_neg same]
    exact List.mem_map.mpr ⟨tag, stored, if_neg different⟩

theorem relabel_self (label other : String) : relabel label label other = other := by
  rw [relabel]
  split
  · next same => exact same.symm
  · rfl

/-- No definition leads to a label that none mentions. -/
theorem apart_of_unreferenced (library : Library) (reachable : Reachable library) (tag : Tag)
    (stored : tag ∈ library.tags) (label : String)
    (unreferenced : library.ensureUnreferenced label = .ok ()) (other : String)
    (symbol : Option Char) (leads : library.Leads tag other symbol) : other ≠ label := by
  rintro rfl
  have unmentioned := (ensureUnreferenced_iff library (keyed_of_reachable library reachable)
    (valid_of_reachable library reachable) other).mp unreferenced
  rcases mentioned_of_leads library tag stored other symbol leads with ⟨user, known, mentions⟩
  exact unmentioned user known mentions

/-- Where a label stands for a tag and is not the old one, it is the own label of a tag as much as
its new one. -/
theorem relabel_eq_iff (library : Library) (label newLabel other own : String)
    (symbol : Option Char) (fresh : library.tag? newLabel = none) (apart : other ≠ label)
    (present : library.target? other symbol ≠ none) :
    other = own ↔ other = relabel label newLabel own := by
  rw [relabel]
  split
  · next same =>
      rw [same]
      constructor
      · intro isLabel
        exact absurd isLabel apart
      · rintro rfl
        rw [target?, fresh] at present
        exact absurd rfl present
  · rfl

theorem rename_kept (library : Library) (reachable : Reachable library) (tag : Tag)
    (stored : tag ∈ library.tags) (compound : tag.definition ≠ none) (label newLabel : String)
    (renamed : Tag) (next : Library)
    (done : library.renameTag label newLabel = .ok (renamed, next))
    (unmet : label ≠ newLabel → ∀ symbol, library.Leads tag newLabel symbol →
      ¬library.Typed renamed symbol) :
    { tag with label := relabel label newLabel tag.label } ∈ next.tags ∧
      FindsSame library next tag.label (relabel label newLabel tag.label) := by
  rcases renameTag_ok library label newLabel renamed next done with
    ⟨old, valid, found, ⟨rfl, rfl, rfl⟩ | ⟨different, fresh, unreferenced, defined, rfl, rfl⟩⟩
  · rw [relabel_self]
    exact ⟨stored, fun _ _ => rfl, fun _ _ => rfl⟩
  · have keyed := keyed_of_reachable library reachable
    have reachableNext : Reachable (library.replaceTag { old with label := newLabel }) := by
      have step := Reachable.step library (.renameTag label newLabel) reachable
      rwa [after, done] at step
    have keyedNext := keyed_of_reachable _ reachableNext
    have storedOld := mem_of_tag library label old found
    have named := label_of_tag library label old found
    have apart := apart_of_unreferenced library reachable tag stored label unreferenced
    have later := relabelled_stored library keyed old storedOld newLabel tag stored
    rw [named] at later
    have targets (other : String) (symbol : Option Char) (leads : library.Leads tag other symbol) :
        (library.replaceTag { old with label := newLabel }).target? other symbol =
          library.target? other symbol := by
      apply target_renamed library keyed old storedOld newLabel keyedNext fresh other symbol
      · rw [named]
        exact apart other symbol leads
      · rintro rfl
        exact unmet different symbol leads
    have labels (other : String) (symbol : Option Char) (leads : library.Leads tag other symbol) :=
      relabel_eq_iff library label newLabel other tag.label symbol fresh (apart other symbol leads)
    have compiles := compile_kept library _ reachable reachableNext tag
      { tag with label := relabel label newLabel tag.label } stored later compound rfl targets
      labels
    exact ⟨later, findsSame_of_compiles library
      (library.replaceTag { old with label := newLabel }) rfl rfl keyed keyedNext tag.label _
      compiles⟩

/-! A new symbol. -/

theorem fetchTagType_stored (library : Library) (symbol : Char) (tagType : TagType)
    (found : library.fetchTagType symbol = .ok tagType) :
    ∃ stored ∈ library.tagTypes, stored.symbol = symbol.toString ∧ stored.id = tagType.id := by
  rw [fetchTagType] at found
  split at found
  · cases found
  · next stored first =>
      refine ⟨stored, List.mem_of_find?_eq_some first, by simpa using List.find?_some first, ?_⟩
      split at found
      · next read =>
          cases found
          exact congrArg StoredTagType.id (stored_of_tagType stored tagType read).symm
      · cases found

/-- A tag is of the type with a symbol as before, unless it is of the changed type and the symbol is
the old or the new one. -/
theorem typed_updateTagType (library : Library) (keyed : library.Keyed) (symbol newSymbol : Char)
    (label : String) (color : Nat) (tagType : TagType) (next : Library)
    (done : library.updateTagType symbol label newSymbol color = .ok (tagType, next)) (tag : Tag)
    (given : Option Char)
    (unaffected : symbol ≠ newSymbol → given = some symbol ∨ given = some newSymbol →
      tag.typeId ≠ some tagType.id) :
    next.Typed tag given ↔ library.Typed tag given := by
  rcases updateTagType_ok library symbol label newSymbol color tagType next done with
    ⟨old, _, _, fetched, _, rfl, rfl⟩
  rcases fetchTagType_stored library symbol old fetched with ⟨changed, known, named, sameId⟩
  constructor
  · rintro typed c rfl
    rcases typed c rfl with ⟨stored, member, isSymbol, type⟩
    rcases List.mem_map.mp member with ⟨before, knownBefore, rfl⟩
    by_cases isChanged : before.id = old.id
    · rw [if_pos isChanged] at isSymbol type
      have isNew := toString_injective newSymbol c isSymbol
      subst isNew
      by_cases same : symbol = newSymbol
      · exact ⟨changed, known, by rw [named, same], by rw [sameId]; exact type⟩
      · exact absurd type (unaffected same (.inr rfl))
    · rw [if_neg isChanged] at isSymbol type
      exact ⟨before, knownBefore, isSymbol, type⟩
  · rintro typed c rfl
    rcases typed c rfl with ⟨stored, member, isSymbol, type⟩
    by_cases isChanged : stored.id = old.id
    · have same := eq_of_key StoredTagType.id library.tagTypes stored changed
        keyed.tagTypes.distinct member known (isChanged.trans sameId.symm)
      rw [same, named] at isSymbol
      have isOld := toString_injective symbol c isSymbol
      subst isOld
      rw [isChanged] at type
      by_cases kept : symbol = newSymbol
      · exact ⟨_, List.mem_map.mpr ⟨stored, member, if_pos isChanged⟩, by rw [kept]; rfl, type⟩
      · exact absurd type (unaffected kept (.inl rfl))
    · exact ⟨stored, List.mem_map.mpr ⟨stored, member, if_neg isChanged⟩, isSymbol, type⟩

theorem retype_kept (library : Library) (reachable : Reachable library) (tag : Tag)
    (stored : tag ∈ library.tags) (compound : tag.definition ≠ none) (symbol : Char)
    (label : String) (newSymbol : Char) (color : UInt32) (tagType : TagType) (next : Library)
    (done : library.updateTagType symbol label newSymbol color.toNat = .ok (tagType, next))
    (unmet : symbol ≠ newSymbol → ∀ other given, library.Leads tag other given →
      given = some symbol ∨ given = some newSymbol →
        ∀ target, library.tag? other = some target → target.typeId ≠ some tagType.id) :
    tag ∈ next.tags ∧ FindsSame library next tag.label tag.label := by
  have keyed := keyed_of_reachable library reachable
  have reachableNext : Reachable next := by
    have step := Reachable.step library (.updateTagType symbol label newSymbol color) reachable
    rwa [after, done] at step
  have keyedNext := keyed_of_reachable next reachableNext
  have typed :=
    typed_updateTagType library keyed symbol newSymbol label color.toNat tagType next done
  have rest : next.tags = library.tags ∧ next.pictures = library.pictures ∧
      next.attachments = library.attachments := by
    rcases updateTagType_ok library symbol label newSymbol color.toNat tagType next done with
      ⟨_, _, _, _, _, _, rfl⟩
    exact ⟨rfl, rfl, rfl⟩
  rcases rest with ⟨tags, pictures, attachments⟩
  have targets (other : String) (given : Option Char) (leads : library.Leads tag other given) :
      next.target? other given = library.target? other given := by
    have found : next.tag? other = library.tag? other := by
      rw [tag?, tag?, tags]
    apply Option.ext
    intro target
    rw [target_eq_some, target_eq_some, found]
    constructor
    · rintro ⟨present, isTyped⟩
      refine ⟨present, (typed target given ?_).mp isTyped⟩
      exact fun changed isGiven => unmet changed other given leads isGiven target present
    · rintro ⟨present, isTyped⟩
      refine ⟨present, (typed target given ?_).mpr isTyped⟩
      exact fun changed isGiven => unmet changed other given leads isGiven target present
  have storedNext : tag ∈ next.tags := tags ▸ stored
  have compiles := compile_kept library next reachable reachableNext tag tag stored storedNext
    compound rfl targets fun _ _ _ _ => Iff.rfl
  exact ⟨storedNext, findsSame_of_compiles library next pictures attachments keyed keyedNext
    tag.label tag.label compiles⟩

/-- A compound tag keeps what it finds when a tag gets another label or a tag type another symbol,
unless its definition leads to a reference that the change affects: one to the new label that the
renamed tag fits, or one with the old or the new symbol to a tag of the changed type. The tag that
is renamed itself is searched for under its new label. -/
theorem relabelled_search_kept (library : Library) (reachable : Reachable library) (tag : Tag)
    (stored : tag ∈ library.tags) (compound : tag.definition ≠ none) :
    (∀ label newLabel renamed next, library.renameTag label newLabel = .ok (renamed, next) →
      (label ≠ newLabel → ∀ symbol, library.Leads tag newLabel symbol →
        ¬library.Typed renamed symbol) →
      { tag with label := relabel label newLabel tag.label } ∈ next.tags ∧
        FindsSame library next tag.label (relabel label newLabel tag.label)) ∧
    ∀ symbol label newSymbol (color : UInt32) tagType next,
      library.updateTagType symbol label newSymbol color.toNat = .ok (tagType, next) →
      (symbol ≠ newSymbol → ∀ other given, library.Leads tag other given →
        given = some symbol ∨ given = some newSymbol →
          ∀ target, library.tag? other = some target → target.typeId ≠ some tagType.id) →
      tag ∈ next.tags ∧ FindsSame library next tag.label tag.label := by
  constructor
  · exact fun label newLabel renamed next done unmet =>
      rename_kept library reachable tag stored compound label newLabel renamed next done unmet
  · exact fun symbol label newSymbol color tagType next done unmet =>
      retype_kept library reachable tag stored compound symbol label newSymbol color tagType next
        done unmet

/-- Three pictures, each under a tag, a definition that mentions a label without a tag, and one that
mentions a tag with the symbol of its type. -/
def orchard : Library :=
  [Operation.insertTagType "people" '@' 0, .insertTag "cat" none none, .insertTag "puppy" none none,
    .insertTag "ann" (some 1) none, .insertTag "pets" none (some "cat OR dog"),
    .insertTag "friends" none (some "@ann"), .insertPicture "a.png" none,
    .insertPicture "b.png" none, .insertPicture "c.png" none, .attachTag 1 "cat",
    .attachTag 2 "puppy", .attachTag 3 "ann"].foldl after empty

theorem relabelled_search_kept_orchard :
    (∃ renamed next, orchard.renameTag "pets" "beasts" = .ok (renamed, next) ∧
      next.search (.bare []) "beasts" .standard {} =
        orchard.search (.bare []) "pets" .standard {}) ∧
    ∃ tagType next, orchard.updateTagType '@' "humans" '!' 0 = .ok (tagType, next) ∧
      next.search (.bare []) "pets" .standard {} =
        orchard.search (.bare []) "pets" .standard {} := by
  have parsed : Query.parse "cat OR dog" = .ok (.or (.tag "cat" none) (.tag "dog" none)) := by
    decide +kernel
  have cat : orchard.target? "cat" none = some ⟨1, "cat", none, none⟩ := by decide +kernel
  have dog : orchard.target? "dog" none = none := by decide +kernel
  have leads (label : String) (symbol : Option Char)
      (leads : orchard.Leads ⟨4, "pets", none, some "cat OR dog"⟩ label symbol) :
      (label = "cat" ∨ label = "dog") ∧ symbol = none := by
    induction leads with
    | own label symbol mentioned =>
        rcases mentioned with ⟨_, body, defined, read, member⟩
        cases defined
        rw [parsed] at read
        cases read
        simpa [Query.Expr.references, ← or_and_right] using member
    | nested label symbol target inner innerSymbol _ found mentioned ih =>
        rcases mentioned with ⟨definition, _, defined, _⟩
        rcases ih with ⟨rfl | rfl, rfl⟩
        · rw [cat] at found
          cases found
          cases defined
        · rw [dog] at found
          cases found
  rcases relabelled_search_kept orchard (reachable_run _) ⟨4, "pets", none, some "cat OR dog"⟩
    (by decide +kernel) (by simp) with ⟨renamed, retyped⟩
  constructor
  · have done : orchard.renameTag "pets" "beasts" = .ok (⟨4, "beasts", none, some "cat OR dog"⟩,
        orchard.after (.renameTag "pets" "beasts")) := by decide +kernel
    rcases renamed _ _ _ _ done fun _ symbol led => absurd (leads _ _ led).1 (by simp) with
      ⟨_, same⟩
    exact ⟨_, _, done, same.searches (.bare []) {}⟩
  · have done : orchard.updateTagType '@' "humans" '!' 0 = .ok (⟨1, "humans", '!', 0⟩,
        orchard.after (.updateTagType '@' "humans" '!' 0)) := by decide +kernel
    rcases retyped _ _ _ 0 _ _ done fun _ other given led changed => by
      rcases leads other given led with ⟨_, rfl⟩
      simp at changed with ⟨_, same⟩
    exact ⟨_, _, done, same.searches (.bare []) {}⟩

/-- A renaming gives a tag to a reference that had none, and a new symbol takes a tag away from a
reference with the old one. -/
theorem search_changed_orchard : Reachable orchard ∧
    (∃ renamed next, orchard.renameTag "puppy" "dog" = .ok (renamed, next) ∧
      orchard.search (.bare []) "pets" .standard {} = .ok [⟨1, "a.png", none⟩] ∧
      next.search (.bare []) "pets" .standard {} =
        .ok [⟨1, "a.png", none⟩, ⟨2, "b.png", none⟩]) ∧
    ∃ tagType next, orchard.updateTagType '@' "humans" '!' 0 = .ok (tagType, next) ∧
      orchard.search (.bare []) "friends" .standard {} = .ok [⟨3, "c.png", none⟩] ∧
      next.search (.bare []) "friends" .standard {} = .ok [] := by
  refine ⟨reachable_run _, ?_, ?_⟩
  · exact ⟨⟨2, "dog", none, none⟩, orchard.after (.renameTag "puppy" "dog"), by decide +kernel,
      by decide +kernel, by decide +kernel⟩
  · exact ⟨⟨1, "humans", '!', 0⟩, orchard.after (.updateTagType '@' "humans" '!' 0),
      by decide +kernel, by decide +kernel, by decide +kernel⟩

end Gallery.Library
