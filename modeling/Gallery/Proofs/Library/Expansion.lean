import Gallery.Proofs.Library.Catalogue
import Gallery.Proofs.Query.Contradiction
import Gallery.Proofs.Query.StandardTemplates

/-!
A query means what its expansion means, in which the references that are left stand for attachments.
-/

namespace Gallery.Library

-- By the symbol: a search for the instance could find one that goes through all characters.
instance (library : Library) (tag : Tag) (symbol : Option Char) :
    Decidable (library.Typed tag symbol) :=
  match symbol with
  | none => isTrue (by simp [Typed])
  | some c =>
      decidable_of_iff (∃ stored ∈ library.tagTypes,
        stored.symbol = c.toString ∧ tag.typeId = some stored.id) (by simp [Typed])

section Meaning

variable (library : Library) (platform : Platform) (caseDefault : Bool)
  (part : Char → String → String) (picture : Picture)

/-- What the leaves of an expanded query say about a picture. -/
def leafTruth : Query.Atom → Bool
  | .tag label symbol =>
      match library.tag? label with
      | none => false
      | some tag =>
          decide (library.Typed tag symbol) && library.attachments.contains ⟨picture.id, tag.id⟩
  | .pseudo name argument =>
      (library.pseudoValue? platform caseDefault part picture name argument).getD false

/-- A standard pseudo-tag that is used as it must be says something about every picture. -/
theorem pseudo_known (name : String) (argument : Option Query.Argument)
    (admitted : Query.Registry.standard.admits name argument = true) :
    library.pseudoValue? platform caseDefault part picture name argument =
      some (library.leafTruth platform caseDefault part picture (.pseudo name argument)) := by
  have known : (library.pseudoValue? platform caseDefault part picture name argument).isSome := by
    rw [Query.Registry.admits] at admitted
    split at admitted
    · next template found =>
        rw [Option.isNone_iff_eq_none.mp admitted]
        rcases Query.flag_templates name template found with ⟨rfl, _⟩ | ⟨rfl, _⟩ <;> rfl
    · next template found =>
        rcases Option.isSome_iff_exists.mp admitted with ⟨argument, rfl⟩
        rcases Query.pattern_names name template found with rfl | rfl | rfl | rfl <;> rfl
    · cases admitted
  rcases Option.isSome_iff_exists.mp known with ⟨value, same⟩
  rw [leafTruth, same]
  rfl

/-- A reference that expansion leaves means that the picture carries the tag. -/
theorem means_kept (keyed : library.Keyed) (catalogue : Catalogue)
    (read : library.catalogue = .ok catalogue) (label : String) (symbol : Option Char)
    (undefined_ : catalogue.definitions.replacement? label symbol = none) :
    library.Means platform caseDefault part picture (.tag label symbol)
      (library.leafTruth platform caseDefault part picture (.tag label symbol)) := by
  rw [leafTruth]
  cases found : library.tag? label with
  | none => exact .unknown label symbol found
  | some tag =>
      by_cases typed : library.Typed tag symbol
      · -- With a definition the reference would have been replaced.
        have plain : tag.definition = none := by
          cases defined : tag.definition with
          | none => rfl
          | some definition =>
              have replaced := (replacement_iff library keyed catalogue read label symbol
                definition).mpr ⟨tag, found, typed, defined⟩
              rw [undefined_] at replaced
              cases replaced
        simpa [typed] using Means.leaf label symbol tag found typed plain
      · simpa [typed] using Means.mistyped label symbol tag found typed

theorem means_of_expands (keyed : library.Keyed) (catalogue : Catalogue)
    (read : library.catalogue = .ok catalogue) (expr result : Query.Expr)
    (expands : Query.Expands catalogue.definitions expr result)
    (valid : Query.Registry.standard.validate result = .ok ()) :
    library.Means platform caseDefault part picture expr
      (result.eval (library.leafTruth platform caseDefault part picture)) := by
  induction expands with
  | kept label symbol undefined_ =>
      exact means_kept library platform caseDefault part picture keyed catalogue read label symbol
        undefined_
  | replaced label symbol definition body result defined parsed inside ih =>
      rcases (replacement_iff library keyed catalogue read label symbol definition).mp defined with
        ⟨tag, found, typed, same⟩
      exact .compound label symbol tag definition body _ found typed same parsed (ih valid)
  | pseudo name argument =>
      rw [Query.Registry.validate] at valid
      split at valid
      · next admitted =>
          exact .pseudo name argument _
            (pseudo_known library platform caseDefault part picture name argument admitted)
      · cases valid
  | and left right first second expandsLeft expandsRight ihLeft ihRight =>
      rcases (bind_ok_iff _ _ _).mp valid with ⟨_, validLeft, validRight⟩
      exact .and left right _ _ (ihLeft validLeft) (ihRight validRight)
  | or left right first second expandsLeft expandsRight ihLeft ihRight =>
      rcases (bind_ok_iff _ _ _).mp valid with ⟨_, validLeft, validRight⟩
      exact .or left right _ _ (ihLeft validLeft) (ihRight validRight)
  | not operand result inside ih => exact .not operand _ (ih valid)

end Meaning

end Gallery.Library
