import Gallery.Proofs.Library.Relations
import Gallery.Proofs.Query.WrittenForm

/-!
What the checks admit is what a query can name. The check of a label and that of a symbol look at
characters one by one, while a query is read word by word; yet a label passes exactly when its text
is read as a reference to it, and a symbol exactly when it is read as such before a label
(`admitted_iff_named`).
-/

namespace Gallery

namespace Query

theorem references_wellFormed (expr : Expr) (wellFormed : expr.WellFormed) :
    ∀ reference ∈ expr.references,
      isLabel reference.1 = true ∧ reference.2.all isTypeSymbol = true := by
  induction expr with
  | tag label symbol =>
      intro reference member
      cases List.mem_singleton.mp member
      exact wellFormed
  | pseudo name argument =>
      intro reference member
      cases member
  | and left right ihLeft ihRight | or left right ihLeft ihRight =>
      intro reference member
      rcases List.mem_append.mp member with first | second
      · exact ihLeft wellFormed.1 reference first
      · exact ihRight wellFormed.2 reference second
  | not operand ih => exact ih wellFormed

theorem parse_label_iff (label : String) :
    parse label = .ok (.tag label none) ↔ isLabel label = true := by
  constructor
  · intro parsed
    exact (parse_wellFormed label _ parsed).1
  · exact parse_label label

theorem parse_typed_iff (symbol : Char) (label : String) (valid : isLabel label = true) :
    parse (symbol.toString ++ label) = .ok (.tag label (some symbol)) ↔
      isTypeSymbol symbol = true := by
  constructor
  · intro parsed
    exact (parse_wellFormed _ _ parsed).2
  · intro marks
    have text : (Expr.tag label (some symbol)).text = symbol.toString ++ label := by
      simp [Expr.text, Expr.write]
    rw [← text]
    exact parse_text (.tag label (some symbol)) ⟨valid, marks⟩ (Nat.zero_le _)

end Query

theorem validateLabel_ok_iff (label : String) :
    validateLabel label = .ok () ↔ Query.isLabel label = true := by
  constructor
  · exact Library.validateLabel_ok label
  · intro valid
    exact if_pos valid

namespace Library

/-- A label is admitted exactly when a query that consists of it refers to it, and a symbol exactly
when a query refers to an admitted label with it. Whatever a query refers to could be stored; and
whatever is stored can be referred to: the label of a tag stands for the tag, and the symbol of a tag
type before any label for the type. -/
theorem admitted_iff_named :
    (∀ label, validateLabel label = .ok () ↔ Query.parse label = .ok (.tag label none)) ∧
    (∀ symbol label, validateLabel label = .ok () → (validateSymbol symbol = .ok () ↔
      Query.parse (symbol.toString ++ label) = .ok (.tag label (some symbol)))) ∧
    (∀ text expr, Query.parse text = .ok expr → ∀ label symbol,
      (label, symbol) ∈ expr.references →
        validateLabel label = .ok () ∧ ∀ c ∈ symbol, validateSymbol c = .ok ()) ∧
    ∀ library, Reachable library →
      (∀ tag ∈ library.tags, Query.parse tag.label = .ok (.tag tag.label none) ∧
        library.tag? tag.label = some tag) ∧
      ∀ type ∈ library.tagTypes, ∃ symbol, library.storedTagType? symbol = some type ∧
        ∀ label, validateLabel label = .ok () →
          Query.parse (type.symbol ++ label) = .ok (.tag label (some symbol)) := by
  refine ⟨?_, ?_, ?_, ?_⟩
  · intro label
    rw [validateLabel_ok_iff, Query.parse_label_iff]
  · intro symbol label valid
    rw [validateLabel_ok_iff] at valid
    rw [validateSymbol_ok_iff, Query.parse_typed_iff symbol label valid]
  · intro text expr parsed label symbol member
    have wellFormed := Query.parse_wellFormed text expr parsed
    obtain ⟨named, marked⟩ := Query.references_wellFormed expr wellFormed _ member
    refine ⟨(validateLabel_ok_iff label).mpr named, ?_⟩
    rintro c ⟨⟩
    exact (validateSymbol_ok_iff c).mpr marked
  · intro library reachable
    have keyed := keyed_of_reachable library reachable
    constructor
    · intro tag stored
      have valid := valid_of_reachable library reachable tag stored
      exact ⟨Query.parse_label tag.label valid.named, tag_of_mem library keyed tag stored⟩
    · intro type stored
      obtain ⟨symbol, same, marks⟩ :=
        ((related_of_reachable library reachable).tagTypes type stored).marked
      have found := find_of_mem StoredTagType.symbol library.tagTypes type keyed.symbols stored
      refine ⟨symbol, by rwa [same] at found, ?_⟩
      intro label valid
      rw [validateLabel_ok_iff] at valid
      rw [same]
      exact (Query.parse_typed_iff symbol label valid).mpr marks

/-- A label that begins with a keyword, a symbol that is not a Latin one, and one that would be a
negation. -/
theorem admitted_iff_named_notes : validateLabel "NOTES" = .ok () ∧
    Query.parse "NOTES" = .ok (.tag "NOTES" none) ∧
    Query.parse "§NOTES" = .ok (.tag "NOTES" (some '§')) ∧
    validateSymbol '-' ≠ .ok () ∧ Query.parse "-NOTES" ≠ .ok (.tag "NOTES" (some '-')) := by
  have label : validateLabel "NOTES" = .ok () := by decide +kernel
  have symbol : validateSymbol '§' = .ok () := by decide +kernel
  have minus : validateSymbol '-' ≠ .ok () := by decide
  obtain ⟨labels, symbols, _⟩ := admitted_iff_named
  exact ⟨label, (labels "NOTES").mp label, (symbols '§' "NOTES" label).mp symbol, minus,
    fun parsed => minus ((symbols '-' "NOTES" label).mpr parsed)⟩

end Library

end Gallery
