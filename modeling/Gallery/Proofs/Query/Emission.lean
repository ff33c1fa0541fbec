import Gallery.Proofs.Query.Expansion
import Mathlib.Data.List.Infix

/-!
What a compiled query asks of the catalogue. The expansion decides by the definitions which
references it replaces, and the condition decides by the tags what the others stand for; the two
decisions fit together, so that a statement asks for the attachments of tags without a definition
only (`compiled_references_exact`).
-/

namespace Gallery

namespace Catalogue

/-- The tag has the type with the symbol, when there is a symbol. -/
def Fits (catalogue : Catalogue) (tag : Tag) (symbol : Option Char) : Prop :=
  ∀ c, symbol = some c →
    ∃ tagType, catalogue.tagType? c = some tagType ∧ tag.typeId = some tagType.id

/-- The label is unknown, or the symbol is unknown or belongs to another type than the tag's. -/
def Mistaken (catalogue : Catalogue) (label : String) (symbol : Option Char) : Prop :=
  catalogue.tag? label = none ∨ ∃ c, symbol = some c ∧
    (catalogue.tagType? c = none ∨ ∃ tag tagType, catalogue.tag? label = some tag ∧
      catalogue.tagType? c = some tagType ∧ tag.typeId ≠ some tagType.id)

theorem label_of_tag (catalogue : Catalogue) (label : String) (tag : Tag)
    (found : catalogue.tag? label = some tag) : tag.label = label := by
  simpa using List.find?_some found

theorem mistaken_iff (catalogue : Catalogue) (label : String) (symbol : Option Char) (tag : Tag)
    (found : catalogue.tag? label = some tag) :
    catalogue.Mistaken label symbol ↔ ¬catalogue.Fits tag symbol := by
  cases symbol with
  | none => simp [Mistaken, Fits, found]
  | some c =>
      cases typed : catalogue.tagType? c with
      | none => simp [Mistaken, Fits, typed]
      | some tagType => simp [Mistaken, Fits, found, typed]

end Catalogue

namespace Query

/-- Where a reference is kept, a tag with a definition is not what it stands for. -/
theorem plain_of_kept (catalogue : Catalogue) (label : String) (symbol : Option Char) (tag : Tag)
    (found : catalogue.tag? label = some tag) (fits : catalogue.Fits tag symbol)
    (kept : catalogue.definitions.replacement? label symbol = none) : tag.definition = none := by
  have typed : symbol.all (catalogue.definitions.hasType label) = true := by
    cases symbol with
    | none => rfl
    | some c =>
        rcases fits c rfl with ⟨tagType, known, same⟩
        simp [Catalogue.definitions, Catalogue.hasType, found, known, same]
  rw [Definitions.replacement?, if_pos typed] at kept
  simpa [Catalogue.definitions, Catalogue.definition?, found] using kept

theorem ofReference_never (catalogue : Catalogue) (label : String) (symbol : Option Char)
    (mistaken : catalogue.Mistaken label symbol) :
    Condition.ofReference catalogue.lookup label symbol = .never := by
  rcases mistaken with absent | ⟨c, rfl, unknown | ⟨tag, tagType, found, typed, apart⟩⟩
  · simp [Condition.ofReference, Catalogue.lookup, absent]
  · cases found : catalogue.tag? label with
    | none => simp [Condition.ofReference, Catalogue.lookup, found]
    | some tag => simp [Condition.ofReference, Catalogue.lookup, found, unknown]
  · simp [Condition.ofReference, Catalogue.lookup, found, typed, apart]

theorem ofReference_carries (catalogue : Catalogue) (label : String) (symbol : Option Char)
    (tag : Tag) (found : catalogue.tag? label = some tag) (fits : catalogue.Fits tag symbol) :
    Condition.ofReference catalogue.lookup label symbol = .carries tag.id := by
  cases symbol with
  | none => simp [Condition.ofReference, Catalogue.lookup, found]
  | some c =>
      rcases fits c rfl with ⟨tagType, typed, same⟩
      simp [Condition.ofReference, Catalogue.lookup, found, typed, same]

theorem ofReference_cases (lookup : TagLookup) (label : String) (symbol : Option Char) :
    Condition.ofReference lookup label symbol = .never ∨
      ∃ tag, Condition.ofReference lookup label symbol = .carries tag := by
  unfold Condition.ofReference
  split
  · exact .inl rfl
  · next tag typeId _ =>
      split
      · exact .inr ⟨tag, rfl⟩
      · split
        · exact .inl rfl
        · split
          · exact .inr ⟨tag, rfl⟩
          · exact .inl rfl

/-- A whole number is written with its digits, behind a hyphen when it is negative. -/
theorem toString_digits (n : Int) :
    (toString n).toList = (if n < 0 then ['-'] else []) ++ Nat.toDigits 10 n.natAbs := by
  cases n with
  | ofNat n =>
      have written : toString (Int.ofNat n) = toString n := rfl
      rw [written, Nat.toString_eq_ofList_toDigits, if_neg (by simp)]
      simp
  | negSucc n =>
      have written : toString (Int.negSucc n) = "-" ++ toString (n + 1) := rfl
      rw [written, Nat.toString_eq_ofList_toDigits, if_pos (Int.negSucc_lt_zero n)]
      simp

/-- The text that asks whether the picture carries a tag. -/
def carriesText (tag : Int) : List Char :=
  "EXISTS (SELECT 1 FROM picture_tag AS pt ".toList ++
    ("WHERE pt.picture_id = p.id AND pt.tag_id = ".toList ++ ((toString tag).toList ++ [')']))

/-- The text of two parts in parentheses with an operator between them. -/
def junctionText (operator first second : List Char) : List Char :=
  '(' :: (first ++ (operator ++ (second ++ [')'])))

/-- `Emits catalogue registry expr text`: the text asks for what the expression says. A reference
that is mistaken asks for nothing that a picture could have; any other asks for the attachments of a
tag without a definition. -/
inductive Emits (catalogue : Catalogue) (registry : Registry) : Expr → List Char → Prop where
  | never (label : String) (symbol : Option Char) (mistaken : catalogue.Mistaken label symbol) :
      Emits catalogue registry (.tag label symbol) "1 = 0".toList
  | carries (label : String) (symbol : Option Char) (tag : Tag)
      (known : ¬catalogue.Mistaken label symbol) (found : catalogue.tag? label = some tag)
      (named : tag.label = label) (plain : tag.definition = none)
      (fits : catalogue.Fits tag symbol) :
      Emits catalogue registry (.tag label symbol) (carriesText tag.id)
  | flag (name template : String) (found : registry.find? name = some ⟨.flag, template⟩) :
      Emits catalogue registry (.pseudo name none) template.toList
  | pattern (name template flags : String) (argument : Argument)
      (found : registry.find? name = some ⟨.pattern, template⟩) :
      Emits catalogue registry (.pseudo name (some argument))
        (Template.render (Condition.placeholders argument.pattern flags) template).1
  | and (left right : Expr) (first second : List Char)
      (emitsLeft : Emits catalogue registry left first)
      (emitsRight : Emits catalogue registry right second) :
      Emits catalogue registry (.and left right)
        (junctionText " AND ".toList first second)
  | or (left right : Expr) (first second : List Char)
      (emitsLeft : Emits catalogue registry left first)
      (emitsRight : Emits catalogue registry right second) :
      Emits catalogue registry (.or left right)
        (junctionText " OR ".toList first second)
  | not (operand : Expr) (text : List Char) (emits : Emits catalogue registry operand text) :
      Emits catalogue registry (.not operand) ("NOT ".toList ++ text)

/-! The text of a condition, whatever follows it. -/

namespace Condition

-- Unfolding `write` would also compute the characters of its texts.

theorem write_never (rest : List Char) : never.write rest = "1 = 0".toList ++ rest := rfl

theorem write_carries (tag : Int) (rest : List Char) :
    (carries tag).write rest = "EXISTS (SELECT 1 FROM picture_tag AS pt ".toList ++
      ("WHERE pt.picture_id = p.id AND pt.tag_id = ".toList ++
        ((toString tag).toList ++ ')' :: rest)) := rfl

theorem write_flag (template : String) (rest : List Char) :
    (flag template).write rest = template.toList ++ rest := rfl

theorem write_pattern (template value flags : String) (rest : List Char) :
    (pattern template value flags).write rest =
      (Template.render (placeholders value flags) template).1 ++ rest := rfl

theorem write_and (left right : Condition) (rest : List Char) :
    (and left right).write rest =
      '(' :: left.write (" AND ".toList ++ right.write (')' :: rest)) := rfl

theorem write_or (left right : Condition) (rest : List Char) :
    (or left right).write rest =
      '(' :: left.write (" OR ".toList ++ right.write (')' :: rest)) := rfl

theorem write_not (operand : Condition) (rest : List Char) :
    (not operand).write rest = "NOT ".toList ++ operand.write rest := rfl

theorem write_between (operator rest : List Char) (left right : Condition)
    (appendLeft : ∀ rest, left.write rest = left.write [] ++ rest)
    (appendRight : ∀ rest, right.write rest = right.write [] ++ rest) :
    '(' :: left.write (operator ++ right.write (')' :: rest)) =
      junctionText operator (left.write []) (right.write []) ++ rest := by
  rw [appendLeft, appendRight, junctionText]
  simp

theorem write_append (condition : Condition) (rest : List Char) :
    condition.write rest = condition.write [] ++ rest := by
  induction condition generalizing rest with
  | never => rw [write_never, write_never, List.append_nil]
  | carries tag =>
      rw [write_carries, write_carries]
      simp only [List.append_assoc, List.cons_append, List.nil_append]
  | flag template => rw [write_flag, write_flag, List.append_nil]
  | pattern template value flags => rw [write_pattern, write_pattern, List.append_nil]
  | and left right ihLeft ihRight =>
      rw [write_and, write_and, write_between _ rest left right ihLeft ihRight,
        write_between _ [] left right ihLeft ihRight, List.append_nil]
  | or left right ihLeft ihRight =>
      rw [write_or, write_or, write_between _ rest left right ihLeft ihRight,
        write_between _ [] left right ihLeft ihRight, List.append_nil]
  | not operand ih => rw [write_not, write_not, ih, List.append_assoc]

theorem write_and_alone (left right : Condition) :
    (and left right).write [] = junctionText " AND ".toList (left.write []) (right.write []) := by
  rw [write_and, write_between _ [] left right left.write_append right.write_append,
    List.append_nil]

theorem write_or_alone (left right : Condition) :
    (or left right).write [] = junctionText " OR ".toList (left.write []) (right.write []) := by
  rw [write_or, write_between _ [] left right left.write_append right.write_append,
    List.append_nil]

end Condition

theorem emits_reference (catalogue : Catalogue) (registry : Registry) (label : String)
    (symbol : Option Char) (kept : catalogue.definitions.replacement? label symbol = none) :
    Emits catalogue registry (.tag label symbol)
      ((Condition.ofReference catalogue.lookup label symbol).write []) := by
  by_cases mistaken : catalogue.Mistaken label symbol
  · rw [ofReference_never catalogue label symbol mistaken]
    exact .never label symbol mistaken
  · cases found : catalogue.tag? label with
    | none => exact absurd (.inl found) mistaken
    | some tag =>
        have fits : catalogue.Fits tag symbol := by
          simpa [catalogue.mistaken_iff label symbol tag found] using mistaken
        have plain := plain_of_kept catalogue label symbol tag found fits kept
        have named := catalogue.label_of_tag label tag found
        rw [ofReference_carries catalogue label symbol tag found fits,
          Condition.write_carries]
        exact .carries label symbol tag mistaken found named plain fits

/-- A condition is built from an expression, leaf by leaf and with the same connectives. -/
inductive Condition.Built (lookup : TagLookup) (registry : Registry) (caseDefault : Bool) :
    Expr → Condition → Prop where
  | reference (label : String) (symbol : Option Char) :
      Built lookup registry caseDefault (.tag label symbol) (.ofReference lookup label symbol)
  | flag (name template : String) (found : registry.find? name = some ⟨.flag, template⟩) :
      Built lookup registry caseDefault (.pseudo name none) (.flag template)
  | pattern (name template : String) (argument : Argument)
      (found : registry.find? name = some ⟨.pattern, template⟩) :
      Built lookup registry caseDefault (.pseudo name (some argument))
        (.pattern template argument.pattern (Condition.flagsOf caseDefault argument))
  | and (left right : Expr) (first second : Condition)
      (inLeft : Built lookup registry caseDefault left first)
      (inRight : Built lookup registry caseDefault right second) :
      Built lookup registry caseDefault (.and left right) (.and first second)
  | or (left right : Expr) (first second : Condition)
      (inLeft : Built lookup registry caseDefault left first)
      (inRight : Built lookup registry caseDefault right second) :
      Built lookup registry caseDefault (.or left right) (.or first second)
  | not (operand : Expr) (inner : Condition)
      (inside : Built lookup registry caseDefault operand inner) :
      Built lookup registry caseDefault (.not operand) (.not inner)

theorem built_of_ofExpr (lookup : TagLookup) (registry : Registry) (caseDefault : Bool)
    (expr : Expr) (condition : Condition)
    (done : Condition.ofExpr lookup registry caseDefault expr = .ok condition) :
    Condition.Built lookup registry caseDefault expr condition := by
  induction expr generalizing condition with
  | tag label symbol =>
      cases done
      exact .reference label symbol
  | pseudo name argument =>
      unfold Condition.ofExpr at done
      split at done
      · next template found =>
          cases done
          exact .flag name template found
      · next template argument found =>
          cases done
          exact .pattern name template argument found
      · cases done
  | and left right ihLeft ihRight =>
      rcases (bind_ok_iff _ _ _).mp done with ⟨first, doneLeft, done⟩
      rcases (bind_ok_iff _ _ _).mp done with ⟨second, doneRight, done⟩
      cases done
      exact .and left right first second (ihLeft first doneLeft) (ihRight second doneRight)
  | or left right ihLeft ihRight =>
      rcases (bind_ok_iff _ _ _).mp done with ⟨first, doneLeft, done⟩
      rcases (bind_ok_iff _ _ _).mp done with ⟨second, doneRight, done⟩
      cases done
      exact .or left right first second (ihLeft first doneLeft) (ihRight second doneRight)
  | not operand ih =>
      rcases (bind_ok_iff _ _ _).mp done with ⟨inner, doneInner, done⟩
      cases done
      exact .not operand inner (ih inner doneInner)

theorem ofExpr_of_built (lookup : TagLookup) (registry : Registry) (caseDefault : Bool)
    (expr : Expr) (condition : Condition)
    (built : Condition.Built lookup registry caseDefault expr condition) :
    Condition.ofExpr lookup registry caseDefault expr = .ok condition := by
  induction built with
  | reference label symbol => rfl
  | flag name template found | pattern name template argument found =>
      unfold Condition.ofExpr
      rw [found]
  | and left right first second _ _ ihLeft ihRight
  | or left right first second _ _ ihLeft ihRight =>
      rw [Condition.ofExpr, ihLeft, ihRight]
      rfl
  | not operand inner _ ih =>
      rw [Condition.ofExpr, ih]
      rfl

theorem emits_condition (catalogue : Catalogue) (registry : Registry) (caseDefault : Bool)
    (expr : Expr) (condition : Condition)
    (kept : ∀ label symbol, (label, symbol) ∈ expr.references →
      catalogue.definitions.replacement? label symbol = none)
    (built : Condition.Built catalogue.lookup registry caseDefault expr condition) :
    Emits catalogue registry expr (condition.write []) := by
  induction built with
  | reference label symbol =>
      exact emits_reference catalogue registry label symbol
        (kept label symbol (List.mem_singleton.mpr rfl))
  | flag name template found =>
      rw [Condition.write_flag, List.append_nil]
      exact .flag name template found
  | pattern name template argument found =>
      rw [Condition.write_pattern, List.append_nil]
      exact .pattern name template _ argument found
  | and left right first second _ _ ihLeft ihRight =>
      rw [Condition.write_and_alone]
      apply Emits.and
      · exact ihLeft fun label symbol member => kept label symbol (List.mem_append_left _ member)
      · exact ihRight fun label symbol member => kept label symbol (List.mem_append_right _ member)
  | or left right first second _ _ ihLeft ihRight =>
      rw [Condition.write_or_alone]
      apply Emits.or
      · exact ihLeft fun label symbol member => kept label symbol (List.mem_append_left _ member)
      · exact ihRight fun label symbol member => kept label symbol (List.mem_append_right _ member)
  | not operand inner _ ih =>
      rw [Condition.write_not]
      exact .not operand _ (ih kept)

/-- The statement of a compiled query asks for what the expanded query says. Of the references that
expansion has left, exactly the mistaken ones ask for nothing that a picture could have, and every
other one asks for the attachments of the tag with its label, which has no definition and has the
type with the symbol when there is one. A reference that is left to a tag with a definition is
mistaken. -/
theorem compiled_references_exact (text : String) (catalogue : Catalogue) (registry : Registry)
    (settings : CompilerSettings) (query : Compiled) (statement : String)
    (compiled : compile text catalogue registry settings = .ok query)
    (present : query.statement = some statement) :
    (∃ condition, Emits catalogue registry query.expanded condition ∧
      statement = "SELECT p.id, p.path, p.hash FROM pictures AS p WHERE " ++
        String.ofList condition ++ " ORDER BY p.id") ∧
    ∀ label symbol tag, (label, symbol) ∈ query.expanded.references →
      catalogue.tag? label = some tag → tag.definition ≠ none →
        catalogue.Mistaken label symbol := by
  rcases compile_ok text catalogue registry settings query compiled with
    ⟨expr, _, expanded, _, ⟨_, absent⟩ | ⟨condition, stands, built⟩⟩
  · simp [Compiled.statement, absent] at present
  · have kept := kept_of_expands catalogue.definitions expr query.expanded
      (expand_expands catalogue.definitions settings.maxNodes expr query.expanded expanded)
    constructor
    · refine ⟨condition.write [], ?_, ?_⟩
      · exact emits_condition catalogue registry settings.caseSensitive query.expanded condition
          kept (built_of_ofExpr _ _ _ _ _ built)
      · rw [Compiled.statement, stands, Option.map_some, Option.some.injEq] at present
        exact present.symm
    · intro label symbol tag member found defined
      rw [catalogue.mistaken_iff label symbol tag found]
      intro fits
      exact defined (plain_of_kept catalogue label symbol tag found fits
        (kept label symbol member))

/-- Cats, people and two compound tags, of which one has a type. -/
def zoo : Catalogue :=
  ⟨[⟨1, "people", '@', 0⟩, ⟨2, "groups", '%', 0⟩],
    [⟨1, "cat", none, none⟩, ⟨2, "ann", some 1, none⟩, ⟨3, "pets", some 2, some "cat OR @ann"⟩]⟩

theorem compiled_references_exact_zoo : ∃ query statement condition,
    compile "%pets OR @pets OR @cat" zoo .standard {} = .ok query ∧
    query.statement = some statement ∧ Emits zoo .standard query.expanded condition ∧
    statement = "SELECT p.id, p.path, p.hash FROM pictures AS p WHERE " ++
      String.ofList condition ++ " ORDER BY p.id" ∧
    zoo.Mistaken "pets" (some '@') := by
  have compiled : compile "%pets OR @pets OR @cat" zoo .standard {} = .ok
      ⟨.or (.or (.or (.tag "cat" none) (.tag "ann" (some '@'))) (.tag "pets" (some '@')))
        (.tag "cat" (some '@')),
      some (.or (.or (.or (.carries 1) (.carries 2)) .never) .never)⟩ := by
    decide +kernel
  rcases compiled_references_exact "%pets OR @pets OR @cat" zoo .standard {} _ _ compiled rfl with
    ⟨⟨condition, emits, same⟩, mistaken⟩
  refine ⟨_, _, condition, compiled, rfl, emits, same, ?_⟩
  exact mistaken "pets" (some '@') _ (by decide) rfl (by simp)

end Query

end Gallery
