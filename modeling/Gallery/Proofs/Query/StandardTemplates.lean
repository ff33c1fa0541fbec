import Gallery.Proofs.Sql.Grammar
import Gallery.Query.Selection

/-!
What the templates of the standard pseudo-tags stand for. The template of a pattern is read once,
for fixed values of its placeholders, since rendering only carries the values along.
-/

namespace Gallery.Query

/-! Rendering does not look at the values. -/

theorem placeholder_map (f : String → String) (values : List (String × String))
    (rest : List Char) :
    Template.placeholder? (values.map fun entry => (entry.1, f entry.2)) rest =
      (Template.placeholder? values rest).map fun found => (f found.1, found.2) := by
  simp only [Template.placeholder?, List.find?_map, Option.map_map]
  rfl

theorem renderAfter_map (f : String → String) (values : List (String × String)) (skip : Nat)
    (text : List Char) :
    Template.renderAfter (values.map fun entry => (entry.1, f entry.2)) skip text =
      ((Template.renderAfter values skip text).1,
        (Template.renderAfter values skip text).2.map f) := by
  induction text generalizing skip with
  | nil => cases skip <;> rfl
  | cons c rest ih =>
      cases skip with
      | succ skip => exact ih skip
      | zero =>
          by_cases brace : c = '\x7b'
          · simp only [Template.renderAfter, brace, ↓reduceIte, placeholder_map]
            cases Template.placeholder? values rest with
            | none => simp [ih]
            | some found => simp [ih]
          · simp [Template.renderAfter, brace, ih]

/-- Rendering for the names of the placeholders tells where every value goes. -/
theorem render_values (value flags template : String) :
    Template.render (Condition.placeholders value flags) template =
      ((Template.render (Condition.placeholders "pattern" "flags") template).1,
        (Template.render (Condition.placeholders "pattern" "flags") template).2.map
          fun name => if name = "pattern" then value else flags) :=
  renderAfter_map (fun name => if name = "pattern" then value else flags)
    (Condition.placeholders "pattern" "flags") 0 template.toList

/-! The expressions of the leaves. -/

/-- The path of the picture. -/
def pathExpression : Sql.Expression :=
  .column (some "p") "path"

/-- The part of the path after the last separator. -/
def partExpression (separator : String) : Sql.Expression :=
  .call "SUBSTR" [pathExpression, .arithmetic .add
    (.call "RINSTR" [pathExpression, .value (.text separator)]) (.value (.integer 1))]

/-- That a pattern matches the whole of a text. -/
def matchExpression (text : Sql.Expression) (pattern flags : String) : Sql.Expression :=
  .call "REGEX" [text, .value (.text pattern), .value (.text flags)]

/-- That there is no file at the path. -/
def noFileExpression : Sql.Expression :=
  .not (.call "FILE_EXISTS" [pathExpression])

/-- That the picture carries no tag. -/
def noTagsExpression : Sql.Expression :=
  .not (.select .anyRow (.value (.integer 1)) "picture_tag" "pt"
    (equalExpression (.column (some "pt") "picture_id") (.column (some "p") "id")))

/-- That the picture at a path is similar. -/
def similarExpression (path : String) : Sql.Expression :=
  .and (.distinct (.column (some "p") "hash") (.value .null))
    (.call "SIMILAR_HASHES" [.column (some "p") "hash",
      .select .firstResult (.column none "hash") "pictures" "pictures"
        (equalExpression (.column none "path") (.value (.text path)))])

/-- The expression of a standard pseudo-tag, by its name. -/
def standardExpression? (caseDefault : Bool) (name : String) (argument : Option Argument) :
    Option Sql.Expression :=
  match name, argument with
  | "ext", some argument =>
      some (matchExpression (partExpression ".") argument.pattern
        (Condition.flagsOf caseDefault argument))
  | "name", some argument =>
      some (matchExpression (partExpression "/") argument.pattern
        (Condition.flagsOf caseDefault argument))
  | "path", some argument =>
      some (matchExpression pathExpression argument.pattern
        (Condition.flagsOf caseDefault argument))
  | "similar_to", some argument => some (similarExpression argument.pattern)
  | "no_file", none => some noFileExpression
  | "no_tags", none => some noTagsExpression
  | _, _ => none

/-! How they are written. -/

section Written

open Sql

theorem keyword_word :
    ∀ spelling ∈ Sql.keywords, (Token.word spelling).keyword? = some spelling := by
  decide +kernel

/-- The words of the leaves that name functions, tables, rows and columns. -/
def templateNames : List String :=
  ["SUBSTR", "p", "path", "id", "hash", "pictures", "picture_tag", "pt", "picture_id", "tag_id"]

theorem name_word : ∀ spelling ∈ templateNames, (Token.word spelling).name? = some spelling := by
  decide +kernel

theorem stops_sum (rest : List Token) : Stops .product (.sign "+" :: rest) :=
  ⟨fun other bound => by cases other <;> first | rfl | (simp [Strength.rank] at bound),
    by simp, by simp⟩

theorem stops_equal (rest : List Token) : Stops .order (.sign "=" :: rest) :=
  ⟨fun other bound => by cases other <;> first | rfl | (simp [Strength.rank] at bound),
    by simp, by simp⟩

theorem stops_is (rest : List Token) : Stops .order (.word "IS" :: rest) := by
  refine ⟨fun other bound => ?_, by simp, by simp⟩
  cases other with
  | or | and | not | equality => simp [Strength.rank] at bound
  | _ => simp [operator?]

theorem stops_and (rest : List Token) : Stops .not (.word "AND" :: rest) := by
  have keyword := keyword_word "AND" (by decide)
  refine ⟨fun other bound => ?_, by simp, by simp⟩
  cases other with
  | or | and => simp [Strength.rank] at bound
  | _ => simp [operator?, keyword]

/-- The token is no operator before its operand. -/
structure Leads (token : Token) : Prop where
  plain : token.keyword? ≠ some "NOT"
  unsigned : token ≠ .sign "-"

theorem leads_name (token : Token) (name : String) (named : token.name? = some name) :
    Leads token := by
  refine ⟨by rw [keyword_of_name token name named]; simp, ?_⟩
  rintro rfl
  cases named

theorem leads_word (spelling : String) (member : spelling ∈ templateNames) :
    Leads (.word spelling) :=
  leads_name _ _ (name_word spelling member)

theorem leads_keyword (keyword : String) (member : keyword ∈ Sql.keywords)
    (other : keyword ≠ "NOT") : Leads (.word keyword) :=
  ⟨by rw [keyword_word keyword member]; simpa using other, by simp⟩

theorem written_weak (weak : Strength) (token : Token) (tokens : List Token)
    (parameters : List String) (result : Expression) (leads : Leads token)
    (written : Written (.expression .operand) (token :: tokens) parameters [result]) :
    Written (.expression weak) (token :: tokens) parameters [result] :=
  written_raise .operand weak (by cases weak <;> decide) _ _ _
    (fun _ first same => by cases same; exact leads.plain)
    (fun _ first same => by cases same; exact leads.unsigned) written

theorem written_equal (weak : Strength) (below : weak.rank ≤ Strength.equality.rank)
    (first : Token) (tokens others : List Token) (parameters values : List String)
    (left right : Expression) (leads : Leads first)
    (writtenLeft : Written (.expression .order) (first :: tokens) parameters [left])
    (writtenRight : Written (.expression .order) others values [right]) :
    Written (.expression weak) (first :: (tokens ++ .sign "=" :: others)) (parameters ++ values)
      [equalExpression left right] := by
  have equality : Written (.expression .equality) (first :: (tokens ++ .sign "=" :: others))
      (parameters ++ values) [equalExpression left right] :=
    .binary .equality (.sign "=") [] (.compare .equal) (first :: tokens) others parameters values
      left right (by simp [Strength.IsInfix]) (fun _ => rfl) stops_equal writtenLeft writtenRight
  -- On the way down to `OR` the strength of `NOT` is passed.
  refine written_raise .equality weak below _ _ _ (fun _ token same => ?_)
    (by simp [Strength.rank]) equality
  cases same
  exact leads.plain

theorem written_not (tokens : List Token) (parameters : List String) (operand : Expression)
    (written : Written (.expression .not) tokens parameters [operand]) :
    Written (.expression .not) (.word "NOT" :: tokens) parameters [.not operand] :=
  .negation (.word "NOT") tokens parameters operand (keyword_word "NOT" (by decide)) written

theorem written_column (row name : String) (rowMember : row ∈ templateNames)
    (member : name ∈ templateNames) :
    Written (.expression .operand) [.word row, .sign ".", .word name] []
      [.column (some row) name] :=
  .rowColumn _ _ row name (name_word row rowMember) (name_word name member)

theorem written_path : Written (.expression .or) [.word "p", .sign ".", .word "path"] []
    [pathExpression] :=
  written_weak .or _ _ _ _ (leads_word "p" (by decide))
    (written_column "p" "path" (by decide) (by decide))

/-- The tokens of the part after the last separator. -/
def partTokens (separator : String) : List Token :=
  [.word "SUBSTR", .sign "(", .word "p", .sign ".", .word "path", .sign ",", .name "RINSTR",
    .sign "(", .word "p", .sign ".", .word "path", .sign ",", .text separator, .sign ")",
    .sign "+", .number ⟨1, 0, true⟩, .sign ")"]

theorem written_part (separator : String) :
    Written (.expression .operand) (partTokens separator) [] [partExpression separator] := by
  have separated := written_weak .or _ _ _ _ ⟨by simp [Token.keyword?], by simp⟩ (.text separator)
  have position := Written.call (.name "RINSTR") "RINSTR" _ _ _ rfl
    (.argument _ _ _ _ _ _ written_path (.lastArgument _ _ _ separated))
  have sum := Written.binary .sum (.sign "+") [] (.arithmetic .add) _ _ _ _ _ _
    (by simp [Strength.IsInfix]) (fun _ => rfl) stops_sum
    (written_weak .product _ _ _ _ ⟨by simp [Token.keyword?], by simp⟩ position)
    (written_weak .product _ _ _ _ ⟨by simp [Token.keyword?], by simp⟩ (.number ⟨1, 0, true⟩))
  exact Written.call (.word "SUBSTR") "SUBSTR" _ _ _ (name_word "SUBSTR" (by decide))
    (.argument _ _ _ _ _ _ written_path (.lastArgument _ _ _
      (written_raise .sum .or (by decide) _ _ _ (by simp [Token.keyword?]) (by simp) sum)))

theorem written_match (tokens : List Token) (text : Expression) (pattern flags : String)
    (written : Written (.expression .or) tokens [] [text]) :
    Written (.expression .not) (.name "REGEX" :: .sign "(" ::
        (tokens ++ [.sign ",", .mark, .sign ",", .mark, .sign ")"]))
      [pattern, flags] [matchExpression text pattern flags] := by
  have value (value : String) : Written (.expression .or) [.mark] [value] [.value (.text value)] :=
    written_weak .or _ _ _ _ ⟨by decide, by decide⟩ (.mark value)
  exact written_weak .not _ _ _ _ ⟨by decide, by decide⟩ (.call (.name "REGEX") "REGEX" _ _ _ rfl
    (.argument _ _ _ _ _ _ written
      (.argument _ _ _ _ _ _ (value pattern) (.lastArgument _ _ _ (value flags)))))

theorem written_noFile :
    Written (.expression .not) [.word "NOT", .name "FILE_EXISTS", .sign "(", .word "p", .sign ".",
      .word "path", .sign ")"] [] [noFileExpression] := by
  have call := Written.call (.name "FILE_EXISTS") "FILE_EXISTS" _ _ _ rfl
    (.lastArgument _ _ _ written_path)
  exact written_not _ _ _ (written_weak .not _ _ _ _ ⟨by decide, by decide⟩ call)

/-- The tokens that say whether an attachment belongs to the picture. -/
def attachedTokens : List Token :=
  [.word "pt", .sign ".", .word "picture_id", .sign "=", .word "p", .sign ".", .word "id"]

/-- That an attachment belongs to the picture. -/
def attachedExpression : Sql.Expression :=
  equalExpression (.column (some "pt") "picture_id") (.column (some "p") "id")

theorem written_attached (weak : Strength) (below : weak.rank ≤ Strength.equality.rank) :
    Written (.expression weak) attachedTokens [] [attachedExpression] :=
  written_equal weak below (.word "pt") _ _ _ _ _ _ (leads_word "pt" (by decide))
    (written_weak .order _ _ _ _ (leads_word "pt" (by decide))
      (written_column "pt" "picture_id" (by decide) (by decide)))
    (written_weak .order _ _ _ _ (leads_word "p" (by decide))
      (written_column "p" "id" (by decide) (by decide)))

/-- The tokens that ask for an attachment before those of the condition on it. -/
def attachmentTokens : List Token :=
  [.word "EXISTS", .sign "(", .word "SELECT", .number ⟨1, 0, true⟩, .word "FROM",
    .word "picture_tag", .word "AS", .word "pt", .word "WHERE"]

theorem written_attachment (tokens : List Token) (condition : Expression)
    (written : Written (.expression .or) tokens [] [condition]) :
    Written (.expression .not) (attachmentTokens ++ (tokens ++ [.sign ")"])) []
      [.select .anyRow (.value (.integer 1)) "picture_tag" "pt" condition] := by
  have one := written_weak .or _ _ _ _ ⟨by decide, by decide⟩ (.number ⟨1, 0, true⟩)
  have row : RowName "picture_tag" [.word "AS", .word "pt"] "pt" :=
    .given _ _ "pt" (keyword_word "AS" (by decide)) (name_word "pt" (by decide))
  have selection := Written.selection .anyRow _ (.word "FROM") (.word "picture_tag") _
    (.word "WHERE") _ _ _ _ "picture_tag" "pt" _ (keyword_word "FROM" (by decide))
    (name_word "picture_tag" (by decide)) row (keyword_word "WHERE" (by decide)) (fun _ => rfl) one
    written
  have exist := Written.exist (.word "EXISTS") (.word "SELECT") _ _ _
    (keyword_word "EXISTS" (by decide)) (keyword_word "SELECT" (by decide)) selection
  exact written_weak .not _ _ _ _ (leads_keyword "EXISTS" (by decide) (by decide)) exist

theorem written_noTags :
    Written (.expression .not)
      (.word "NOT" :: (attachmentTokens ++ (attachedTokens ++ [.sign ")"]))) []
      [noTagsExpression] :=
  written_not _ _ _ (written_attachment _ _ (written_attached .or (by decide)))

theorem written_similar (path : String) :
    Written (.expression .not) [.sign "(", .word "p", .sign ".", .word "hash", .word "IS",
      .word "NOT", .word "NULL", .word "AND", .name "SIMILAR_HASHES", .sign "(", .word "p",
      .sign ".", .word "hash", .sign ",", .sign "(", .word "SELECT", .word "hash", .word "FROM",
      .word "pictures", .word "WHERE", .word "path", .sign "=", .mark, .sign ")", .sign ")",
      .sign ")"] [path] [similarExpression path] := by
  have leads := leads_word "p" (by decide)
  have hash := written_column "p" "hash" (by decide) (by decide)
  have isNot (rest : List Token) :
      operator? .equality (.word "IS" :: .word "NOT" :: rest) = some (.distinct, rest) := by
    simp [operator?, keyword_word "IS" (by decide), keyword_word "NOT" (by decide)]
  have and (rest : List Token) : operator? .and (.word "AND" :: rest) = some (.and, rest) := by
    simp [operator?, keyword_word "AND" (by decide)]
  have present := Written.binary .equality (.word "IS") [.word "NOT"] .distinct _ _ _ _ _ _
    (by simp [Strength.IsInfix]) isNot (fun rest => stops_is _)
    (written_weak .order _ _ _ _ leads hash)
    (written_weak .order _ _ _ _ (leads_keyword "NULL" (by decide) (by decide))
      (.null (.word "NULL") (keyword_word "NULL" (by decide))))
  have same := written_equal .or (by decide) (.word "path") _ _ _ _ _ _
    (leads_word "path" (by decide))
    (written_weak .order _ _ _ _ (leads_word "path" (by decide))
      (.column (.word "path") "path" (name_word "path" (by decide))))
    (written_weak .order _ _ _ _ ⟨by decide, by decide⟩ (.mark path))
  have selection := Written.selection .firstResult _ (.word "FROM") (.word "pictures") []
    (.word "WHERE") _ _ _ _ "pictures" "pictures" _ (keyword_word "FROM" (by decide))
    (name_word "pictures" (by decide)) .own (keyword_word "WHERE" (by decide)) (fun _ => rfl)
    (written_weak .or _ _ _ _ (leads_word "hash" (by decide))
      (.column (.word "hash") "hash" (name_word "hash" (by decide)))) same
  have chosen := Written.choose (.word "SELECT") _ _ _ (keyword_word "SELECT" (by decide)) selection
  have call := Written.call (.name "SIMILAR_HASHES") "SIMILAR_HASHES" _ _ _ rfl
    (.argument _ _ _ _ _ _ (written_weak .or _ _ _ _ leads hash)
      (.lastArgument _ _ _ (written_weak .or _ _ _ _ ⟨by decide, by decide⟩ chosen)))
  have both := Written.binary .and (.word "AND") [] .and _ _ _ _ _ _ (by simp [Strength.IsInfix])
    and (fun rest => stops_and _)
    (written_raise .equality .not (by decide) _ _ _
      (fun _ token same => by cases same; exact leads.plain) (by simp [Strength.rank]) present)
    (written_weak .not _ _ _ _ ⟨by decide, by decide⟩ call)
  have unselected : (Token.word "p").keyword? ≠ some "SELECT" := by
    rw [keyword_of_name _ _ (name_word "p" (by decide))]
    simp
  exact written_weak .not _ _ _ _ ⟨by decide, by decide⟩ (.group _ _ _
    (fun token same => by cases same; exact unselected)
    (written_raise .and .or (by decide) _ _ _ (by simp [Strength.rank]) (by simp [Strength.rank])
      both))

end Written

/-! The standard pseudo-tags stand for those expressions. -/

theorem mem_of_find (registry : Registry) (name : String) (tag : PseudoTag)
    (found : registry.find? name = some tag) : (name, tag) ∈ registry.entries := by
  rcases List.lookup_eq_some_iff.mp found with ⟨before, after, split, _⟩
  rw [split]
  simp

theorem rendered_standsFor (template value flags : String) (found : List Sql.Token)
    (marks : List String) (expression : Sql.Expression)
    (rendered : (Template.render (Condition.placeholders "pattern" "flags") template).2 = marks)
    (cut : Sql.tokens (Template.render (Condition.placeholders "pattern" "flags") template).1 =
      some found)
    (written : Sql.Written (.expression .not) found
      (marks.map fun name => if name = "pattern" then value else flags) [expression]) :
    Sql.StandsFor (Template.render (Condition.placeholders value flags) template).1
      (Template.render (Condition.placeholders value flags) template).2 expression := by
  rw [render_values]
  exact ⟨found, cut, rendered ▸ written⟩

theorem flag_templates (name template : String)
    (found : Registry.standard.find? name = some ⟨.flag, template⟩) :
    name = "no_file" ∧ template = "NOT \"FILE_EXISTS\"(p.path)" ∨
      name = "no_tags" ∧ template =
        "NOT EXISTS (SELECT 1 FROM picture_tag AS pt WHERE pt.picture_id = p.id)" := by
  have member := mem_of_find _ _ _ found
  simpa [Registry.standard] using member

theorem flag_standsFor (caseDefault : Bool) (name template : String)
    (found : Registry.standard.find? name = some ⟨.flag, template⟩) :
    ∃ expression, standardExpression? caseDefault name none = some expression ∧
      Sql.StandsFor template.toList [] expression := by
  rcases flag_templates name template found with ⟨rfl, rfl⟩ | ⟨rfl, rfl⟩
  · exact ⟨noFileExpression, rfl, _, by decide +kernel, written_noFile⟩
  · exact ⟨noTagsExpression, rfl, _, by decide +kernel, written_noTags⟩

theorem flag_expression (caseDefault : Bool) (name template : String)
    (found : Registry.standard.find? name = some ⟨.flag, template⟩) :
    ∃ expression, standardExpression? caseDefault name none = some expression ∧
      (Condition.flag template).expression? = some expression := by
  rcases flag_standsFor caseDefault name template found with ⟨expression, standard, stands⟩
  exact ⟨expression, standard, stands.read⟩

theorem pattern_names (name template : String)
    (found : Registry.standard.find? name = some ⟨.pattern, template⟩) :
    name = "ext" ∨ name = "name" ∨ name = "path" ∨ name = "similar_to" := by
  have member := mem_of_find _ _ _ found
  simp [Registry.standard] at member
  rcases member with ⟨rfl, _⟩ | ⟨rfl, _⟩ | ⟨rfl, _⟩ | ⟨rfl, _⟩ <;> simp

theorem pattern_standsFor (caseDefault : Bool) (name template : String) (argument : Argument)
    (found : Registry.standard.find? name = some ⟨.pattern, template⟩) :
    ∃ expression, standardExpression? caseDefault name (some argument) = some expression ∧
      Sql.StandsFor (Template.render (Condition.placeholders argument.pattern
          (Condition.flagsOf caseDefault argument)) template).1
        (Template.render (Condition.placeholders argument.pattern
          (Condition.flagsOf caseDefault argument)) template).2 expression := by
  have member := mem_of_find _ _ _ found
  simp only [Registry.standard, List.mem_cons, List.not_mem_nil, or_false, Prod.mk.injEq,
    PseudoTag.mk.injEq, reduceCtorEq, false_and, and_false, false_or, true_and] at member
  rcases member with ⟨rfl, rfl⟩ | ⟨rfl, rfl⟩ | ⟨rfl, rfl⟩ | ⟨rfl, rfl⟩
  · exact ⟨_, rfl, rendered_standsFor _ _ _ _ ["pattern", "flags"] _ (by decide +kernel)
      (by decide +kernel) (written_match _ _ _ _ (written_weak .or _ _ _ _
        (leads_word "SUBSTR" (by decide)) (written_part ".")))⟩
  · exact ⟨_, rfl, rendered_standsFor _ _ _ _ ["pattern", "flags"] _ (by decide +kernel)
      (by decide +kernel) (written_match _ _ _ _ (written_weak .or _ _ _ _
        (leads_word "SUBSTR" (by decide)) (written_part "/")))⟩
  · exact ⟨_, rfl, rendered_standsFor _ _ _ _ ["pattern", "flags"] _ (by decide +kernel)
      (by decide +kernel) (written_match _ _ _ _ written_path)⟩
  · exact ⟨_, rfl, rendered_standsFor _ _ _ _ ["pattern"] _ (by decide +kernel) (by decide +kernel)
      (written_similar argument.pattern)⟩

theorem pattern_expression (caseDefault : Bool) (name template : String) (argument : Argument)
    (found : Registry.standard.find? name = some ⟨.pattern, template⟩) :
    ∃ expression, standardExpression? caseDefault name (some argument) = some expression ∧
      (Condition.pattern template argument.pattern
        (Condition.flagsOf caseDefault argument)).expression? = some expression := by
  rcases pattern_standsFor caseDefault name template argument found with
    ⟨expression, standard, stands⟩
  exact ⟨expression, standard, stands.read⟩

end Gallery.Query
