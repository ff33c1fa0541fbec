import Gallery.Proofs.Library.Relabelling
import Gallery.Proofs.Query.Relabelling

/-!
Queries across a renaming. A renamed tag keeps its identity, its type and its definition, and no
definition mentions its old label. So a query that mentions the tag by its new label is compiled to
what the query that mentions it by its old label was compiled to, as long as the new label had no
use before (`renamed_query_transparent`).
-/

namespace Gallery.Library

/-- The tag under the label that it has after a renaming. -/
def relabelTag (label newLabel : String) (tag : Tag) : Tag :=
  { tag with label := relabel label newLabel tag.label }

theorem relabel_separates (label newLabel : String) :
    Query.Separates (relabel label newLabel) (· ≠ newLabel) := by
  intro a b apart apartToo same
  unfold relabel at same
  split at same
  · next isOld =>
      split at same
      · next isOldToo => rw [isOld, isOldToo]
      · exact absurd same.symm apartToo
  · split at same
    · exact absurd same apart
    · exact same

section Renamed

variable (library : Library) (keyed : library.Keyed) (old : Tag) (stored : old ∈ library.tags)
  (newLabel : String) (keyedNext : (library.replaceTag { old with label := newLabel }).Keyed)

include keyed stored keyedNext

/-- Under its new label every label finds the tag that it found before. -/
theorem tag_relabelled (label : String) (apart : label ≠ newLabel) :
    (library.replaceTag { old with label := newLabel }).tag? (relabel old.label newLabel label) =
      (library.tag? label).map (relabelTag old.label newLabel) := by
  cases found : library.tag? label with
  | some tag =>
      rcases (tag_eq_some_iff library keyed label tag).mp found with ⟨member, rfl⟩
      exact (tag_eq_some_iff _ keyedNext _ _).mpr
        ⟨relabelled_stored library keyed old stored newLabel tag member, rfl⟩
  | none =>
      have different : label ≠ old.label := by
        rintro rfl
        rw [(tag_eq_some_iff library keyed old.label old).mpr ⟨stored, rfl⟩] at found
        cases found
      rw [relabel, if_neg different,
        tag_renamed library keyed old stored newLabel keyedNext label different apart, found]
      rfl

theorem target_relabelled (label : String) (symbol : Option Char) (apart : label ≠ newLabel) :
    (library.replaceTag { old with label := newLabel }).target?
        (relabel old.label newLabel label) symbol =
      (library.target? label symbol).map (relabelTag old.label newLabel) := by
  rw [target?, target?, tag_relabelled library keyed old stored newLabel keyedNext label apart,
    Option.filter_map]
  rfl

variable (catalogue nextCatalogue : Catalogue) (read : library.catalogue = .ok catalogue)
  (nextRead : (library.replaceTag { old with label := newLabel }).catalogue = .ok nextCatalogue)

include read nextRead

theorem reference_relabelled (label : String) (symbol : Option Char) (apart : label ≠ newLabel) :
    Query.Condition.ofReference nextCatalogue.lookup (relabel old.label newLabel label) symbol =
      Query.Condition.ofReference catalogue.lookup label symbol := by
  rw [reference_target _ keyedNext nextCatalogue nextRead,
    target_relabelled library keyed old stored newLabel keyedNext label symbol apart,
    reference_target library keyed catalogue read]
  cases library.target? label symbol <;> rfl

/-- Definitions go with their tags when neither label is mentioned by one. -/
theorem carries_renamed (valid : library.TagsValid)
    (unmentioned : ∀ tag ∈ library.tags, ¬tag.Mentions newLabel)
    (unmentionedOld : ∀ tag ∈ library.tags, ¬tag.Mentions old.label) :
    Query.Carries catalogue.definitions nextCatalogue.definitions (relabel old.label newLabel)
      (· ≠ newLabel) := by
  refine ⟨relabel_separates old.label newLabel, ?_, ?_⟩
  · intro label symbol apart
    rw [replacement_target _ keyedNext nextCatalogue nextRead,
      target_relabelled library keyed old stored newLabel keyedNext label symbol apart,
      replacement_target library keyed catalogue read]
    cases library.target? label symbol <;> rfl
  · intro label symbol definition _ replaced
    rcases (replacement_iff library keyed catalogue read label symbol definition).mp replaced with
      ⟨tag, known, _, defined⟩
    have member := mem_of_tag library label tag known
    rcases (valid tag member).readable tag definition defined with ⟨body, readable, _⟩
    refine ⟨body, readable, fun inner innerSymbol referred => ?_⟩
    have mentions : tag.Mentions inner := ⟨definition, body, defined, readable, _, referred⟩
    constructor
    · rintro rfl
      exact unmentioned tag member mentions
    · apply if_neg
      rintro rfl
      exact unmentionedOld tag member mentions

end Renamed

/-- Queries that mention a tag by its old label before a renaming and by its new label afterwards
are compiled to the same statement with the same parameters, are both seen to find nothing, or are
refused with the same error. Even their expansions differ in the label only. -/
theorem renamed_query_transparent (library : Library) (reachable : Reachable library)
    (label newLabel : String) (renamed : Tag) (next : Library)
    (unmentioned : ∀ tag ∈ library.tags, ¬tag.Mentions newLabel)
    (done : library.renameTag label newLabel = .ok (renamed, next)) (different : label ≠ newLabel)
    (text other : String) (expr : Query.Expr) (parsed : Query.parse text = .ok expr)
    (absent : newLabel ∉ expr.labels)
    (parsedToo : Query.parse other = .ok (expr.relabelled (relabel label newLabel)))
    (registry : Query.Registry) (settings : CompilerSettings) :
    next.compile other registry settings = (library.compile text registry settings).map
        (Query.Compiled.relabelled (relabel label newLabel)) ∧
      (next.compile other registry settings).map
          (fun query => (query.statement, query.parameters)) =
        (library.compile text registry settings).map
          fun query => (query.statement, query.parameters) := by
  have keyed := keyed_of_reachable library reachable
  have valid := valid_of_reachable library reachable
  have reachableNext : Reachable next := by
    have step := Reachable.step library (.renameTag label newLabel) reachable
    rwa [after, done] at step
  have keyedNext := keyed_of_reachable next reachableNext
  rcases catalogue_read library keyed (related_of_reachable library reachable) with
    ⟨catalogue, read, _⟩
  rcases catalogue_read next keyedNext (related_of_reachable next reachableNext) with
    ⟨nextCatalogue, nextRead, _⟩
  have within : expr.Within (· ≠ newLabel) := by
    rintro given symbol member rfl
    exact absent ((expr.mem_labels_iff given).mpr ⟨symbol, member⟩)
  have compiled : Query.compileExpr (expr.relabelled (relabel label newLabel)) nextCatalogue
      registry settings = (Query.compileExpr expr catalogue registry settings).map
        (Query.Compiled.relabelled (relabel label newLabel)) := by
    rcases renameTag_ok library label newLabel renamed next done with
      ⟨old, _, found, ⟨same, _⟩ | ⟨_, _, unreferenced, _, rfl, rfl⟩⟩
    · exact absurd same different
    · have stored := mem_of_tag library label old found
      have named := label_of_tag library label old found
      subst named
      exact Query.compileExpr_relabelled _ (· ≠ newLabel) catalogue nextCatalogue registry settings
        expr
        (carries_renamed library keyed old stored newLabel keyedNext catalogue nextCatalogue read
          nextRead valid unmentioned
          ((ensureUnreferenced_iff library keyed valid old.label).mp unreferenced))
        within
        (reference_relabelled library keyed old stored newLabel keyedNext catalogue nextCatalogue
          read nextRead)
  have whole : next.compile other registry settings = (library.compile text registry settings).map
      (Query.Compiled.relabelled (relabel label newLabel)) := by
    simp only [compile, read, nextRead, Query.compile, parsed, parsedToo, compiled]
    cases Query.compileExpr expr catalogue registry settings <;> rfl
  refine ⟨whole, ?_⟩
  rw [whole]
  cases library.compile text registry settings <;> rfl

/-- A tag with a type and a definition, a tag that it leads to, and a tag that leads to it through
no definition. -/
def harbour : Library :=
  [Operation.insertTagType "boats" '~' 0, .insertTag "sail" none none,
    .insertTag "yacht" (some 1) (some "sail AND NOT #no_file"), .insertTag "buoy" none none].foldl
      after empty

theorem renamed_query_transparent_harbour :
    ∃ renamed next, harbour.renameTag "yacht" "ketch" = .ok (renamed, next) ∧
      (next.compile "~ketch OR buoy" .standard {}).map
          (fun query => (query.statement, query.parameters)) =
        (harbour.compile "~yacht OR buoy" .standard {}).map
          fun query => (query.statement, query.parameters) := by
  have done : harbour.renameTag "yacht" "ketch" =
      .ok (⟨2, "ketch", some 1, some "sail AND NOT #no_file"⟩,
        harbour.after (.renameTag "yacht" "ketch")) := by decide +kernel
  have body : Query.parse "sail AND NOT #no_file" =
      .ok (.and (.tag "sail" none) (.not (.pseudo "no_file" none))) := by decide +kernel
  have unmentioned : ∀ tag ∈ harbour.tags, ¬tag.Mentions "ketch" := by
    have stored : harbour.tags = [⟨1, "sail", none, none⟩,
        ⟨2, "yacht", some 1, some "sail AND NOT #no_file"⟩, ⟨3, "buoy", none, none⟩] := by
      decide +kernel
    rw [stored]
    rintro tag member ⟨definition, expr, defined, parsed, symbol, mentioned⟩
    simp only [List.mem_cons, List.not_mem_nil, or_false] at member
    rcases member with rfl | rfl | rfl
    · cases defined
    · cases defined
      rw [body] at parsed
      cases parsed
      simp [Query.Expr.references] at mentioned
    · cases defined
  exact ⟨_, _, done, (renamed_query_transparent harbour (reachable_run _) "yacht" "ketch" _ _
    unmentioned done (by decide) "~yacht OR buoy" "~ketch OR buoy"
    (.or (.tag "yacht" (some '~')) (.tag "buoy" none)) (by decide +kernel) (by decide)
    (by decide +kernel) .standard {}).2⟩

end Gallery.Library
