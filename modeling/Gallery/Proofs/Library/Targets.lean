import Gallery.Proofs.Library.Search
import Gallery.Proofs.Library.Definitions
import Gallery.Proofs.Library.Relations
import Gallery.Proofs.Query.Agreement
import Gallery.Proofs.Query.Emission
import Gallery.Proofs.Query.WrittenForm
import Gallery.Proofs.Sql.Tables

/-!
The tags that references stand for. A definition is a text, and what it means depends on the tags
that its references stand for, also inside the definitions of these; while they all stand for the
same tags, the tag with the definition is compiled to the same query (`compile_kept`).
-/

namespace Gallery

namespace Query

/-! The standard conditions read the tables of the pictures and of their tags only. -/

/-- The expression reads no other tables than these two. -/
def ReadsPictures (expression : Sql.Expression) : Prop :=
  ∀ table ∈ expression.tables, table = "pictures" ∨ table = "picture_tag"

theorem reads_standard (caseDefault : Bool) (name : String) (argument : Option Argument)
    (expression : Sql.Expression)
    (standard : standardExpression? caseDefault name argument = some expression) :
    ReadsPictures expression := by
  unfold standardExpression? at standard
  split at standard <;> cases standard <;>
    simp [ReadsPictures, matchExpression, partExpression, pathExpression, similarExpression,
      noFileExpression, noTagsExpression, equalExpression, Sql.Expression.tables,
      Sql.Expression.tablesOf]

theorem reads_carries (tag : Int) : ReadsPictures (carriesExpression tag) := by
  have number : (numberExpression tag).tables = [] := by
    rw [numberExpression]
    split <;> rfl
  simp [ReadsPictures, carriesExpression, equalExpression, Sql.Expression.tables, number]

theorem reads_junction (a b c : Sql.Expression) (first : ReadsPictures a) (second : ReadsPictures b)
    (joined : c.tables = a.tables ++ b.tables) : ReadsPictures c := by
  intro table member
  rw [joined] at member
  rcases List.mem_append.mp member with inLeft | inRight
  · exact first table inLeft
  · exact second table inRight

theorem reads_condition (lookup : TagLookup) (caseDefault : Bool) (expr : Expr)
    (condition : Condition) (expression : Sql.Expression)
    (selects : Selects lookup caseDefault expr condition expression) :
    ReadsPictures expression := by
  induction selects with
  | never label symbol => simp [ReadsPictures, equalExpression, Sql.Expression.tables]
  | carries label symbol tag => exact reads_carries tag
  | flag name template expression _ standard =>
      exact reads_standard caseDefault name none expression standard
  | pattern name template argument expression _ standard =>
      exact reads_standard caseDefault name (some argument) expression standard
  | and left right first second a b _ _ ihLeft ihRight
  | or left right first second a b _ _ ihLeft ihRight =>
      exact reads_junction a b _ ihLeft ihRight (by rw [Sql.Expression.tables])
  | not operand inner a _ ih => simpa [ReadsPictures, Sql.Expression.tables] using ih

end Query

/-- The definition of the tag can be read and has the reference. -/
def Tag.HasReference (tag : Tag) (label : String) (symbol : Option Char) : Prop :=
  ∃ definition body, tag.definition = some definition ∧ Query.parse definition = .ok body ∧
    (label, symbol) ∈ body.references

theorem Tag.HasReference.mentions {tag : Tag} {label : String} {symbol : Option Char}
    (reference : tag.HasReference label symbol) : tag.Mentions label := by
  rcases reference with ⟨definition, body, defined, parsed, member⟩
  exact ⟨definition, body, defined, parsed, symbol, member⟩

namespace Library

/-! What references stand for. -/

/-- The tag that a reference stands for: the one with the label, if it has the type with the symbol
when there is one. -/
def target? (library : Library) (label : String) (symbol : Option Char) : Option Tag :=
  (library.tag? label).filter fun tag => library.Typed tag symbol

theorem target_eq_some (library : Library) (label : String) (symbol : Option Char) (tag : Tag) :
    library.target? label symbol = some tag ↔
      library.tag? label = some tag ∧ library.Typed tag symbol := by
  simp [target?, Option.filter_eq_some_iff]

section Catalogued

variable (library : Library) (keyed : library.Keyed) (catalogue : Catalogue)
  (read : library.catalogue = .ok catalogue)

include keyed read

theorem replacement_target (label : String) (symbol : Option Char) :
    catalogue.definitions.replacement? label symbol =
      (library.target? label symbol).bind (·.definition) := by
  apply Option.ext
  intro definition
  rw [replacement_iff library keyed catalogue read label symbol definition]
  simp only [Option.bind_eq_some_iff, target_eq_some, and_assoc]

theorem replacement_stored (tag : Tag) (definition : String) (stored : tag ∈ library.tags)
    (defined : tag.definition = some definition) :
    catalogue.definitions.replacement? tag.label none = some definition := by
  have found := tag_of_mem library keyed tag stored
  exact (replacement_iff library keyed catalogue read tag.label none definition).mpr
    ⟨tag, found, by simp [Typed], defined⟩

theorem reference_target (label : String) (symbol : Option Char) :
    Query.Condition.ofReference catalogue.lookup label symbol =
      match library.target? label symbol with
      | none => .never
      | some tag => .carries tag.id := by
  rw [reference_exact library keyed catalogue read label symbol, target?]
  cases library.tag? label with
  | none => rfl
  | some tag =>
      by_cases typed : library.Typed tag symbol
      · simp [typed, Option.filter]
      · simp [typed, Option.filter]

end Catalogued

/-- `Leads library tag label symbol`: the reference stands in the definition of the tag, or in that
of a tag to which it leads. -/
inductive Leads (library : Library) (tag : Tag) : String → Option Char → Prop where
  | own (label : String) (symbol : Option Char) (mentioned : tag.HasReference label symbol) :
      Leads library tag label symbol
  | nested (label : String) (symbol : Option Char) (target : Tag) (inner : String)
      (innerSymbol : Option Char) (leads : Leads library tag label symbol)
      (found : library.target? label symbol = some target)
      (mentioned : target.HasReference inner innerSymbol) :
      Leads library tag inner innerSymbol

/-- What one label finds in a library, another finds in the next: it is compiled to the same query
or refused in the same way, and a search gives the same pictures or the same error. -/
structure FindsSame (library next : Library) (label other : String) : Prop where
  compiles : ∀ registry settings,
    next.compile other registry settings = library.compile label registry settings
  searches : ∀ platform settings,
    next.search platform other .standard settings = library.search platform label .standard settings

/-! Libraries with the same pictures and attachments. -/

section Pictures

variable (library next : Library) (platform : Platform) (pictures : next.pictures = library.pictures)
  (attachments : next.attachments = library.attachments) (keyed : library.Keyed)
  (keyedNext : next.Keyed)

include pictures attachments

theorem picturesWhere_kept (expression : Sql.Expression) (reads : Query.ReadsPictures expression) :
    next.picturesWhere platform expression = library.picturesWhere platform expression := by
  have agree : (next.world platform).AgreeOn (library.world platform) expression.tables := by
    refine ⟨rfl, rfl, ?_⟩
    intro table member
    rcases reads table member with rfl | rfl
    · simp [world, table?, pictures]
    · simp [world, table?, attachments]
  rw [picturesWhere, picturesWhere, pictures]
  simp only [Sql.evaluate_congr _ _ expression agree]

include keyed keyedNext

theorem run_kept (text other : String) (settings : CompilerSettings) (query : Query.Compiled)
    (compiled : library.compile text .standard settings = .ok query)
    (nextCompiled : next.compile other .standard settings = .ok query) :
    next.run platform query = library.run platform query := by
  rcases compile_ok library text _ settings query compiled with
    ⟨catalogue, _, read, _, _, _, ⟨_, nothing⟩ | ⟨condition, something, built⟩⟩
  · simp only [run, nothing]
  · rcases compile_ok next other _ settings query nextCompiled with
      ⟨nextCatalogue, _, nextRead, _, _, _, ⟨_, nothing⟩ | ⟨_, nextSome, nextBuilt⟩⟩
    · rw [nothing] at something
      cases something
    · rw [something, Option.some.injEq] at nextSome
      cases nextSome
      rcases Query.selects_of_ofExpr catalogue.lookup settings.caseSensitive query.expanded condition
        built with ⟨expression, stands, selects⟩
      rcases Query.selects_of_ofExpr nextCatalogue.lookup settings.caseSensitive query.expanded
        condition nextBuilt with ⟨_, nextStands, nextSelects⟩
      rw [stands, Option.some.injEq] at nextStands
      cases nextStands
      have resolved := resolved_condition library platform settings.caseSensitive keyed catalogue read
        query.expanded condition expression selects
      have nextResolved := resolved_condition next platform settings.caseSensitive keyedNext
        nextCatalogue nextRead query.expanded condition expression nextSelects
      have reads := Query.reads_condition catalogue.lookup settings.caseSensitive query.expanded
        condition expression selects
      simp only [run, something]
      cases within : condition.limit? with
      | some limit =>
          rw [picturesMatching_beyond next platform condition limit within,
            picturesMatching_beyond library platform condition limit within]
      | none =>
          rw [picturesMatching_resolved next platform condition expression stands nextResolved within,
            picturesMatching_resolved library platform condition expression stands resolved within,
            picturesWhere_kept library next platform pictures attachments expression reads]

theorem findsSame_of_compiles (label other : String)
    (compiles : ∀ registry settings,
      next.compile other registry settings = library.compile label registry settings) :
    FindsSame library next label other := by
  refine ⟨compiles, ?_⟩
  intro platform settings
  have same := compiles .standard settings
  rw [search, search, same]
  cases compiled : library.compile label .standard settings with
  | error failure => simp only [bind, Except.bind]
  | ok query =>
      simp only [bind, Except.bind]
      rw [run_kept library next platform pictures attachments keyed keyedNext label other settings
        query compiled (same.trans compiled)]

end Pictures

theorem agrees_of_targets (library next : Library) (keyed : library.Keyed) (keyedNext : next.Keyed)
    (catalogue nextCatalogue : Catalogue) (read : library.catalogue = .ok catalogue)
    (nextRead : next.catalogue = .ok nextCatalogue) (tag : Tag)
    (targets : ∀ label symbol, library.Leads tag label symbol →
      next.target? label symbol = library.target? label symbol) :
    Query.AgreesOn catalogue.definitions nextCatalogue.definitions (library.Leads tag) := by
  constructor
  · intro label symbol leads
    rw [replacement_target next keyedNext nextCatalogue nextRead, targets label symbol leads,
      replacement_target library keyed catalogue read]
  · intro label symbol definition body leads defined parsed other otherSymbol mentioned
    rw [replacement_target library keyed catalogue read, Option.bind_eq_some_iff] at defined
    rcases defined with ⟨target, found, defined⟩
    exact .nested label symbol target other otherSymbol leads found
      ⟨definition, body, defined, parsed, mentioned⟩

/-- A compound tag is compiled to the same when the references to which it leads stand for the same
tags. Its own label may be another, unless one of the references has the label. -/
theorem compile_kept (library next : Library) (reachable : Reachable library)
    (reachableNext : Reachable next) (tag later : Tag) (stored : tag ∈ library.tags)
    (storedNext : later ∈ next.tags) (compound : tag.definition ≠ none)
    (same : later.definition = tag.definition)
    (targets : ∀ label symbol, library.Leads tag label symbol →
      next.target? label symbol = library.target? label symbol)
    (labels : ∀ label symbol, library.Leads tag label symbol →
      library.target? label symbol ≠ none → (label = tag.label ↔ label = later.label))
    (registry : Query.Registry) (settings : CompilerSettings) :
    next.compile later.label registry settings = library.compile tag.label registry settings := by
  have keyed := keyed_of_reachable library reachable
  have keyedNext := keyed_of_reachable next reachableNext
  have valid := valid_of_reachable library reachable tag stored
  have validNext := valid_of_reachable next reachableNext later storedNext
  rcases catalogue_read library keyed (related_of_reachable library reachable) with
    ⟨catalogue, read, _⟩
  rcases catalogue_read next keyedNext (related_of_reachable next reachableNext) with
    ⟨nextCatalogue, nextRead, _⟩
  rcases Option.ne_none_iff_exists'.mp compound with ⟨definition, defined⟩
  rcases valid.readable tag definition defined with ⟨body, parsed, _⟩
  have replaced := replacement_stored library keyed catalogue read tag definition stored defined
  have nextReplaced := replacement_stored next keyedNext nextCatalogue nextRead later definition
    storedNext (same.trans defined)
  have agrees := agrees_of_targets library next keyed keyedNext catalogue nextCatalogue read
    nextRead tag targets
  have within (label : String) (symbol : Option Char) (member : (label, symbol) ∈ body.references) :
      library.Leads tag label symbol :=
    .own label symbol ⟨definition, body, defined, parsed, member⟩
  have expansion := agrees.expand_compound settings.maxNodes tag.label later.label definition body
    replaced nextReplaced parsed within fun label symbol leads expandable =>
      labels label symbol leads fun absent => expandable (by
        rw [replacement_target library keyed catalogue read, absent]
        rfl)
  have compiled := Query.compileExpr_congr (.tag tag.label none) (.tag later.label none) catalogue
    nextCatalogue registry settings expansion fun result expanded label symbol member => by
      have expands := Query.expand_expands _ _ _ _ expanded
      have leads := agrees.references_of_compound tag.label definition body result replaced parsed
        within expands label symbol member
      rw [reference_target next keyedNext nextCatalogue nextRead, targets label symbol leads,
        reference_target library keyed catalogue read]
  simp only [compile, read, nextRead, Query.compile, Query.parse_label tag.label valid.named,
    Query.parse_label later.label validNext.named, compiled]

end Library

end Gallery
