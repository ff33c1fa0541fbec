import Gallery.Proofs.Library.Leaves
import Gallery.Proofs.Pattern.WholeMatch
import Gallery.Proofs.Platform
import Gallery.Proofs.Query.Precedence

/-!
What a search finds. Its condition settles for every picture row the value of the expanded query, so
that the rows kept are the pictures of which the query holds.
-/

namespace Gallery.Library

/-- Every pattern that the conditions of an expression hand to `REGEX` is accepted. -/
def PatternsRead (engine : Pattern.Engine) (caseDefault : Bool) : Query.Expr → Prop
  | .tag _ _ => True
  | .pseudo name argument =>
      ∀ given ∈ argument, name ∈ ["ext", "name", "path"] →
        (Pattern.compile engine given.pattern
          (Query.Condition.flagsOf caseDefault given)).isOk = true
  | .and left right | .or left right =>
      PatternsRead engine caseDefault left ∧ PatternsRead engine caseDefault right
  | .not operand => PatternsRead engine caseDefault operand

section Settled

variable (library : Library) (platform : Platform) (caseDefault : Bool)

theorem settles_match (picture : Picture) (expression : Sql.Expression) (text : String)
    (argument : Query.Argument) (safe : Prop)
    (read : safe → (Pattern.compile platform.engine argument.pattern
      (Query.Condition.flagsOf caseDefault argument)).isOk = true)
    (evaluated : expression.evaluate (library.world platform) (pictureScope picture) =
      .ok (.text text)) :
    Sql.Settles (library.world platform) (pictureScope picture)
      (Query.matchExpression expression argument.pattern
        (Query.Condition.flagsOf caseDefault argument))
      (fullyMatches platform.engine caseDefault argument text) safe := by
  have matched : (Query.matchExpression expression argument.pattern
      (Query.Condition.flagsOf caseDefault argument)).evaluate (library.world platform)
        (pictureScope picture) = ((Pattern.matchesWhole platform.engine text argument.pattern
      (Query.Condition.flagsOf caseDefault argument)).map Sql.truth).mapError .invalidPattern :=
    evaluate_match picture (library.world platform) expression text argument.pattern _ evaluated
  rw [Pattern.matchesWhole] at matched
  rw [fullyMatches, Pattern.matchesWhole]
  cases compiled : Pattern.compile platform.engine argument.pattern
      (Query.Condition.flagsOf caseDefault argument) with
  | ok node =>
      rw [compiled] at matched
      exact Sql.settles_truth _ _ _ _ _ matched
  | error error =>
      rw [compiled] at matched read
      constructor
      · intro found done
        rw [matched] at done
        cases done
      · intro fine
        cases read fine

theorem settles_standard (picture : Picture) (short : FitsMemory picture.path)
    (name : String) (argument : Option Query.Argument) (expression : Sql.Expression)
    (standard : Query.standardExpression? caseDefault name argument = some expression) :
    Sql.Settles (library.world platform) (pictureScope picture) expression
      (library.leafTruth platform caseDefault partBeforeNul picture (.pseudo name argument))
      (PatternsRead platform.engine caseDefault (.pseudo name argument)) := by
  have path := evaluate_path picture (library.world platform)
  unfold Query.standardExpression? at standard
  split at standard <;> cases standard
  · next argument =>
      exact settles_match library platform caseDefault picture _ _ argument _
        (fun fine => fine argument rfl (by simp)) (evaluate_part picture _ '.' short)
  · next argument =>
      exact settles_match library platform caseDefault picture _ _ argument _
        (fun fine => fine argument rfl (by simp)) (evaluate_part picture _ '/' short)
  · next argument =>
      exact settles_match library platform caseDefault picture _ _ argument _
        (fun fine => fine argument rfl (by simp)) path
  · next argument =>
      exact Sql.settles_truth _ _ _ _ _ (evaluate_similar library platform picture argument.pattern)
  · exact Sql.settles_truth _ _ _ _ _ (evaluate_noFile library platform picture)
  · exact Sql.settles_truth _ _ _ _ _ (evaluate_noTags library platform picture)

variable (keyed : library.Keyed) (catalogue : Catalogue)
  (read : library.catalogue = .ok catalogue)

include keyed read

theorem reference_exact (label : String) (symbol : Option Char) :
    Query.Condition.ofReference catalogue.lookup label symbol =
      match library.tag? label with
      | none => .never
      | some tag => if library.Typed tag symbol then .carries tag.id else .never := by
  have stored := catalogue_tag library keyed catalogue read label
  simp only [Query.Condition.ofReference, Catalogue.lookup, stored]
  cases library.tag? label with
  | none => rfl
  | some tag =>
      cases symbol with
      | none => simp [Typed]
      | some c =>
          simp only [Option.map_some, typed_iff library keyed catalogue read tag c]
          cases catalogue.tagType? c with
          | none => simp
          | some tagType => simp

theorem settles_reference (label : String) (symbol : Option Char) (expression : Sql.Expression)
    (stands : (Query.Condition.ofReference catalogue.lookup label symbol).expression? =
      some expression) :
    expression.isResolved (library.world platform) conditionScope = true ∧
      ∀ picture, Sql.Settles (library.world platform) (pictureScope picture) expression
        (library.leafTruth platform caseDefault partBeforeNul picture (.tag label symbol)) True := by
  have never (other : Sql.Expression)
      (stands : Query.Condition.never.expression? = some other) :
      other.isResolved (library.world platform) conditionScope = true ∧ ∀ picture,
        Sql.Settles (library.world platform) (pictureScope picture) other false True := by
    cases stands
    exact ⟨rfl, fun _ => Sql.settles_truth _ _ _ _ _ rfl⟩
  rw [reference_exact library keyed catalogue read label symbol] at stands
  simp only [leafTruth]
  cases found : library.tag? label with
  | none =>
      rw [found] at stands
      exact never expression stands
  | some tag =>
      simp only [found] at stands
      by_cases typed : library.Typed tag symbol
      · -- A positive number is written without a sign and read as it stands.
        have positive := keyed.tags.positive tag (mem_of_tag library label tag found)
        rw [if_pos typed] at stands
        cases stands
        refine ⟨resolved_carries library platform tag.id, fun picture => ?_⟩
        have carries := evaluate_carries library platform picture tag.id positive
        exact Sql.settles_truth _ _ _ _ _ (by simpa [typed] using carries)
      · rw [if_neg typed] at stands
        simpa [typed] using never expression stands

variable (expr : Query.Expr) (condition : Query.Condition) (expression : Sql.Expression)
  (selects : Query.Selects catalogue.lookup caseDefault expr condition expression)

include selects

theorem resolved_condition :
    expression.isResolved (library.world platform) conditionScope = true := by
  have referred := settles_reference library platform caseDefault keyed catalogue read
  induction selects with
  | never label symbol known => exact (referred label symbol _ (by rw [known]; rfl)).1
  | carries label symbol tag known => exact (referred label symbol _ (by rw [known]; rfl)).1
  | flag name template expression _ standard | pattern name template _ expression _ standard =>
      exact resolved_standard library platform _ _ _ _ standard
  | and left right first second a b _ _ ihLeft ihRight
  | or left right first second a b _ _ ihLeft ihRight =>
      rw [Sql.Expression.isResolved, ihLeft, ihRight]
      rfl
  | not operand inner a _ ih => rw [Sql.Expression.isResolved, ih]

theorem settles_condition (picture : Picture) (short : FitsMemory picture.path) :
    Sql.Settles (library.world platform) (pictureScope picture) expression
      (expr.eval (library.leafTruth platform caseDefault partBeforeNul picture))
      (PatternsRead platform.engine caseDefault expr) := by
  have referred := settles_reference library platform caseDefault keyed catalogue read
  induction selects with
  | never label symbol known => exact (referred label symbol _ (by rw [known]; rfl)).2 picture
  | carries label symbol tag known => exact (referred label symbol _ (by rw [known]; rfl)).2 picture
  | flag name template expression _ standard | pattern name template _ expression _ standard =>
      exact settles_standard library platform _ picture short _ _ _ standard
  | and left right first second a b _ _ ihLeft ihRight =>
      exact Sql.settles_and _ _ _ _ _ _ _ _ ihLeft ihRight
  | or left right first second a b _ _ ihLeft ihRight =>
      exact Sql.settles_or _ _ _ _ _ _ _ _ ihLeft ihRight
  | not operand inner a _ ih => exact Sql.settles_not _ _ _ _ _ ih

end Settled

/-! Searches with conditions. -/

section Matching

variable (library : Library) (platform : Platform)

/-- What a condition finds within the limits, once the names in its expression stand for
something. -/
theorem picturesMatching_resolved (condition : Query.Condition) (expression : Sql.Expression)
    (stands : condition.expression? = some expression)
    (resolved : expression.isResolved (library.world platform) conditionScope = true)
    (within : condition.limit? = none) :
    library.picturesMatching platform condition =
      (library.picturesWhere platform expression).mapError fun error =>
        .failed .queryPictures condition.statement (.function error.message) := by
  rw [conditionScope] at resolved
  rw [Query.Condition.limit?, stands, Option.bind_some] at within
  simp only [picturesMatching, prepare, stands, within, resolved, ↓reduceIte]
  cases library.picturesWhere platform expression <;> rfl

theorem picturesMatching_beyond (condition : Query.Condition) (limit : Sql.Limit)
    (beyond : condition.limit? = some limit) : library.picturesMatching platform condition =
      .error (.failed .queryPictures condition.statement (.beyond limit)) := by
  obtain ⟨expression, stands, exceeded⟩ := Option.bind_eq_some_iff.mp beyond
  simp only [picturesMatching, prepare, stands, exceeded]

variable (caseDefault : Bool) (keyed : library.Keyed) (catalogue : Catalogue)
  (read : library.catalogue = .ok catalogue)
  (short : ∀ picture ∈ library.pictures, FitsMemory picture.path) (expr : Query.Expr)

include keyed read short

-- Once every row has a value, the filter goes by the values of the expression.
theorem picturesWhere_exact (condition : Query.Condition) (expression : Sql.Expression)
    (selects : Query.Selects catalogue.lookup caseDefault expr condition expression)
    (known : ∀ picture ∈ library.pictures, ∃ value, expression.evaluate
      (library.world platform) (pictureScope picture) = .ok value) :
    library.picturesWhere platform expression = .ok (library.pictures.filter fun picture =>
      expr.eval (library.leafTruth platform caseDefault partBeforeNul picture)) := by
  have filtered := filterM_ok (fun picture : Picture => do
      let value ← expression.evaluate (library.world platform) (pictureScope picture)
      return value.truth? == some true) id
    (fun picture => expr.eval (library.leafTruth platform caseDefault partBeforeNul picture))
    library.pictures fun picture member => by
      rcases known picture member with ⟨value, evaluated⟩
      have gives := (settles_condition library platform caseDefault keyed catalogue read expr
        condition expression selects picture (short picture member)).gives value evaluated
      simp [bind, Except.bind, pure, Except.pure, evaluated, gives]
  simpa [picturesWhere] using filtered

/-- A search with a condition keeps the pictures on which the expression is true. -/
theorem matching_exact (condition : Query.Condition)
    (built : Query.Condition.ofExpr catalogue.lookup .standard caseDefault expr = .ok condition) :
    (condition.limit? = none → PatternsRead platform.engine caseDefault expr →
      ∃ found, library.picturesMatching platform condition = .ok found) ∧
      ∀ found, library.picturesMatching platform condition = .ok found →
        found = library.pictures.filter fun picture =>
          expr.eval (library.leafTruth platform caseDefault partBeforeNul picture) := by
  rcases Query.selects_of_ofExpr catalogue.lookup caseDefault expr condition built with
    ⟨expression, stands, selects⟩
  have resolved := resolved_condition library platform caseDefault keyed catalogue read expr
    condition expression selects
  have searched := picturesMatching_resolved library platform condition expression stands resolved
  have kept := picturesWhere_exact library platform caseDefault keyed catalogue read short expr
    condition expression selects
  constructor
  · intro within fine
    rw [searched within, kept fun picture member =>
      (settles_condition library platform caseDefault keyed catalogue read expr condition expression
        selects picture (short picture member)).answers fine]
    exact ⟨_, rfl⟩
  · intro found done
    have within : condition.limit? = none := by
      cases beyond : condition.limit? with
      | none => rfl
      | some limit =>
          rw [picturesMatching_beyond library platform condition limit beyond] at done
          cases done
    rw [searched within] at done
    cases same : library.picturesWhere platform expression with
    | error error =>
        rw [same] at done
        cases done
    | ok pictures =>
        have known := ok_of_filterM _ _ _ same
        rw [kept fun picture member => ?_] at done
        · cases done
          rfl
        · rcases known picture member with ⟨verdict, tested⟩
          rcases (bind_ok_iff _ _ _).mp tested with ⟨value, evaluated, _⟩
          exact ⟨value, evaluated⟩

end Matching

theorem compile_ok (library : Library) (text : String) (registry : Query.Registry)
    (settings : CompilerSettings) (query : Query.Compiled)
    (done : library.compile text registry settings = .ok query) :
    ∃ catalogue expr, library.catalogue = .ok catalogue ∧ Query.parse text = .ok expr ∧
      Query.Expands catalogue.definitions expr query.expanded ∧
      registry.validate query.expanded = .ok () ∧
      (Query.isUnsatisfiable query.expanded = true ∧ query.condition = none ∨
        ∃ condition, query.condition = some condition ∧ Query.Condition.ofExpr catalogue.lookup
          registry settings.caseSensitive query.expanded = .ok condition) := by
  rw [compile] at done
  split at done
  · cases done
  · next catalogue read =>
      split at done
      · cases done
      · next result compiled =>
          cases done
          rcases Query.compile_ok text catalogue registry settings query compiled with
            ⟨expr, parsed, expanded, valid, built⟩
          have expands := Query.expand_expands _ _ _ _ expanded
          exact ⟨catalogue, expr, read, parsed, expands, valid, built⟩

theorem run_exact (library : Library) (platform : Platform) (text : String)
    (settings : CompilerSettings) (query : Query.Compiled) (keyed : library.Keyed)
    (short : ∀ picture ∈ library.pictures, FitsMemory picture.path)
    (compiled : library.compile text .standard settings = .ok query) :
    ((∀ condition ∈ query.condition, condition.limit? = none ∧
        PatternsRead platform.engine settings.caseSensitive query.expanded) →
      ∃ found, library.run platform query = .ok found) ∧
      ∀ found, library.run platform query = .ok found →
        found = library.pictures.filter fun picture =>
          query.expanded.eval
            (library.leafTruth platform settings.caseSensitive partBeforeNul picture) := by
  rcases compile_ok library text _ settings query compiled with
    ⟨catalogue, _, read, _, _, _, ⟨pruned, nothing⟩ | ⟨condition, something, built⟩⟩
  · -- Without a condition nothing is evaluated: the query is false whatever its leaves are.
    have never := Query.false_of_isUnsatisfiable query.expanded pruned
    rw [run, nothing]
    refine ⟨fun _ => ⟨_, rfl⟩, fun found done => ?_⟩
    cases done
    simp [never]
  · rw [run, something]
    rcases matching_exact library platform settings.caseSensitive keyed catalogue read short
      query.expanded condition built with ⟨answers, exact⟩
    exact ⟨fun fine => answers (fine condition rfl).1 (fine condition rfl).2, exact⟩

theorem means_iff (library : Library) (platform : Platform) (text : String)
    (settings : CompilerSettings) (query : Query.Compiled) (keyed : library.Keyed)
    (compiled : library.compile text .standard settings = .ok query) :
    ∃ expr, Query.parse text = .ok expr ∧ ∀ part picture value,
      library.Means platform settings.caseSensitive part picture expr value ↔
        value = query.expanded.eval
          (library.leafTruth platform settings.caseSensitive part picture) := by
  rcases compile_ok library text _ settings query compiled with
    ⟨catalogue, expr, read, parsed, expands, valid, _⟩
  refine ⟨expr, parsed, fun part picture value => ?_⟩
  have means := means_of_expands library platform settings.caseSensitive part picture keyed catalogue
    read expr query.expanded expands valid
  constructor
  · intro other
    exact means_unique library platform settings.caseSensitive part picture expr _ _ other means
  · rintro rfl
    exact means

/-- Only the parts of the path of the picture matter. -/
theorem leafTruth_congr (library : Library) (platform : Platform) (caseDefault : Bool)
    (part other : Char → String → String) (picture : Picture)
    (same : ∀ separator ∈ ['.', '/'], part separator picture.path = other separator picture.path) :
    library.leafTruth platform caseDefault part picture =
      library.leafTruth platform caseDefault other picture := by
  have extension := same '.' (by simp)
  have name := same '/' (by simp)
  funext atom
  cases atom with
  | tag label symbol => rfl
  | pseudo tag argument => simp only [leafTruth, pseudoValue?, extension, name]

/-! Statements -/

theorem storable_of_built (library : Library) (keyed : library.Keyed) (catalogue : Catalogue)
    (read : library.catalogue = .ok catalogue) (caseDefault : Bool)
    (storable : ∀ tag ∈ library.tags, tag.id ≤ 0x7FFFFFFFFFFFFFFF) (expr : Query.Expr)
    (condition : Query.Condition)
    (built : Query.Condition.Built catalogue.lookup .standard caseDefault expr condition) :
    condition.Storable := by
  have carries (label : String) (symbol : Option Char) (id : Int)
      (known : Query.Condition.ofReference catalogue.lookup label symbol = .carries id) :
      (Query.Condition.carries id).Storable := by
    rw [reference_exact library keyed catalogue read label symbol] at known
    split at known
    · cases known
    · next tag found =>
        split at known
        · cases known
          have stored := mem_of_tag library label tag found
          have positive := keyed.tags.positive tag stored
          have small := storable tag stored
          rw [Query.Condition.Storable, Query.Storable]
          omega
        · cases known
  induction built with
  | reference label symbol =>
      rcases Query.ofReference_cases catalogue.lookup label symbol with never | ⟨tag, known⟩
      · rw [never]
        trivial
      · rw [known]
        exact carries label symbol tag known
  | flag | pattern => trivial
  | and _ _ _ _ _ _ ihLeft ihRight | or _ _ _ _ _ _ ihLeft ihRight => exact ⟨ihLeft, ihRight⟩
  | not _ _ _ ih => exact ih

/-- What there is to say of a statement without running it: that its text and its parameters are
read as what is evaluated, when the identities of the tags can be stored, that it is within the
limits when the query has few nodes, and that beyond them it fails. -/
structure Accepts (library : Library) (platform : Platform) (query : Query.Compiled)
    (condition : Query.Condition) : Prop where
  reads : (∀ tag ∈ library.tags, tag.id ≤ 0x7FFFFFFFFFFFFFFF) →
    Sql.Expression.read condition.text.toList condition.parameters = condition.expression?
  small : query.expanded.nodeCount ≤ 991 → condition.limit? = none
  large : ∀ limit, condition.limit? = some limit → library.run platform query =
    .error (.failed .queryPictures condition.statement (.beyond limit))

theorem accepts_of_compiled (library : Library) (platform : Platform) (keyed : library.Keyed)
    (text : String) (settings : CompilerSettings) (query : Query.Compiled)
    (compiled : library.compile text .standard settings = .ok query) :
    ∀ condition ∈ query.condition, library.Accepts platform query condition := by
  intro condition known
  rcases compile_ok library text _ settings query compiled with
    ⟨catalogue, _, read, _, _, _, ⟨_, nothing⟩ | ⟨other, something, built⟩⟩
  · rw [nothing] at known
    cases known
  · cases something.symm.trans known
    refine ⟨fun storable => ?_, ?_, fun limit beyond => ?_⟩
    · exact Query.read_text catalogue.lookup _ _ condition built
        (storable_of_built library keyed catalogue read _ storable _ condition
          (Query.built_of_ofExpr _ _ _ _ _ built))
    · exact Query.limit_of_few_nodes catalogue.lookup _ _ condition built
    · rw [run, something]
      exact picturesMatching_beyond library platform condition limit beyond

theorem flags_ignoreCase (caseDefault : Bool) (argument : Query.Argument) :
    (Query.Condition.flagsOf caseDefault argument).toList.contains 'i' =
      !argument.caseSensitive.getD caseDefault := by
  rw [Query.Condition.flagsOf]
  cases argument.caseSensitive.getD caseDefault <;> decide

/-- The pattern is accepted alone, in a group and between the ends of the text. -/
def Accepted (engine : Pattern.Engine) (caseDefault : Bool) (argument : Query.Argument) : Prop :=
  ∀ pattern ∈ [argument.pattern, Pattern.grouped argument.pattern,
    Pattern.anchored argument.pattern],
      engine.Accepts pattern (!argument.caseSensitive.getD caseDefault)

/-- What fully matches a text matches it from the start to the end. -/
theorem fullyMatches_iff (engine : Pattern.Engine) (stretches : Pattern.Stretches)
    (documented : engine.Documented stretches) (caseDefault : Bool) (argument : Query.Argument)
    (accepted : Accepted engine caseDefault argument) (text : String) :
    fullyMatches engine caseDefault argument text = true ↔
      stretches argument.pattern (!argument.caseSensitive.getD caseDefault) text 0 text.length := by
  have alone := accepted argument.pattern (by simp)
  have closed := accepted (Pattern.grouped argument.pattern) (by simp)
  have spliced := accepted (Pattern.anchored argument.pattern) (by simp)
  rw [← flags_ignoreCase] at alone closed spliced ⊢
  obtain ⟨matched, done, exact⟩ := Pattern.matchesWhole_of_accepted engine stretches documented text
    argument.pattern _ alone closed spliced
  rw [fullyMatches, done]
  exact exact

/-- A compiled query finds, each once and in the order of their identities, the stored pictures of
which it holds, where a path ends for the part after its last separator before its first NUL
character. On a picture whose path has none, it holds as the query says. A pattern fully matches as
the engine is documented to match. The search fails only when a pattern is refused, or when the
statement exceeds a limit, which takes more than 991 nodes. -/
theorem search_exact (library : Library) (platform : Platform) (text : String)
    (settings : CompilerSettings) (query : Query.Compiled) (reachable : Reachable library)
    (short : ∀ picture ∈ library.pictures, FitsMemory picture.path)
    (compiled : library.compile text .standard settings = .ok query) :
    ∃ expr, Query.parse text = .ok expr ∧
      (∀ condition ∈ query.condition, library.Accepts platform query condition) ∧
      ((∀ condition ∈ query.condition, condition.limit? = none ∧
          PatternsRead platform.engine settings.caseSensitive query.expanded) →
        ∃ found, library.run platform query = .ok found) ∧
      (∀ stretches, platform.engine.Documented stretches →
        ∀ argument, Accepted platform.engine settings.caseSensitive argument → ∀ text,
          (fullyMatches platform.engine settings.caseSensitive argument text = true ↔
            stretches argument.pattern (!argument.caseSensitive.getD settings.caseSensitive) text 0
              text.length)) ∧
      ∀ found, library.run platform query = .ok found →
        found.Pairwise (fun a b => a.id < b.id) ∧ (∀ picture ∈ found, picture ∈ library.pictures) ∧
        ∀ picture ∈ library.pictures, ∀ value,
          (library.Means platform settings.caseSensitive partBeforeNul picture expr value ↔
            value = decide (picture ∈ found)) ∧
          ('\x00' ∉ picture.path.toList →
            (library.Means platform settings.caseSensitive partAfter picture expr value ↔
              value = decide (picture ∈ found))) := by
  have keyed := keyed_of_reachable library reachable
  rcases means_iff library platform text settings query keyed compiled with ⟨expr, parsed, means⟩
  rcases run_exact library platform text settings query keyed short compiled with ⟨answers, exact⟩
  refine ⟨expr, parsed, accepts_of_compiled library platform keyed text settings query compiled,
    answers, fun stretches documented argument accepted text => ?_, fun found done => ?_⟩
  · exact fullyMatches_iff platform.engine stretches documented _ argument accepted text
  cases exact found done
  refine ⟨keyed.pictures.ordered.filter _, fun picture member => (List.mem_filter.mp member).1,
    fun picture stored value => ?_⟩
  have kept : decide (picture ∈ library.pictures.filter fun picture => query.expanded.eval
      (library.leafTruth platform settings.caseSensitive partBeforeNul picture)) =
      query.expanded.eval
        (library.leafTruth platform settings.caseSensitive partBeforeNul picture) := by
    simp [stored]
  rw [kept]
  refine ⟨means _ _ _, fun whole => ?_⟩
  -- In a path without a NUL the two parts are the same, and nothing else differs.
  rw [leafTruth_congr library platform settings.caseSensitive partBeforeNul partAfter picture
    ((parts_whole_iff picture.path).mpr whole)]
  exact means _ _ _

/-- Two pictures, each under a tag, and a compound tag for both tags. -/
def album : Library :=
  [Operation.insertTagType "people" '@' 0, .insertTag "ann" (some 1) none,
    .insertTag "cat" none none, .insertTag "pets" none (some "cat OR @ann"),
    .insertPicture "a/cat.png" none, .insertPicture "b/ann.gif" none, .attachTag 1 "cat",
    .attachTag 2 "ann"].foldl after empty

/-- What `pets AND NOT #ext:gif` compiles to in the album. -/
def pets : Query.Compiled :=
  ⟨.and (.or (.tag "cat" none) (.tag "ann" (some '@'))) (.not (.pseudo "ext" (some ⟨"gif", none⟩))),
    some (.and (.or (.carries 2) (.carries 1)) (.not (.pattern
      "\"REGEX\"(SUBSTR(p.path, \"RINSTR\"(p.path, '.') + 1), \x7bpattern\x7d, \x7bflags\x7d)"
      "gif" "s")))⟩

theorem search_exact_album : ∃ expr found, Query.parse "pets AND NOT #ext:gif" = .ok expr ∧
    album.run (.bare []) pets = .ok found ∧ found.Pairwise (fun a b => a.id < b.id) ∧
    ∀ picture ∈ album.pictures, ∀ value,
      album.Means (.bare []) true partAfter picture expr value ↔
        value = decide (picture ∈ found) := by
  have read : PatternsRead Pattern.Sample.engine true pets.expanded := by
    refine ⟨⟨trivial, trivial⟩, fun given member _ => ?_⟩
    cases member
    rfl
  rcases search_exact album (.bare []) "pets AND NOT #ext:gif" ⟨1000, true⟩ pets
    (reachable_run _) (by decide +kernel) (by decide +kernel) with
    ⟨expr, parsed, accepts, answers, _, exact⟩
  have within (condition : Query.Condition) (known : condition ∈ pets.condition) :
      condition.limit? = none := (accepts condition known).small (by decide)
  rcases answers fun condition known => ⟨within condition known, read⟩ with ⟨found, done⟩
  rcases exact found done with ⟨ascending, _, holds⟩
  have whole : ∀ picture ∈ album.pictures, '\x00' ∉ picture.path.toList := by decide +kernel
  exact ⟨expr, found, parsed, done, ascending, fun picture stored value =>
    (holds picture stored value).2 (whole picture stored)⟩

/-- A picture whose name goes on after a NUL character. -/
def longName : Library :=
  empty.after (.insertPicture "a\x00b" none)

/-- The search for the name `a` finds it, although its name is another one. -/
theorem name_cut_at_nul : Reachable longName ∧ ∃ query expr,
    longName.compile "#name:a" .standard ⟨1000, true⟩ = .ok query ∧
      Query.parse "#name:a" = .ok expr ∧
      longName.run (.bare []) query = .ok [⟨1, "a\x00b", none⟩] ∧
      longName.Means (.bare []) true partAfter ⟨1, "a\x00b", none⟩ expr false :=
  ⟨.step _ _ .empty, ⟨.pseudo "name" (some ⟨"a", none⟩), some (.pattern
      "\"REGEX\"(SUBSTR(p.path, \"RINSTR\"(p.path, '/') + 1), \x7bpattern\x7d, \x7bflags\x7d)"
      "a" "s")⟩,
    .pseudo "name" (some ⟨"a", none⟩), by decide +kernel, by decide +kernel, by decide +kernel,
    .pseudo "name" _ false (by decide +kernel)⟩

end Gallery.Library
