import Gallery.Proofs.Library.Similarity

/-!
What the pseudo-tag `ext` looks at. Its condition takes what follows the last point of the path,
wherever that point stands. For a file whose name has a point this is the extension; otherwise it is
the end of the path from the name of some folder on, or the whole path, and a pattern can match it as
well (`extension_search_exact`).
-/

namespace Gallery

/-- The extension of the file at a path: what follows the last point of its name, if there is
one. -/
def extension? (path : String) : Option String :=
  if '.' ∈ (partAfter '/' path).toList then some (partAfter '.' (partAfter '/' path)) else none

/-- The pattern of the argument matches the text from its start to its end. -/
def Query.Argument.MatchesText (argument : Query.Argument) (stretches : Pattern.Stretches)
    (caseDefault : Bool) (text : String) : Prop :=
  stretches argument.pattern (!argument.caseSensitive.getD caseDefault) text 0 text.length

/-! Parts of a path. -/

/-- A point in the name of the file comes after all others. -/
theorem partAfter_of_extension (path extension : String)
    (named : extension? path = some extension) : partAfter '.' path = extension := by
  unfold extension? at named
  split at named
  · next inside =>
      rw [← Option.some.inj named]
      rcases partAfter_cases '/' path with ⟨_, whole⟩ | ⟨folders, name, split, _, part⟩
      · rw [whole]
      · rw [part, String.toList_ofList] at inside
        rcases partAfter_cases '.' (String.ofList name) with
          ⟨absent, _⟩ | ⟨stem, after, cut, last, rest⟩
        · rw [String.toList_ofList] at absent
          exact absurd inside absent
        · rw [String.toList_ofList] at cut
          rw [part, rest]
          apply partAfter_of_split '.' path (folders ++ '/' :: stem) after _ last
          rw [split, cut]
          simp
  · cases named

/-- Without a point in the name, the part after the last point goes on into the name from the name of
a folder, or it is the whole path. -/
theorem partAfter_of_no_extension (path : String) (unnamed : extension? path = none) :
    partAfter '.' path = path ∨ '/' ∈ (partAfter '.' path).toList := by
  have absent : '.' ∉ (partAfter '/' path).toList := by
    intro inside
    rw [extension?, if_pos inside] at unnamed
    cases unnamed
  rcases partAfter_cases '.' path with ⟨_, whole⟩ | ⟨before, after, split, _, part⟩
  · exact .inl whole
  · right
    rw [part, String.toList_ofList]
    by_contra flat
    -- The name would begin before the point, which would then stand in it.
    rcases partAfter_cases '/' path with ⟨_, name⟩ | ⟨folders, name, cut, _, last⟩
    · rw [name, split] at absent
      exact absent (by simp)
    · rw [last, String.toList_ofList] at absent
      rw [split] at cut
      rcases List.append_eq_append_iff.mp cut with ⟨middle, _, rest⟩ | ⟨middle, _, rest⟩
      · cases middle with
        | nil => cases rest
        | cons c middle =>
            cases rest
            exact flat (by simp)
      · cases middle with
        | nil => cases rest
        | cons c middle =>
            cases rest
            exact absent (by simp)

namespace Library

section Search

variable (library : Library) (reachable : Reachable library) (platform : Platform)
  (settings : CompilerSettings) (roomy : 1 ≤ settings.maxNodes)
  (short : ∀ picture ∈ library.pictures, FitsMemory picture.path) (text : String)
  (argument : Query.Argument) (parsed : Query.parse text = .ok (.pseudo "ext" (some argument)))

include reachable roomy short parsed

/-- A search for an extension keeps the pictures of which the part after the last point matches. -/
theorem search_extension (compiles : (Pattern.compile platform.engine argument.pattern
      (Query.Condition.flagsOf settings.caseSensitive argument)).isOk = true) :
    library.search platform text .standard settings =
      .ok (library.pictures.filter fun picture =>
        fullyMatches platform.engine settings.caseSensitive argument
          (partBeforeNul '.' picture.path)) := by
  have keyed := keyed_of_reachable library reachable
  obtain ⟨catalogue, catalogued, _⟩ :=
    catalogue_read library keyed (related_of_reachable library reachable)
  have found : ∃ template, Query.Registry.standard.find? "ext" = some ⟨.pattern, template⟩ :=
    ⟨_, rfl⟩
  obtain ⟨template, found⟩ := found
  have compiled := Query.compile_pattern text "ext" template argument catalogue .standard settings
    parsed found
  rw [if_neg (by omega)] at compiled
  have built := Query.ofExpr_pattern catalogue.lookup .standard settings.caseSensitive "ext" template
    argument found
  have within := Query.limit_of_few_nodes catalogue.lookup settings.caseSensitive _ _ built
    (by simp [Query.Expr.nodeCount])
  have done : library.compile text .standard settings =
      .ok ⟨.pseudo "ext" (some argument), some (.pattern template argument.pattern
        (Query.Condition.flagsOf settings.caseSensitive argument))⟩ := by
    rw [compile, catalogued]
    simp only [compiled]
  obtain ⟨answers, exact⟩ := run_exact library platform text settings _ keyed short done
  have ready : ∃ pictures, library.run platform _ = .ok pictures := answers fun condition known => by
    cases known
    refine ⟨within, fun given member _ => ?_⟩
    cases member
    exact compiles
  obtain ⟨pictures, ran⟩ := ready
  rw [search, done]
  simp only [bind, Except.bind, ran, Except.mapError, exact pictures ran]
  rfl

/-- For every library and query, and a pattern that is accepted alone, in a group and between the
ends of a text, a search for an extension finds the pictures of which the pattern matches the part of
the path after its last point, where a path ends for that part before its first NUL character. In a
path that has none this is the extension of the file. When the file has no extension it is the whole
path, or a part that starts in the name of a folder. -/
theorem extension_search_exact (stretches : Pattern.Stretches)
    (documented : platform.engine.Documented stretches)
    (accepted : Accepted platform.engine settings.caseSensitive argument) :
    ∃ found, library.search platform text .standard settings = .ok found ∧
      ∀ picture ∈ library.pictures,
        (picture ∈ found ↔ argument.MatchesText stretches settings.caseSensitive
          (partBeforeNul '.' picture.path)) ∧
        ('\x00' ∉ picture.path.toList →
          (∀ extension, extension? picture.path = some extension →
            (picture ∈ found ↔
              argument.MatchesText stretches settings.caseSensitive extension)) ∧
          (extension? picture.path = none →
            (picture ∈ found ↔ argument.MatchesText stretches settings.caseSensitive
              (partAfter '.' picture.path)) ∧
            (partAfter '.' picture.path = picture.path ∨
              '/' ∈ (partAfter '.' picture.path).toList))) := by
  have compiles : (Pattern.compile platform.engine argument.pattern
      (Query.Condition.flagsOf settings.caseSensitive argument)).isOk = true := by
    rw [Pattern.compile, flags_ignoreCase]
    exact accepted (Pattern.anchored argument.pattern) (by simp)
  refine ⟨_, search_extension library reachable platform settings roomy short text argument parsed
    compiles, fun picture stored => ?_⟩
  have kept : picture ∈ library.pictures.filter (fun picture =>
      fullyMatches platform.engine settings.caseSensitive argument
        (partBeforeNul '.' picture.path)) ↔
      argument.MatchesText stretches settings.caseSensitive (partBeforeNul '.' picture.path) := by
    rw [List.mem_filter,
      fullyMatches_iff platform.engine stretches documented settings.caseSensitive argument accepted]
    exact and_iff_right stored
  refine ⟨kept, fun whole => ?_⟩
  rw [(partBeforeNul_eq_iff '.' picture.path).mpr (.inl whole)] at kept
  refine ⟨fun extension named => ?_, fun unnamed => ⟨kept, partAfter_of_no_extension _ unnamed⟩⟩
  rw [← partAfter_of_extension picture.path extension named]
  exact kept

end Search

/-- A picture in a folder with a point in its name, one without any point, and one with an
extension. -/
def drafts : Library :=
  ((empty.after (.insertPicture "v1.0/cat" none)).after (.insertPicture "README" none)).after
    (.insertPicture "a.b/cat.png" none)

theorem extension_search_exact_drafts : ∃ found,
    Pattern.Sample.engine.Documented Pattern.Sample.stretches ∧
    Accepted Pattern.Sample.engine true ⟨"p.g", none⟩ ∧
    drafts.search (.bare []) "#ext:p.g" .standard ⟨1000, true⟩ = .ok found ∧
    ∀ picture ∈ drafts.pictures, ∀ extension, extension? picture.path = some extension →
      (picture ∈ found ↔ Pattern.Sample.stretches "p.g" false extension 0 extension.length) := by
  have documented := Pattern.Sample.sample_documented
  have accepted : Accepted Pattern.Sample.engine true ⟨"p.g", none⟩ := by
    simp only [Accepted, List.mem_cons, List.not_mem_nil, or_false]
    rintro pattern (rfl | rfl | rfl)
    · rfl
    · rfl
    · rfl
  rcases extension_search_exact drafts (.step _ _ (.step _ _ (.step _ _ .empty))) (.bare [])
    ⟨1000, true⟩ (by decide) (by decide +kernel) "#ext:p.g" ⟨"p.g", none⟩ (by decide +kernel)
    Pattern.Sample.stretches documented accepted with ⟨found, searched, exact⟩
  have whole : ∀ picture ∈ drafts.pictures, '\x00' ∉ picture.path.toList := by decide +kernel
  exact ⟨found, documented, accepted, searched, fun picture stored =>
    ((exact picture stored).2 (whole picture stored)).1⟩

/-- A search for an extension finds files without one, by the end of the path from the name of a
folder on and by the whole path. -/
theorem path_taken_for_extension : Reachable drafts ∧
    extension? "v1.0/cat" = none ∧ extension? "README" = none ∧
    drafts.search (.bare []) "#ext:\"0/cat|README\"" .standard ⟨1000, true⟩ =
      .ok [⟨1, "v1.0/cat", none⟩, ⟨2, "README", none⟩] :=
  ⟨.step _ _ (.step _ _ (.step _ _ .empty)), by decide +kernel, by decide +kernel,
    by decide +kernel⟩

end Library

end Gallery
