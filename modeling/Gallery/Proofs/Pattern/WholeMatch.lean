import Gallery.Proofs.Pattern.Sample

/-!
Matching a whole text. The given pattern is put between the ends of the text as a text of its own,
so the match is of the whole text when the pattern is one on its own and stays one in a group
(`matchesWhole_exact`). A pattern that closes the group around it is found in a part of the text
(`unopened_matches_part`).
-/

namespace Gallery.Pattern

section Match

variable (engine : Engine) (stretches : Stretches) (documented : engine.Documented stretches)
  (text pattern : String)

theorem anchored_eq_join : anchored pattern = String.join ["^", grouped pattern, "$"] := by
  apply String.toList_inj.mp
  simp [anchored, grouped, String.toList_append]

include documented in
/-- Between the anchors, a group takes up the whole text. -/
theorem stretches_anchored (ignoreCase : Bool) (first last : Nat)
    (alone : engine.Accepts pattern ignoreCase)
    (closed : engine.Accepts (grouped pattern) ignoreCase)
    (spliced : engine.Accepts (anchored pattern) ignoreCase) :
    stretches (anchored pattern) ignoreCase text first last ↔
      first = 0 ∧ last = text.length ∧ stretches pattern ignoreCase text 0 text.length := by
  have pieces : ∀ piece ∈ ["^", grouped pattern, "$"], engine.Piece ignoreCase piece := by
    simp only [List.mem_cons, List.not_mem_nil, or_false]
    rintro piece (rfl | rfl | rfl)
    · exact .start
    · exact .group pattern alone closed
    · exact .finish
  rw [anchored_eq_join] at spliced ⊢
  rw [documented.sequence _ ignoreCase text first last pieces spliced]
  simp only [Chained, documented.start, documented.finish,
    documented.group pattern ignoreCase text _ _ alone closed]
  constructor
  · rintro ⟨_, ⟨rfl, rfl⟩, _, matched, _, ⟨rfl, rfl⟩, rfl, _⟩
    exact ⟨rfl, rfl, matched⟩
  · rintro ⟨rfl, rfl, matched⟩
    exact ⟨0, ⟨rfl, rfl⟩, _, matched, _, ⟨rfl, rfl⟩, rfl, Nat.le_refl _⟩

theorem matchesWhole_refused (flags : String) :
    (∃ reason, matchesWhole engine text pattern flags = .error reason) ↔
      ¬engine.Accepts (anchored pattern) (flags.toList.contains 'i') := by
  rw [matchesWhole, compile, Engine.Accepts]
  cases engine.build (anchored pattern) (flags.toList.contains 'i') with
  | error reason => simp [Except.map, Except.isOk, Except.toBool]
  | ok matcher => simp [Except.map, Except.isOk, Except.toBool]

include documented in
theorem matchesWhole_stretches (flags : String)
    (spliced : engine.Accepts (anchored pattern) (flags.toList.contains 'i')) :
    ∃ matched, matchesWhole engine text pattern flags = .ok matched ∧ (matched = true ↔
      ∃ first last, stretches (anchored pattern) (flags.toList.contains 'i') text first last) := by
  rw [matchesWhole, compile]
  cases built : engine.build (anchored pattern) (flags.toList.contains 'i') with
  | error reason =>
      rw [Engine.Accepts, built] at spliced
      cases spliced
  | ok matcher => exact ⟨matcher text, rfl, documented.found _ _ matcher built text⟩

include documented in
theorem matchesWhole_of_accepted (flags : String)
    (alone : engine.Accepts pattern (flags.toList.contains 'i'))
    (closed : engine.Accepts (grouped pattern) (flags.toList.contains 'i'))
    (spliced : engine.Accepts (anchored pattern) (flags.toList.contains 'i')) :
    ∃ matched, matchesWhole engine text pattern flags = .ok matched ∧ (matched = true ↔
      stretches pattern (flags.toList.contains 'i') text 0 text.length) := by
  obtain ⟨matched, done, found⟩ :=
    matchesWhole_stretches engine stretches documented text pattern flags spliced
  refine ⟨matched, done, found.trans ?_⟩
  simp only [stretches_anchored engine stretches documented text pattern _ _ _ alone closed spliced]
  constructor
  · rintro ⟨_, _, _, _, whole⟩
    exact whole
  · intro whole
    exact ⟨0, text.length, rfl, rfl, whole⟩

include documented in
/-- Matching fails when the text around the pattern is refused. Otherwise, when the pattern and the
group around it are accepted, too, it tells whether the pattern matches from the start of the text
to its end, letter case aside when the flags say so. -/
theorem matchesWhole_exact (flags : String) :
    ((∃ reason, matchesWhole engine text pattern flags = .error reason) ↔
      ¬engine.Accepts (anchored pattern) (flags.toList.contains 'i')) ∧
    (engine.Accepts pattern (flags.toList.contains 'i') →
      engine.Accepts (grouped pattern) (flags.toList.contains 'i') →
      engine.Accepts (anchored pattern) (flags.toList.contains 'i') →
        ∃ matched, matchesWhole engine text pattern flags = .ok matched ∧
          (matched = true ↔
            stretches pattern (flags.toList.contains 'i') text 0 text.length)) := by
  refine ⟨matchesWhole_refused engine text pattern flags, fun alone closed spliced => ?_⟩
  exact matchesWhole_of_accepted engine stretches documented text pattern flags alone closed spliced

end Match

/-- The alternatives match the whole text in any letter case, and no longer text. -/
theorem matchesWhole_exact_cat :
    Sample.engine.Documented Sample.stretches ∧
    Sample.engine.Accepts "c.t|dog" true ∧ Sample.engine.Accepts (grouped "c.t|dog") true ∧
    Sample.engine.Accepts (anchored "c.t|dog") true ∧
    matchesWhole Sample.engine "CAT" "c.t|dog" "i" = .ok true ∧
    Sample.stretches "c.t|dog" true "CAT" 0 3 ∧ ¬Sample.stretches "c.t|dog" true "cats" 0 4 := by
  have documented := Sample.sample_documented
  have alone : Sample.engine.Accepts "c.t|dog" true := rfl
  have closed : Sample.engine.Accepts (grouped "c.t|dog") true := rfl
  have spliced : Sample.engine.Accepts (anchored "c.t|dog") true := rfl
  have whole : matchesWhole Sample.engine "CAT" "c.t|dog" "i" = .ok true := rfl
  have longer : matchesWhole Sample.engine "cats" "c.t|dog" "i" = .ok false := rfl
  have exact (text : String) :=
    (matchesWhole_exact Sample.engine Sample.stretches documented text "c.t|dog" "i").2 alone closed
      spliced
  refine ⟨documented, alone, closed, spliced, whole, ?_, ?_⟩
  · obtain ⟨matched, done, found⟩ := exact "CAT"
    cases whole.symm.trans done
    exact found.mp rfl
  · obtain ⟨matched, done, found⟩ := exact "cats"
    cases longer.symm.trans done
    exact mt found.mpr Bool.false_ne_true

/-- A pattern that is refused on its own, and matches a part of the text. -/
theorem unopened_matches_part :
    Sample.engine.Documented Sample.stretches ∧ ¬Sample.engine.Accepts "a)|(b" false ∧
      matchesWhole Sample.engine "ax" "a)|(b" "s" = .ok true := by
  refine ⟨Sample.sample_documented, ?_, rfl⟩
  have refused : Sample.engine.build "a)|(b" false = .error "regex parse error" := rfl
  rw [Engine.Accepts, refused]
  exact Bool.false_ne_true

end Gallery.Pattern
