import Mathlib.Data.List.Forall2
import Gallery.Proofs.Pattern.Sample
import Gallery.Sql.Function

/-!
The pattern that a call site keeps. Whether the pattern that an earlier call has compiled is handed
back or has been dropped in between, a call answers what its own arguments determine
(`kept_pattern_invisible`): each call keeps what belongs to its own pattern argument, or leaves what
belongs to it already.
-/

namespace Gallery.Sql

section Engine

variable (engine : Pattern.Engine)

/-- The kept pattern is what compiling the text gives, with all flags that agree on letter case. -/
def CachedPattern.IsOf (kept : CachedPattern) (pattern : String) : Prop :=
  ∀ flags : String, flags.toList.contains 'i' = kept.ignoreCase →
    Pattern.compile engine pattern flags = .ok kept.matcher

section Match

variable (text pattern flags : String)

theorem matchCached_same (kept : CachedPattern)
    (same : kept.ignoreCase = flags.toList.contains 'i') :
    matchCached engine (some kept) text pattern flags =
      .ok (kept.matcher text, some kept) := by
  simp [matchCached, same]

theorem matchCached_differs (kept : CachedPattern)
    (differs : kept.ignoreCase ≠ flags.toList.contains 'i') :
    matchCached engine (some kept) text pattern flags = matchCached engine none text pattern flags := by
  rw [matchCached]
  simp only [beq_iff_eq, differs, ↓reduceIte]
  rfl

/-- The call matches, and whatever is kept after it belongs to the pattern. -/
def Matches (outcome : Except FunctionError (Bool × Option CachedPattern)) : Prop :=
  outcome.map Prod.fst = (Pattern.matchesWhole engine text pattern flags).mapError .invalidPattern ∧
    ∀ matched next, outcome = .ok (matched, next) → ∀ kept, next = some kept → kept.IsOf engine pattern

theorem matchCached_fresh :
    Matches engine text pattern flags (matchCached engine none text pattern flags) := by
  rw [Matches, Pattern.matchesWhole]
  delta matchCached
  cases compiled : Pattern.compile engine pattern flags with
  | error error =>
      refine ⟨rfl, ?_⟩
      rintro matched next ⟨⟩
  | ok node =>
      refine ⟨rfl, ?_⟩
      rintro matched next ⟨⟩ kept ⟨⟩ other agrees
      -- Compiling looks at the flags for letter case only.
      rw [← compiled, Pattern.compile, Pattern.compile, agrees]

theorem matchCached_sound (cache : Option CachedPattern)
    (sound : ∀ kept, cache = some kept → kept.IsOf engine pattern) :
    Matches engine text pattern flags (matchCached engine cache text pattern flags) := by
  cases cache with
  | none => exact matchCached_fresh engine text pattern flags
  | some kept =>
      by_cases same : kept.ignoreCase = flags.toList.contains 'i'
      · have compiled := sound kept rfl flags same.symm
        rw [matchCached_same engine text pattern flags kept same, Matches, Pattern.matchesWhole, compiled]
        refine ⟨rfl, ?_⟩
        rintro matched next ⟨⟩ other ⟨⟩
        exact sound kept rfl
      · rw [matchCached_differs engine text pattern flags kept same]
        exact matchCached_fresh engine text pattern flags

end Match

/-- The arguments of a call. -/
structure Call where
  text : Value
  pattern : Value
  flags : Value

namespace Call

/-- One of the arguments is missing. -/
def Lacks (call : Call) : Prop :=
  call.text.isNull = true ∨ call.pattern.isNull = true ∨ call.flags.isNull = true

/-- All arguments are there and read as texts. -/
structure Reads (call : Call) (text pattern flags : String) : Prop where
  complete : ¬call.Lacks
  text : call.text.text? = some text
  pattern : call.pattern.text? = some pattern
  flags : call.flags.text? = some flags

/-- What a call is to answer by its own arguments: nothing when one is missing, a failure when one
is no text or the pattern does not compile, and else whether the pattern matches the whole text. -/
inductive Answers : Call → Except FunctionError Value → Prop where
  | missing (call : Call) (lacks : call.Lacks) : Answers call (.ok .null)
  | unreadable (call : Call) (complete : ¬call.Lacks)
      (invalid : call.text.text? = none ∨ call.pattern.text? = none ∨ call.flags.text? = none) :
      Answers call (.error (.invalidText "REGEX"))
  | refused (call : Call) (text pattern flags : String) (reads : call.Reads text pattern flags)
      (error : String) (failed : Pattern.compile engine pattern flags = .error error) :
      Answers call (.error (.invalidPattern error))
  | matched (call : Call) (text pattern flags : String) (reads : call.Reads text pattern flags)
      (result : Bool) (found : Pattern.matchesWhole engine text pattern flags = .ok result) :
      Answers call (.ok (truth result))

/-- The answer of the call when it is handed what was kept. -/
def answer (call : Call) (handed : Option CachedPattern) : Except FunctionError Value :=
  (regexCached engine handed call.text call.pattern call.flags).map Prod.fst

/-- What is kept after the call. A call that fails leaves what was kept before. -/
def keeps (call : Call) (handed : Option CachedPattern) : Option CachedPattern :=
  match regexCached engine handed call.text call.pattern call.flags with
  | .ok (_, next) => next
  | .error _ => handed

end Call

/-- A call site between two calls: the pattern argument of the last call, and what is kept. -/
structure CallSite where
  pattern : Value
  kept : Option CachedPattern

namespace CallSite

/-- What is kept may have been dropped. It is handed back only while the pattern argument stays the
same. -/
inductive Hands (site : CallSite) (call : Call) : Option CachedPattern → Prop where
  | dropped : Hands site call none
  | back (same : call.pattern = site.pattern) : Hands site call site.kept

inductive Runs : CallSite → List Call → List (Except FunctionError Value) → Prop where
  | done (site : CallSite) : Runs site [] []
  | call (site : CallSite) (call : Call) (rest : List Call) (handed : Option CachedPattern)
      (answers : List (Except FunctionError Value)) (hands : site.Hands call handed)
      (later : Runs ⟨call.pattern, call.keeps engine handed⟩ rest answers) :
      Runs site (call :: rest) (call.answer engine handed :: answers)

/-- What is kept belongs to the pattern argument. -/
def Sound (site : CallSite) : Prop :=
  ∀ kept pattern, site.kept = some kept → site.pattern.text? = some pattern → kept.IsOf engine pattern

end CallSite

section Calls

variable (call : Call) (handed : Option CachedPattern)

theorem lacks_iff :
    (call.text.isNull || call.pattern.isNull || call.flags.isNull) = true ↔ call.Lacks := by
  simp [Call.Lacks, or_assoc]

theorem regexCached_missing (lacks : call.Lacks) :
    regexCached engine handed call.text call.pattern call.flags = .ok (.null, handed) := by
  rw [regexCached, if_pos ((lacks_iff call).mpr lacks)]

theorem regexCached_unreadable (complete : ¬call.Lacks)
    (invalid : call.text.text? = none ∨ call.pattern.text? = none ∨ call.flags.text? = none) :
    regexCached engine handed call.text call.pattern call.flags = .error (.invalidText "REGEX") := by
  rw [regexCached, if_neg (mt (lacks_iff call).mp complete)]
  split
  · next text pattern flags readText readPattern readFlags =>
      simp [readText, readPattern, readFlags] at invalid
  · rfl

theorem regexCached_reads (text pattern flags : String) (reads : call.Reads text pattern flags) :
    regexCached engine handed call.text call.pattern call.flags =
      (matchCached engine handed text pattern flags).map fun found => (truth found.1, found.2) := by
  rw [regexCached, if_neg (mt (lacks_iff call).mp reads.complete)]
  simp only [reads.text, reads.pattern, reads.flags]

theorem lacks_or_reads : call.Lacks ∨
    (¬call.Lacks ∧
      (call.text.text? = none ∨ call.pattern.text? = none ∨ call.flags.text? = none)) ∨
    ∃ text pattern flags, call.Reads text pattern flags := by
  by_cases lacks : call.Lacks
  · exact .inl lacks
  · right
    cases readText : call.text.text? with
    | none => exact .inl ⟨lacks, .inl rfl⟩
    | some text =>
        cases readPattern : call.pattern.text? with
        | none => exact .inl ⟨lacks, .inr (.inl rfl)⟩
        | some pattern =>
            cases readFlags : call.flags.text? with
            | none => exact .inl ⟨lacks, .inr (.inr rfl)⟩
            | some flags =>
                exact .inr ⟨text, pattern, flags, lacks, readText, readPattern, readFlags⟩

theorem matchesWhole_error_iff (text pattern flags : String) (error : String) :
    Pattern.matchesWhole engine text pattern flags = .error error ↔
      Pattern.compile engine pattern flags = .error error := by
  rw [Pattern.matchesWhole]
  cases Pattern.compile engine pattern flags <;> simp [Except.map]

theorem answer_reads (text pattern flags : String) (reads : call.Reads text pattern flags)
    (given : ∀ kept, handed = some kept → kept.IsOf engine pattern) :
    call.answer engine handed =
      ((Pattern.matchesWhole engine text pattern flags).mapError .invalidPattern).map truth := by
  have value := (matchCached_sound engine text pattern flags handed given).1
  rw [Call.answer, regexCached_reads engine call handed text pattern flags reads, ← value]
  cases matchCached engine handed text pattern flags <;> rfl

theorem keeps_reads (text pattern flags : String) (reads : call.Reads text pattern flags)
    (given : ∀ kept, handed = some kept → kept.IsOf engine pattern) :
    ∀ kept, call.keeps engine handed = some kept → kept.IsOf engine pattern := by
  have keeps := (matchCached_sound engine text pattern flags handed given).2
  rw [Call.keeps, regexCached_reads engine call handed text pattern flags reads]
  cases outcome : matchCached engine handed text pattern flags with
  | error failure => exact given
  | ok found => exact keeps found.1 found.2 outcome

/-- One call answers what it is to answer, and what it leaves at its site belongs to its pattern. -/
theorem call_sound (sound : CallSite.Sound engine ⟨call.pattern, handed⟩) :
    call.Answers engine (call.answer engine handed) ∧ CallSite.Sound engine ⟨call.pattern, call.keeps engine handed⟩ := by
  rcases lacks_or_reads call with lacks | ⟨complete, invalid⟩ | ⟨text, pattern, flags, reads⟩
  · rw [Call.answer, Call.keeps, regexCached_missing engine call handed lacks]
    exact ⟨.missing call lacks, sound⟩
  · rw [Call.answer, Call.keeps, regexCached_unreadable engine call handed complete invalid]
    exact ⟨.unreadable call complete invalid, sound⟩
  · have given : ∀ kept, handed = some kept → kept.IsOf engine pattern := by
      intro kept same
      exact sound kept pattern same reads.pattern
    constructor
    · rw [answer_reads engine call handed text pattern flags reads given]
      cases whole : Pattern.matchesWhole engine text pattern flags with
      | error error =>
          have failed := (matchesWhole_error_iff engine text pattern flags error).mp whole
          exact .refused call text pattern flags reads error failed
      | ok result => exact .matched call text pattern flags reads result whole
    · intro kept other same read
      have now : other = pattern := Option.some.inj (read.symm.trans reads.pattern)
      rw [now]
      exact keeps_reads engine call handed text pattern flags reads given kept same

theorem answers_iff (answer : Except FunctionError Value) :
    call.Answers engine answer ↔ answer = regexValue engine call.text call.pattern call.flags := by
  constructor
  · intro expected
    show answer = call.answer engine none
    cases expected with
    | missing lacks => rw [Call.answer, regexCached_missing engine call none lacks]; rfl
    | unreadable complete invalid =>
        rw [Call.answer, regexCached_unreadable engine call none complete invalid]
        rfl
    | refused text pattern flags reads error failed =>
        have whole := (matchesWhole_error_iff engine text pattern flags error).mpr failed
        rw [answer_reads engine call none text pattern flags reads (by simp), whole]
        rfl
    | matched text pattern flags reads result found =>
        rw [answer_reads engine call none text pattern flags reads (by simp), found]
        rfl
  · rintro rfl
    exact (call_sound engine call none (by rintro kept pattern ⟨⟩)).1

end Calls

/-! Runs of calls. -/

theorem hands_sound (site : CallSite) (call : Call) (handed : Option CachedPattern)
    (sound : site.Sound engine) (hands : site.Hands call handed) :
    CallSite.Sound engine ⟨call.pattern, handed⟩ := by
  cases hands with
  | dropped =>
      rintro kept pattern ⟨⟩
  | back same =>
      rw [same]
      exact sound

theorem runs_answer (site : CallSite) (calls : List Call)
    (answers : List (Except FunctionError Value)) (sound : site.Sound engine)
    (runs : site.Runs engine calls answers) : List.Forall₂ (Call.Answers engine) calls answers := by
  induction runs with
  | done site => exact .nil
  | call site call rest handed answers hands later ih =>
      have given := hands_sound engine site call handed sound hands
      rcases call_sound engine call handed given with ⟨answer, keeps⟩
      exact .cons answer (ih keeps)

/-- The calls can all be made, for instance when nothing is ever handed back. -/
theorem answers_run (site : CallSite) (calls : List Call)
    (answers : List (Except FunctionError Value))
    (expected : List.Forall₂ (Call.Answers engine) calls answers) : site.Runs engine calls answers := by
  induction expected generalizing site with
  | nil => exact .done site
  | @cons call answer rest answers first later ih =>
      have own : answer = call.answer engine none := (answers_iff engine call answer).mp first
      rw [own]
      exact .call site call rest none answers .dropped (ih _)

/-- Whatever is dropped or handed back, the calls at a site have the answers that they are to have
by their own arguments, and no others. A call is to answer what it answers when nothing is kept.
When it reads as texts it fails just when its pattern does not compile with its flags, and else it
tells whether the pattern matches the whole text. -/
theorem kept_pattern_invisible (pattern : Value) (calls : List Call)
    (answers : List (Except FunctionError Value)) :
    (CallSite.Runs engine ⟨pattern, none⟩ calls answers ↔ List.Forall₂ (Call.Answers engine) calls answers) ∧
    (∀ call answer, Call.Answers engine call answer ↔
      answer = regexValue engine call.text call.pattern call.flags) ∧
    ∀ call answer, Call.Answers engine call answer →
      (call.Lacks → answer = .ok .null) ∧
      ∀ text pattern flags, call.Reads text pattern flags →
        ((∃ error, answer = .error error) ↔
          ∃ error, Pattern.compile engine pattern flags = .error error) ∧
        ∀ result, Pattern.matchesWhole engine text pattern flags = .ok result →
          answer = .ok (truth result) := by
  refine ⟨⟨?_, answers_run engine _ calls answers⟩, answers_iff engine, ?_⟩
  · apply runs_answer
    rintro kept text ⟨⟩
  · rintro call answer expected
    have own : answer = call.answer engine none := (answers_iff engine call answer).mp expected
    constructor
    · intro lacks
      rw [own, Call.answer, regexCached_missing engine call none lacks]
      rfl
    · intro text pattern flags reads
      rw [own, answer_reads engine call none text pattern flags reads (by simp)]
      simp only [← matchesWhole_error_iff engine text pattern flags]
      cases Pattern.matchesWhole engine text pattern flags with
      | error error => simp [Except.mapError, Except.map]
      | ok result => simp [Except.mapError, Except.map]

end Engine

theorem kept_pattern_invisible_cats :
    let engine := Pattern.Sample.engine
    let asked (text : Value) : Call := ⟨text, .text "c.ts", .text "s"⟩
    let opened : Call := ⟨.text "cats", .text "(", .text "s"⟩
    CallSite.Runs engine ⟨.text "c.ts", none⟩ [asked (.text "cats"), asked .null, asked (.text "Cats")]
        [.ok (truth true), .ok .null, .ok (truth false)] ∧
      (asked .null).Lacks ∧ regexValue engine .null (.text "c.ts") (.text "s") = .ok .null ∧
      (asked (.text "cats")).Reads "cats" "c.ts" "s" ∧
      Pattern.matchesWhole engine "cats" "c.ts" "s" = .ok true ∧
      regexValue engine (.text "cats") (.text "c.ts") (.text "s") = .ok (truth true) ∧
      opened.Reads "cats" "(" "s" ∧
      ∃ error, regexValue engine (.text "cats") (.text "(") (.text "s") = .error error := by
  intro engine asked opened
  have reads : ∀ text, (asked (.text text)).Reads text "c.ts" "s" := by
    intro text
    exact ⟨by simp [asked, Call.Lacks, Value.isNull], rfl, rfl, rfl⟩
  have readsOpened : opened.Reads "cats" "(" "s" :=
    ⟨by simp [opened, Call.Lacks, Value.isNull], rfl, rfl, rfl⟩
  have lacks : (asked .null).Lacks := .inl rfl
  have found : Pattern.matchesWhole engine "cats" "c.ts" "s" = .ok true := rfl
  have missed : Pattern.matchesWhole engine "Cats" "c.ts" "s" = .ok false := rfl
  rcases kept_pattern_invisible engine (.text "c.ts")
      [asked (.text "cats"), asked .null, asked (.text "Cats")]
      [.ok (truth true), .ok .null, .ok (truth false)] with
    ⟨runs, own, facts⟩
  have plain (call : Call) := facts call _ ((own call _).mpr rfl)
  refine ⟨runs.mpr ?_, lacks, (plain (asked .null)).1 lacks, reads "cats", found,
    ((plain (asked (.text "cats"))).2 _ _ _ (reads "cats")).2 true found, readsOpened,
    ((plain opened).2 _ _ _ readsOpened).1.mpr ⟨_, rfl⟩⟩
  exact .cons (.matched _ _ _ _ (reads "cats") true found)
    (.cons (.missing _ lacks) (.cons (.matched _ _ _ _ (reads "Cats") false missed) .nil))

end Gallery.Sql
