import Gallery.Proofs.Query.Marks
import Gallery.Proofs.Text.Boundary

/-!
Rendering as replacement. Placeholders with names without braces never overlap, so all of them can
be replaced at once, position by position (`rendered_replaced`). A loop that looks for the next
opening brace, and from there to the next closing one, comes to the same, and goes on behind the
brace or behind the placeholder (`rendering_exact`).
-/

namespace Gallery.Query.Template

open Text (OccursAt)

/-- The name holds no brace. -/
def Plain (name : String) : Prop :=
  '\x7b' ∉ name.toList ∧ '\x7d' ∉ name.toList

/-! Placeholders in a template. -/

section Slots

variable (a b : String) (template : List Char) (i j : Nat)

theorem slot_length : (slotText a).length = a.toList.length + 2 := by
  simp [slotText]

theorem slot_append (rest : List Char) :
    slotText a ++ rest = '\x7b' :: (a.toList ++ '\x7d' :: rest) := by
  simp [slotText]

theorem slot_opens (occurs : OccursAt (slotText a) template i) : template[i]? = some '\x7b' := by
  rcases occurs with ⟨trail, split⟩
  have first : (template.drop i)[0]? = some '\x7b' := by
    rw [← split]
    rfl
  rwa [List.getElem?_drop, Nat.add_zero] at first

theorem slot_rest (plain : Plain a) (occurs : OccursAt (slotText a) template i) (later : i < j)
    (inside : j < i + (slotText a).length) : template[j]? ≠ some '\x7b' := by
  rcases occurs with ⟨trail, split⟩
  rcases Nat.exists_eq_add_of_lt later with ⟨k, rfl⟩
  have short : k < (a.toList ++ ['\x7d']).length := by
    rw [slot_length] at inside
    rw [List.length_append, List.length_singleton]
    omega
  have here : template[i + k + 1]? = (a.toList ++ ['\x7d'])[k]? := by
    rw [Nat.add_assoc, ← List.getElem?_drop, ← split, slotText, List.cons_append,
      List.getElem?_cons_succ, List.getElem?_append_left short]
  rw [here]
  intro brace
  have member := List.mem_of_getElem? brace
  rcases List.mem_append.mp member with named | closing
  · exact plain.1 named
  · simp at closing

/-- No placeholder starts inside of another one. -/
theorem slots_apart (plain : Plain a) (first : OccursAt (slotText a) template i)
    (second : OccursAt (slotText b) template j) (later : i < j) :
    i + (slotText a).length ≤ j := by
  by_contra overlap
  exact slot_rest a template i j plain first later (by omega) (slot_opens b template j second)

theorem name_before_brace (rest : List Char) (plain : Plain a) :
    (a.toList ++ '\x7d' :: rest).takeWhile (· != '\x7d') = a.toList ∧
      (a.toList ++ '\x7d' :: rest).dropWhile (· != '\x7d') = '\x7d' :: rest := by
  have names : ∀ c ∈ a.toList, (c != '\x7d') = true := by
    intro c member
    rw [bne_iff_ne]
    rintro rfl
    exact plain.2 member
  rw [List.takeWhile_append_of_pos names, List.dropWhile_append_of_pos names]
  simp

theorem drop_name (rest : List Char) :
    (a.toList ++ '\x7d' :: rest).drop (a.length + 1) = rest := by
  rw [← String.length_toList, List.drop_length_add_append]
  rfl

theorem slot_unique (plainA : Plain a) (plainB : Plain b)
    (first : OccursAt (slotText a) template i) (second : OccursAt (slotText b) template i) :
    a = b := by
  rcases first with ⟨trailA, splitA⟩
  rcases second with ⟨trailB, splitB⟩
  rw [← splitB, slot_append, slot_append, List.cons.injEq] at splitA
  have same := congrArg (List.takeWhile (· != '\x7d')) splitA.2
  rw [(name_before_brace a trailA plainA).1, (name_before_brace b trailB plainB).1] at same
  exact String.toList_inj.mp same

end Slots

/-! Replacement of all placeholders at once. -/

section Replacement

/-- A placeholder with one of the names stands behind the first `i` characters. -/
def SlotAt (names : List String) (template : List Char) (i : Nat) : Prop :=
  ∃ name ∈ names, OccursAt (slotText name) template i

/-- The character behind the first `i` belongs to a placeholder that starts before it. -/
def InsideSlot (names : List String) (template : List Char) (i : Nat) : Prop :=
  ∃ j < i, ∃ name ∈ names,
    OccursAt (slotText name) template j ∧ i < j + (slotText name).length

instance (needle text : List Char) (i : Nat) : Decidable (OccursAt needle text i) :=
  inferInstanceAs (Decidable (needle <+: text.drop i))

instance (names : List String) (template : List Char) (i : Nat) :
    Decidable (SlotAt names template i) :=
  inferInstanceAs (Decidable (∃ name ∈ names, OccursAt (slotText name) template i))

instance (names : List String) (template : List Char) (i : Nat) :
    Decidable (InsideSlot names template i) :=
  inferInstanceAs (Decidable (∃ j < i, ∃ name ∈ names,
    OccursAt (slotText name) template j ∧ i < j + (slotText name).length))

/-- What stands for the character behind the first `i`: a mark for a whole placeholder, and nothing
for the rest of it. -/
def replacement (names : List String) (template : List Char) (i : Nat) : List Char :=
  if SlotAt names template i then [parameterMark]
  else if InsideSlot names template i then []
  else template[i]?.toList

/-- The template with a mark in the place of every placeholder. -/
def replaced (names : List String) (template : List Char) : List Char :=
  (List.range template.length).flatMap (replacement names template)

/-- The value of the placeholder that stands behind the first `i` characters. -/
def valueAt? (values : List (String × String)) (template : List Char) (i : Nat) : Option String :=
  (values.find? fun entry => decide (OccursAt (slotText entry.1) template i)).map Prod.snd

/-- The values of all placeholders of the template, from left to right. -/
def valuesInOrder (values : List (String × String)) (template : List Char) : List String :=
  (List.range template.length).filterMap (valueAt? values template)

theorem occursAt_append (needle before rest : List Char) (i : Nat) :
    OccursAt needle (before ++ rest) (before.length + i) ↔ OccursAt needle rest i := by
  rw [OccursAt, OccursAt, List.drop_length_add_append]

theorem range_append_length (before rest : List Char) :
    List.range (before ++ rest).length =
      List.range before.length ++ (List.range rest.length).map (before.length + ·) := by
  rw [List.length_append, List.range_add]

-- A placeholder that starts in the first part must end there. Then what happens in the second part
-- does not depend on the first one.
theorem insideSlot_append (names : List String) (before rest : List Char) (i : Nat)
    (apart : ∀ j < before.length, ∀ name ∈ names, OccursAt (slotText name) (before ++ rest) j →
      j + (slotText name).length ≤ before.length) :
    InsideSlot names (before ++ rest) (before.length + i) ↔ InsideSlot names rest i := by
  constructor
  · rintro ⟨j, earlier, name, known, occurs, short⟩
    by_cases early : j < before.length
    · have ends := apart j early name known occurs
      omega
    · rcases Nat.exists_eq_add_of_le (Nat.le_of_not_lt early) with ⟨k, rfl⟩
      rw [occursAt_append] at occurs
      exact ⟨k, by omega, name, known, occurs, by omega⟩
  · rintro ⟨j, earlier, name, known, occurs, short⟩
    rw [← occursAt_append _ before rest j] at occurs
    exact ⟨before.length + j, by omega, name, known, occurs, by omega⟩

theorem replaced_append (names : List String) (before rest : List Char)
    (apart : ∀ j < before.length, ∀ name ∈ names, OccursAt (slotText name) (before ++ rest) j →
      j + (slotText name).length ≤ before.length) :
    replaced names (before ++ rest) =
      (List.range before.length).flatMap (replacement names (before ++ rest)) ++
        replaced names rest := by
  have shifted (i : Nat) : replacement names (before ++ rest) (before.length + i) =
      replacement names rest i := by
    have slot : SlotAt names (before ++ rest) (before.length + i) ↔ SlotAt names rest i := by
      simp only [SlotAt, occursAt_append]
    have inside := insideSlot_append names before rest i apart
    rw [replacement, replacement]
    simp only [slot, inside]
    rw [List.getElem?_append_right (by omega), Nat.add_sub_cancel_left]
  rw [replaced, range_append_length, List.flatMap_append, List.flatMap_map, replaced]
  simp only [shifted]

theorem valuesInOrder_append (values : List (String × String)) (before rest : List Char) :
    valuesInOrder values (before ++ rest) =
      (List.range before.length).filterMap (valueAt? values (before ++ rest)) ++
        valuesInOrder values rest := by
  have shifted (i : Nat) : valueAt? values (before ++ rest) (before.length + i) =
      valueAt? values rest i := by
    simp only [valueAt?, occursAt_append]
  rw [valuesInOrder, range_append_length, List.filterMap_append, List.filterMap_map, valuesInOrder]
  simp only [Function.comp_def, shifted]

variable (values : List (String × String))

theorem slotAt_iff (template : List Char) (i : Nat) :
    SlotAt (values.map Prod.fst) template i ↔ (valueAt? values template i).isSome = true := by
  simp [SlotAt, valueAt?]

theorem valueAt_first (c : Char) (rest : List Char) :
    valueAt? values (c :: rest) 0 = (starts? values c rest).map Prod.fst := by
  rw [valueAt?, starts?]
  by_cases brace : c = '\x7b'
  · simp [brace, placeholder?, OccursAt, slotText, Function.comp_def,
      ← List.isPrefixOf_iff_prefix]
  · simp [brace, OccursAt, slotText, List.cons_prefix_cons, Ne.symm brace]

theorem replaced_character (c : Char) (rest : List Char) (start : starts? values c rest = none) :
    replaced (values.map Prod.fst) (c :: rest) = c :: replaced (values.map Prod.fst) rest ∧
      valuesInOrder values (c :: rest) = valuesInOrder values rest := by
  have nothing : valueAt? values (c :: rest) 0 = none := by
    rw [valueAt_first, start]
    rfl
  have absent : ¬SlotAt (values.map Prod.fst) (c :: rest) 0 := by
    rw [slotAt_iff, nothing]
    decide
  have outside : ¬InsideSlot (values.map Prod.fst) (c :: rest) 0 := by
    rintro ⟨j, earlier, _⟩
    exact Nat.not_lt_zero j earlier
  have first : replacement (values.map Prod.fst) (c :: rest) 0 = [c] := by
    rw [replacement, if_neg absent, if_neg outside]
    rfl
  constructor
  · have split := replaced_append (values.map Prod.fst) [c] rest (by
      intro j inside name known occurs
      rw [List.length_singleton, Nat.lt_one_iff] at inside
      subst inside
      exact absurd ⟨name, known, occurs⟩ absent)
    rw [List.singleton_append] at split
    rw [split, List.length_singleton, List.range_one, List.flatMap_singleton, first]
    rfl
  · have split := valuesInOrder_append values [c] rest
    rw [List.singleton_append] at split
    rw [split, List.length_singleton, List.range_one, List.filterMap_cons_none nothing]
    rfl

section Front

variable (name : String) (rest : List Char)

/-- Behind its opening brace a placeholder has room for no other one. -/
theorem no_slot_inside (names : List String) (plain : Plain name) (i : Nat)
    (inside : i < name.toList.length + 1) :
    ¬SlotAt names (slotText name ++ rest) (i + 1) := by
  rintro ⟨other, _, occurs⟩
  have apart := slots_apart name other _ 0 (i + 1) plain (List.prefix_append _ rest) occurs
    (Nat.succ_pos i)
  rw [slot_length] at apart
  omega

theorem replaced_slot (names : List String) (plain : ∀ other ∈ names, Plain other)
    (known : name ∈ names) :
    replaced names (slotText name ++ rest) = parameterMark :: replaced names rest := by
  have stands : OccursAt (slotText name) (slotText name ++ rest) 0 := List.prefix_append _ rest
  have split := replaced_append names (slotText name) rest (by
    intro j inside other listed occurs
    rcases Nat.eq_zero_or_pos j with rfl | later
    · rw [slot_unique other name _ 0 (plain other listed) (plain name known) occurs stands,
        Nat.zero_add]
    · have apart := slots_apart name other _ 0 j (plain name known) stands occurs later
      omega)
  have mark : replacement names (slotText name ++ rest) 0 = [parameterMark] :=
    if_pos ⟨name, known, stands⟩
  have gone : ∀ i ∈ List.range (name.toList.length + 1),
      replacement names (slotText name ++ rest) (i + 1) = [] := by
    intro i inside
    rw [List.mem_range] at inside
    rw [replacement, if_neg (no_slot_inside name rest names (plain name known) i inside), if_pos]
    exact ⟨0, Nat.succ_pos i, name, known, stands, by rw [slot_length]; omega⟩
  rw [split, slot_length, List.range_succ_eq_map, List.flatMap_cons, List.flatMap_map, mark,
    List.flatMap_eq_nil_iff.mpr gone]
  rfl

theorem valuesInOrder_slot (value : String) (plain : Plain name)
    (found : placeholder? values (name.toList ++ '\x7d' :: rest) = some (value, name.length + 1)) :
    valuesInOrder values (slotText name ++ rest) = value :: valuesInOrder values rest := by
  have first : valueAt? values (slotText name ++ rest) 0 = some value := by
    rw [slot_append, valueAt_first, starts?, if_pos rfl, found]
    rfl
  have none_behind : ∀ i ∈ List.range (name.toList.length + 1),
      (valueAt? values (slotText name ++ rest) ∘ Nat.succ) i = none := by
    intro i inside
    have absent := no_slot_inside name rest (values.map Prod.fst) plain i (List.mem_range.mp inside)
    rwa [slotAt_iff, Bool.not_eq_true, Option.isSome_eq_false_iff, Option.isNone_iff_eq_none]
      at absent
  rw [valuesInOrder_append, slot_length, List.range_succ_eq_map, List.filterMap_cons_some first,
    List.filterMap_map, List.filterMap_eq_nil_iff.mpr none_behind]
  rfl

end Front

theorem plain_names (plain : ∀ entry ∈ values, Plain entry.1) :
    ∀ name ∈ values.map Prod.fst, Plain name := by
  intro name known
  rcases List.mem_map.mp known with ⟨entry, member, rfl⟩
  exact plain entry member

/-- Rendering replaces all placeholders at once. -/
theorem rendered_replaced (plain : ∀ entry ∈ values, Plain entry.1) (template : List Char) :
    rendered values template = replaced (values.map Prod.fst) template ∧
      listed values template = valuesInOrder values template := by
  have plainName := plain_names values plain
  induction template using render_induction values with
  | nil => exact ⟨rfl, rfl⟩
  | character c rest start ih =>
      rcases render_character values c rest start with ⟨text, list⟩
      rcases replaced_character values c rest start with ⟨marks, order⟩
      rw [text, list, marks, order, ih.1, ih.2]
      exact ⟨rfl, rfl⟩
  | slot name value rest member found ih =>
      rcases render_slot values name value rest found with ⟨text, list⟩
      have known : name ∈ values.map Prod.fst := List.mem_map_of_mem member
      rw [text, list, replaced_slot name rest _ plainName known,
        valuesInOrder_slot values name rest value (plain _ member) found, ih.1, ih.2]
      exact ⟨rfl, rfl⟩

end Replacement

/-! The loop over the braces of a template. -/

/-- A rendering under way: the text so far, the rest of the template, and the values so far. -/
structure Scan where
  output : List Char
  rest : List Char
  parameters : List String

section Loop

variable (values : List (String × String))

/-- The value of the name that goes up to the next closing brace, and what follows the brace. -/
def lookahead? (text : List Char) : Option (String × List Char) :=
  match text.dropWhile (· != '\x7d') with
  | [] => none
  | _ :: trail =>
      (values.lookup (String.ofList (text.takeWhile (· != '\x7d')))).map fun value => (value, trail)

/-- One round of the loop: the text up to the next opening brace is kept. A known placeholder at the
brace is replaced, and any other brace is kept by itself. -/
def Scan.next? (scan : Scan) : Option Scan :=
  match scan.rest.dropWhile (· != '\x7b') with
  | [] => none
  | _ :: after =>
      let kept := scan.output ++ scan.rest.takeWhile (· != '\x7b')
      match lookahead? values after with
      | some (value, trail) => some ⟨kept ++ [parameterMark], trail, scan.parameters ++ [value]⟩
      | none => some ⟨kept ++ ['\x7b'], after, scan.parameters⟩

theorem lookahead_shorter (text trail : List Char) (value : String)
    (found : lookahead? values text = some (value, trail)) : trail.length < text.length := by
  rw [lookahead?] at found
  split at found
  · cases found
  · next brace rest split =>
      rcases Option.map_eq_some_iff.mp found with ⟨_, _, same⟩
      cases same
      have suffix := (List.dropWhile_suffix (l := text) (· != '\x7d')).length_le
      rw [split, List.length_cons] at suffix
      exact suffix

theorem next_shorter (scan next : Scan) (round : scan.next? values = some next) :
    next.rest.length < scan.rest.length := by
  rw [Scan.next?] at round
  split at round
  · cases round
  · next brace after split =>
      have suffix := (List.dropWhile_suffix (l := scan.rest) (· != '\x7b')).length_le
      rw [split, List.length_cons] at suffix
      split at round
      · next value trail found =>
          cases round
          have shorter := lookahead_shorter values after trail value found
          show trail.length < scan.rest.length
          omega
      · cases round
        exact suffix

/-- The whole loop. Every round leaves less of the template. -/
def Scan.finish (scan : Scan) : List Char × List String :=
  match _round : scan.next? values with
  | none => (scan.output ++ scan.rest, scan.parameters)
  | some next => next.finish
termination_by scan.rest.length
decreasing_by exact next_shorter values scan next _round

theorem find_by_name (key : String) (test : String → Bool)
    (decides : ∀ entry ∈ values, test entry.1 = true ↔ entry.1 = key) :
    values.find? (fun entry => test entry.1) =
      (values.lookup key).map fun value => (key, value) := by
  induction values with
  | nil => rfl
  | cons entry rest ih =>
      rcases entry with ⟨name, value⟩
      have others := ih fun other member => decides other (List.mem_cons_of_mem _ member)
      have here : test name = true ↔ name = key := decides (name, value) List.mem_cons_self
      by_cases same : name = key
      · have found := here.mpr same
        subst same
        simp [found]
      · have passed := mt here.mp same
        have different : (key == name) = false := beq_eq_false_iff_ne.mpr (Ne.symm same)
        simpa [List.find?_cons, List.lookup_cons, passed, different] using others

theorem brace_split (brace c : Char) (text rest : List Char)
    (split : text.dropWhile (· != brace) = c :: rest) :
    text = text.takeWhile (· != brace) ++ brace :: rest := by
  have stops := List.head?_dropWhile_not (· != brace) text
  rw [split] at stops
  have same : c = brace := by simpa using stops
  rw [← same, ← split, same, List.takeWhile_append_dropWhile]

-- The name is read up to the next closing brace, which no known name holds. So at most one name is
-- compared with success, and it is the one whose placeholder stands there.
theorem lookahead_eq (plain : ∀ entry ∈ values, Plain entry.1) (text : List Char) :
    lookahead? values text =
      (placeholder? values text).map fun found => (found.1, text.drop found.2) := by
  rw [lookahead?]
  split
  · next closed =>
      cases found : placeholder? values text with
      | none => rfl
      | some entry =>
          rcases placeholder_some values text entry.1 entry.2 found with
            ⟨name, trail, member, _, rfl⟩
          rw [(name_before_brace name trail (plain _ member)).2] at closed
          cases closed
  · next brace trail opened =>
      have split := brace_split _ brace text trail opened
      generalize key : String.ofList (text.takeWhile (· != '\x7d')) = name
      have listed : text.takeWhile (· != '\x7d') = name.toList := by
        rw [← key, String.toList_ofList]
      rw [listed] at split
      have decides : ∀ entry ∈ values,
          (entry.1.toList ++ ['\x7d']).isPrefixOf text = true ↔ entry.1 = name := by
        intro entry member
        rw [List.isPrefixOf_iff_prefix]
        constructor
        · rintro ⟨more, same⟩
          rw [← same, List.append_assoc, List.singleton_append,
            (name_before_brace entry.1 more (plain entry member)).1] at listed
          exact String.toList_inj.mp listed
        · rintro rfl
          exact ⟨trail, by rw [List.append_assoc, List.singleton_append, ← split]⟩
      have behind : text.drop (name.length + 1) = trail := by rw [split, drop_name]
      have found := find_by_name values name (fun other =>
        (other.toList ++ ['\x7d']).isPrefixOf text) decides
      rw [placeholder?, found, Option.map_map, Option.map_map]
      simp only [Function.comp_def, behind]

theorem rendered_kept (before rest : List Char) (none_opens : '\x7b' ∉ before) :
    rendered values (before ++ rest) = before ++ rendered values rest ∧
      listed values (before ++ rest) = listed values rest := by
  induction before with
  | nil => exact ⟨rfl, rfl⟩
  | cons c before ih =>
      rw [List.mem_cons, not_or] at none_opens
      have start : starts? values c (before ++ rest) = none := if_neg (Ne.symm none_opens.1)
      rcases render_character values c (before ++ rest) start with ⟨text, list⟩
      rw [List.cons_append, text, list, (ih none_opens.2).1, (ih none_opens.2).2]
      exact ⟨rfl, rfl⟩

/-- What a rendering comes to when the rest of the template is rendered as well. -/
def Scan.total (scan : Scan) : List Char × List String :=
  (scan.output ++ rendered values scan.rest, scan.parameters ++ listed values scan.rest)

theorem not_mem_before (brace : Char) (text : List Char) :
    brace ∉ text.takeWhile (· != brace) := by
  intro member
  have passed := List.all_eq_true.mp List.all_takeWhile brace member
  simp at passed

theorem next_total (plain : ∀ entry ∈ values, Plain entry.1) (scan next : Scan)
    (round : scan.next? values = some next) : next.total values = scan.total values := by
  rw [Scan.next?] at round
  split at round
  · cases round
  · next brace after opened =>
      have split := brace_split _ brace scan.rest after opened
      have kept := rendered_kept values _ ('\x7b' :: after) (not_mem_before '\x7b' scan.rest)
      rw [← split] at kept
      rw [lookahead_eq values plain] at round
      cases found : placeholder? values after with
      | none =>
          rw [found] at round
          cases round
          have start : starts? values '\x7b' after = none := by rw [starts?, if_pos rfl, found]
          rcases render_character values '\x7b' after start with ⟨text, list⟩
          simp only [Scan.total, kept.1, kept.2, text, list, List.append_assoc,
            List.singleton_append]
      | some entry =>
          rcases placeholder_some values after entry.1 entry.2 found with
            ⟨name, trail, member, length, rfl⟩
          rw [found] at round
          cases round
          rcases render_slot values name entry.1 trail (by rw [found, ← length]) with ⟨text, list⟩
          rw [slot_append] at text list
          simp only [Scan.total, kept.1, kept.2, text, list, length, drop_name,
            List.append_assoc, List.singleton_append]

theorem next_none (scan : Scan) (ended : scan.next? values = none) : '\x7b' ∉ scan.rest := by
  rw [Scan.next?] at ended
  split at ended
  · next closed =>
      have whole := List.takeWhile_append_dropWhile (p := (· != '\x7b')) (l := scan.rest)
      rw [closed, List.append_nil] at whole
      rw [← whole]
      exact not_mem_before '\x7b' scan.rest
  · split at ended <;> cases ended

theorem finish_total (plain : ∀ entry ∈ values, Plain entry.1) (scan : Scan) :
    scan.finish values = scan.total values := by
  induction scan using Scan.finish.induct values with
  | case1 scan ended =>
      have kept := rendered_kept values scan.rest [] (next_none values scan ended)
      rw [List.append_nil] at kept
      rw [Scan.finish, Scan.total, kept.1, kept.2]
      split
      · simp [rendered, listed, renderAfter]
      · next next round =>
          rw [ended] at round
          cases round
  | case2 scan next round ih =>
      rw [← next_total values plain scan next round, ← ih, Scan.finish]
      split
      · next ended =>
          rw [round] at ended
          cases ended
      · next other same =>
          rw [round] at same
          cases same
          rfl

end Loop

/-- The value that stands for a placeholder is the first one that is listed for its name. -/
theorem valueAt_eq (values : List (String × String)) (plain : ∀ entry ∈ values, Plain entry.1)
    (template : List Char) (i : Nat) (name : String) (known : name ∈ values.map Prod.fst)
    (occurs : OccursAt (slotText name) template i) :
    valueAt? values template i = values.lookup name := by
  rcases List.mem_map.mp known with ⟨entry, member, rfl⟩
  have decides : ∀ other ∈ values,
      decide (OccursAt (slotText other.1) template i) = true ↔ other.1 = entry.1 := by
    intro other listed
    rw [decide_eq_true_iff]
    constructor
    · intro stands
      exact slot_unique _ _ template i (plain other listed) (plain entry member) stands occurs
    · intro same
      rwa [same]
  have found := find_by_name values entry.1
    (fun other => decide (OccursAt (slotText other) template i)) decides
  rw [valueAt?, found, Option.map_map]
  exact Option.map_id'

/-- The loop ends for every template. For names without braces its text is the template with a mark
in the place of every known placeholder and everything else kept, and the values of the placeholders
join the parameters from left to right, as they are listed. Placeholders never overlap, so no other
reading is possible. The rendering of conditions gives the same text and values. -/
theorem rendering_exact (values : List (String × String))
    (plain : ∀ entry ∈ values, Plain entry.1) (template : String) (parameters : List String) :
    Scan.finish values ⟨[], template.toList, parameters⟩ =
      (replaced (values.map Prod.fst) template.toList,
        parameters ++ valuesInOrder values template.toList) ∧
    render values template =
      (replaced (values.map Prod.fst) template.toList,
        valuesInOrder values template.toList) ∧
    (∀ i, ∀ name ∈ values.map Prod.fst, OccursAt (slotText name) template.toList i →
      valueAt? values template.toList i = values.lookup name) ∧
    ∀ i j, ∀ a ∈ values.map Prod.fst, ∀ b ∈ values.map Prod.fst,
      OccursAt (slotText a) template.toList i → OccursAt (slotText b) template.toList j → i ≤ j →
        (i = j ∧ a = b) ∨ i + (slotText a).length ≤ j := by
  have plainName := plain_names values plain
  rcases rendered_replaced values plain template.toList with ⟨text, list⟩
  refine ⟨?_, ?_, ?_, ?_⟩
  · rw [finish_total values plain, Scan.total, text, list, List.nil_append]
  · exact Prod.ext text list
  · intro i name known occurs
    exact valueAt_eq values plain template.toList i name known occurs
  · intro i j a knownA b knownB first second ordered
    rcases Nat.eq_or_lt_of_le ordered with rfl | later
    · exact .inl ⟨rfl, slot_unique a b _ i (plainName a knownA) (plainName b knownB) first second⟩
    · exact .inr (slots_apart a b _ i j (plainName a knownA) first second later)

/-- Braces that are doubled, nested, unknown or never closed stay, and so does a value that looks
like a placeholder. -/
theorem rendering_exact_nested :
    let values := [("pattern", "\x7bflags\x7d"), ("flags", "i"), ("pattern", "unused")]
    let template := "\x7b\x7bpattern\x7d\x7bx\x7bflags\x7d\x7bother\x7d\x7bpattern"
    (∀ entry ∈ values, Plain entry.1) ∧
    Scan.finish values ⟨[], template.toList, ["before"]⟩ =
      ("\x7b?\x7bx?\x7bother\x7d\x7bpattern".toList, ["before", "\x7bflags\x7d", "i"]) := by
  intro values template
  have plain : ∀ entry ∈ values, Plain entry.1 := by
    simp only [Plain]
    decide
  rcases rendering_exact values plain template ["before"] with ⟨loop, _⟩
  exact ⟨plain, loop.trans (by decide)⟩

end Gallery.Query.Template
