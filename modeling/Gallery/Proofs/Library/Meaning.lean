import Mathlib.Data.List.TakeWhile
import Gallery.Proofs.Library.Keys
import Gallery.Library.Search

/-!
What a query says about a picture, without any statement: a relation between an expression and the
truth value that it has on the picture, in which compound tags stand for their definitions. A query
that can be expanded has exactly one value on every picture, that of its expansion with the tags
that are left read as attachments.
-/

namespace Gallery

/-- The part of a path after the last separator, or the whole path when there is none. -/
def partAfter (separator : Char) (path : String) : String :=
  String.ofList (path.toList.reverse.takeWhile (· != separator)).reverse

/-- What is left of the part after the last separator when the path ends before its first NUL
character. -/
def partBeforeNul (separator : Char) (path : String) : String :=
  String.ofList ((path.toList.takeWhile (· != '\x00')).drop
    (path.length - (partAfter separator path).length))

/-- The path is shorter than the longest text that memory can hold, which has `2 ^ 63 - 1` bytes. -/
def FitsMemory (path : String) : Prop :=
  path.length < 0x7FFFFFFFFFFFFFFF

instance (path : String) : Decidable (FitsMemory path) :=
  inferInstanceAs (Decidable (path.length < 0x7FFFFFFFFFFFFFFF))

/-- A path has no separator, or the part after the last one is what follows it. -/
theorem partAfter_cases (separator : Char) (path : String) :
    separator ∉ path.toList ∧ partAfter separator path = path ∨
      ∃ before after, path.toList = before ++ separator :: after ∧ separator ∉ after ∧
        partAfter separator path = String.ofList after := by
  have split := List.takeWhile_append_dropWhile (p := (· != separator)) (l := path.toList.reverse)
  have absent : separator ∉ path.toList.reverse.takeWhile (· != separator) := fun member => by
    simpa using List.mem_takeWhile_imp member
  cases rest : path.toList.reverse.dropWhile (· != separator) with
  | nil =>
      rw [rest, List.append_nil] at split
      refine .inl ⟨by simpa [split] using absent, ?_⟩
      rw [partAfter, split, List.reverse_reverse, String.ofList_toList]
  | cons c before =>
      have stopped : c = separator := by
        simpa [rest] using List.head?_dropWhile_not (· != separator) path.toList.reverse
      refine .inr ⟨before.reverse, (path.toList.reverse.takeWhile (· != separator)).reverse, ?_,
        by simpa using absent, rfl⟩
      rw [rest, stopped] at split
      simpa using (congrArg List.reverse split).symm

/-- What follows a separator is the part after the last one, when it has none itself. -/
theorem partAfter_of_split (separator : Char) (path : String) (before after : List Char)
    (split : path.toList = before ++ separator :: after) (absent : separator ∉ after) :
    partAfter separator path = String.ofList after := by
  have others : ∀ c ∈ after.reverse, (c != separator) = true := by
    intro c member
    rw [bne_iff_ne]
    rintro rfl
    exact absent (List.mem_reverse.mp member)
  have turned : path.toList.reverse = after.reverse ++ separator :: before.reverse := by
    rw [split, List.reverse_append, List.reverse_cons, List.append_assoc]
    rfl
  rw [partAfter, turned, List.takeWhile_append_of_pos others]
  simp

theorem drop_partAfter (separator : Char) (path : String) :
    path.toList.drop (path.length - (partAfter separator path).length) =
      (partAfter separator path).toList := by
  rcases partAfter_cases separator path with ⟨_, whole⟩ | ⟨before, after, split, _, part⟩
  · simp [whole]
  · have long : path.length - (String.ofList after).length = before.length + 1 := by
      rw [← String.length_toList, split]
      simp
      omega
    rw [part, long, split]
    simp

theorem length_partAfter (separator : Char) (path : String) :
    (partAfter separator path).length ≤ path.length := by
  rcases partAfter_cases separator path with ⟨_, whole⟩ | ⟨before, after, split, _, part⟩
  · rw [whole]
  · rw [part, ← String.length_toList, ← String.length_toList, split]
    simp
    omega

/-- The part is cut off exactly when the path has a NUL character and the part is not empty. -/
theorem partBeforeNul_eq_iff (separator : Char) (path : String) :
    partBeforeNul separator path = partAfter separator path ↔
      '\x00' ∉ path.toList ∨ partAfter separator path = "" := by
  have short := length_partAfter separator path
  have kept := List.takeWhile_prefix (l := path.toList) (· != '\x00')
  constructor
  · intro same
    by_cases nul : '\x00' ∈ path.toList
    · right
      have fewer : (path.toList.takeWhile (· != '\x00')).length < path.length := by
        rw [← String.length_toList]
        refine Nat.lt_of_le_of_ne kept.length_le fun all => ?_
        rw [← kept.eq_of_length all] at nul
        simpa using List.mem_takeWhile_imp nul
      -- What stands behind the NUL is missing, so the lengths agree for an empty part only.
      have lengths := congrArg String.length same
      rw [partBeforeNul, String.length_ofList, List.length_drop] at lengths
      exact String.length_eq_zero_iff.mp (by omega)
    · exact .inl nul
  · rintro (absent | empty)
    · have whole : path.toList.takeWhile (· != '\x00') = path.toList :=
        List.takeWhile_eq_self_iff.mpr fun c member => by
          have apart : c ≠ '\x00' := fun same => absent (same ▸ member)
          simpa using apart
      rw [partBeforeNul, whole, drop_partAfter, String.ofList_toList]
    · have few := kept.length_le
      rw [String.length_toList] at few
      rw [partBeforeNul, empty, String.length_empty, Nat.sub_zero, List.drop_eq_nil_of_le few,
        String.ofList_nil]

/-- Both parts of a path are whole exactly when it has no NUL character. -/
theorem parts_whole_iff (path : String) :
    (∀ separator ∈ ['.', '/'], partBeforeNul separator path = partAfter separator path) ↔
      '\x00' ∉ path.toList := by
  constructor
  · intro whole nul
    -- An empty part stands behind its separator, and a path has one last character only.
    have last (separator : Char) (member : separator ∈ ['.', '/']) :
        path.toList.getLast? = some separator := by
      have empty : partAfter separator path = "" :=
        ((partBeforeNul_eq_iff separator path).mp (whole separator member)).resolve_left (· nul)
      rcases partAfter_cases separator path with ⟨_, part⟩ | ⟨before, after, split, _, part⟩
      · rw [← part, empty] at nul
        simp at nul
      · have nothing : after = [] := by simpa [part] using empty
        simp [split, nothing]
    have both := (last '.' (by simp)).symm.trans (last '/' (by simp))
    simp at both
  · intro absent separator _
    exact (partBeforeNul_eq_iff separator path).mpr (.inl absent)

/-- Whether a pattern matches the whole of a text, letter case counting by default when
`caseDefault` says so. A text that is no pattern matches nothing. -/
def fullyMatches (engine : Pattern.Engine) (caseDefault : Bool) (argument : Query.Argument)
    (text : String) : Bool :=
  match Pattern.matchesWhole engine text argument.pattern
    (Query.Condition.flagsOf caseDefault argument) with
  | .ok matched => matched
  | .error _ => false

namespace Library

/-- The type of the tag is the stored type with the symbol, when there is a symbol. -/
def Typed (library : Library) (tag : Tag) (symbol : Option Char) : Prop :=
  ∀ c ∈ symbol, ∃ stored ∈ library.tagTypes,
    stored.symbol = c.toString ∧ tag.typeId = some stored.id

/-- Whether the picture and the one stored at a path both have hashes and these are similar. -/
def isSimilarTo (library : Library) (picture : Picture) (path : String) : Bool :=
  match picture.hash, (library.pictureAt? path).bind (·.hash) with
  | some own, some other => own.isSimilar other
  | _, _ => false

section Meaning

variable (library : Library) (platform : Platform) (caseDefault : Bool)
  (part : Char → String → String) (picture : Picture)

/-- What a standard pseudo-tag says about a picture. `part` gives the part of a path after the last
separator. -/
def pseudoValue? (name : String) (argument : Option Query.Argument) : Option Bool :=
  match name, argument with
  | "ext", some argument =>
      some (fullyMatches platform.engine caseDefault argument (part '.' picture.path))
  | "name", some argument =>
      some (fullyMatches platform.engine caseDefault argument (part '/' picture.path))
  | "path", some argument => some (fullyMatches platform.engine caseDefault argument picture.path)
  | "similar_to", some argument => some (library.isSimilarTo picture argument.pattern)
  | "no_file", none => some (!platform.files.contains picture.path)
  | "no_tags", none => some (!library.attachments.any (·.picture == picture.id))
  | _, _ => none

/-- `Means … expr value`: the expression has the value on the picture. -/
inductive Means : Query.Expr → Bool → Prop where
  | unknown (label : String) (symbol : Option Char) (absent : library.tag? label = none) :
      Means (.tag label symbol) false
  | mistyped (label : String) (symbol : Option Char) (tag : Tag)
      (found : library.tag? label = some tag) (other : ¬library.Typed tag symbol) :
      Means (.tag label symbol) false
  | compound (label : String) (symbol : Option Char) (tag : Tag) (definition : String)
      (body : Query.Expr) (value : Bool) (found : library.tag? label = some tag)
      (typed : library.Typed tag symbol) (defined : tag.definition = some definition)
      (parsed : Query.parse definition = .ok body) (meaning : Means body value) :
      Means (.tag label symbol) value
  | leaf (label : String) (symbol : Option Char) (tag : Tag)
      (found : library.tag? label = some tag) (typed : library.Typed tag symbol)
      (plain : tag.definition = none) :
      Means (.tag label symbol) (library.attachments.contains ⟨picture.id, tag.id⟩)
  | pseudo (name : String) (argument : Option Query.Argument) (value : Bool)
      (known : pseudoValue? library platform caseDefault part picture name argument = some value) :
      Means (.pseudo name argument) value
  | and (left right : Query.Expr) (first second : Bool) (meansLeft : Means left first)
      (meansRight : Means right second) : Means (.and left right) (first && second)
  | or (left right : Query.Expr) (first second : Bool) (meansLeft : Means left first)
      (meansRight : Means right second) : Means (.or left right) (first || second)
  | not (operand : Query.Expr) (value : Bool) (meaning : Means operand value) :
      Means (.not operand) (!value)

/-- What a reference to a stored tag can mean. -/
theorem means_reference (label : String) (symbol : Option Char) (tag : Tag) (value : Bool)
    (found : library.tag? label = some tag)
    (means : Means library platform caseDefault part picture (.tag label symbol) value) :
    ¬library.Typed tag symbol ∧ value = false ∨ library.Typed tag symbol ∧
      (tag.definition = none ∧ value = library.attachments.contains ⟨picture.id, tag.id⟩ ∨
        ∃ definition body, tag.definition = some definition ∧ Query.parse definition = .ok body ∧
          Means library platform caseDefault part picture body value) := by
  cases means with
  | unknown _ _ absent => simp [found] at absent
  | mistyped _ _ other found' mistyped =>
      cases found.symm.trans found'
      exact .inl ⟨mistyped, rfl⟩
  | compound _ _ other definition body _ found' typed defined parsed meaning =>
      cases found.symm.trans found'
      exact .inr ⟨typed, .inr ⟨definition, body, defined, parsed, meaning⟩⟩
  | leaf _ _ other found' typed plain =>
      cases found.symm.trans found'
      exact .inr ⟨typed, .inl ⟨plain, rfl⟩⟩

theorem means_unique (expr : Query.Expr) (a b : Bool)
    (first : Means library platform caseDefault part picture expr a)
    (second : Means library platform caseDefault part picture expr b) : a = b := by
  have refers := means_reference library platform caseDefault part picture
  induction first generalizing b with
  | unknown label symbol absent =>
      cases second with
      | unknown | mistyped => rfl
      | compound _ _ _ _ _ _ found | leaf _ _ _ found => simp [absent] at found
  | mistyped label symbol tag found other =>
      rcases refers label symbol tag b found second with ⟨_, rfl⟩ | ⟨typed, _⟩
      · rfl
      · exact absurd typed other
  | compound label symbol tag definition body value found typed defined parsed meaning ih =>
      rcases refers label symbol tag b found second with
        ⟨other, _⟩ | ⟨_, ⟨plain, _⟩ | ⟨_, _, defined', parsed', meaning'⟩⟩
      · exact absurd typed other
      · simp [defined] at plain
      · cases defined.symm.trans defined'
        cases parsed.symm.trans parsed'
        exact ih b meaning'
  | leaf label symbol tag found typed plain =>
      rcases refers label symbol tag b found second with
        ⟨other, _⟩ | ⟨_, ⟨_, rfl⟩ | ⟨_, _, defined, _⟩⟩
      · exact absurd typed other
      · rfl
      · simp [plain] at defined
  | pseudo name argument value known =>
      cases second with
      | pseudo _ _ _ known' =>
          rw [known, Option.some.injEq] at known'
          exact known'
  | and left right first second meansLeft meansRight ihLeft ihRight =>
      cases second with
      | and _ _ _ _ otherLeft otherRight => rw [ihLeft _ otherLeft, ihRight _ otherRight]
  | or left right first second meansLeft meansRight ihLeft ihRight =>
      cases second with
      | or _ _ _ _ otherLeft otherRight => rw [ihLeft _ otherLeft, ihRight _ otherRight]
  | not operand value meaning ih =>
      cases second with
      | not _ _ other => rw [ih _ other]

end Meaning

end Library

end Gallery
