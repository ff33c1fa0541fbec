import Gallery.Proofs.Library.Expansion
import Gallery.Proofs.Sql.Evaluation

/-!
The conditions that stand for the leaves of a query: what each says of a picture row, and that the
names in it stand for something.
-/

namespace Gallery

namespace Sql

theorem rinstr_separator (path : String) (separator : Char) :
    rinstr path separator.toString = path.length - (partAfter separator path).length := by
  have single : separator.toString.toList = [separator] := by simp
  have nonempty : separator.toString.isEmpty = false := by simp [← String.toList_inj]
  rw [rinstr, nonempty, single]
  simp only [Bool.false_eq_true, ↓reduceIte]
  rcases partAfter_cases separator path with ⟨absent, whole⟩ | ⟨before, after, split, absent, part⟩
  · rw [lastOccurrence_absent _ _ _ absent, whole]
    omega
  · rw [split, lastOccurrence_last _ _ _ _ absent (by omega), part, ← String.length_toList, split]
    simp
    omega

end Sql

namespace Library

/-! The columns of a picture row. -/

section Columns

variable (picture : Picture) (row : Option String) (name : String) (scope : Sql.Scope)
  (named : row.all (Sql.sameName name) = true)

include named

theorem find_id :
    Sql.Scope.find? (⟨name, pictureColumns, pictureRow picture⟩ :: scope) row "id" =
      some (.number, .integer picture.id) := by
  simp [Sql.Scope.find?, named, pictureColumns, pictureRow, Sql.findColumn?]

theorem find_path :
    Sql.Scope.find? (⟨name, pictureColumns, pictureRow picture⟩ :: scope) row "path" =
      some (.text, .text picture.path) := by
  have isNotId := Sql.names_apart ("id", "path") (by simp)
  simp [Sql.Scope.find?, named, pictureColumns, pictureRow, Sql.findColumn?, isNotId]

theorem find_hash :
    Sql.Scope.find? (⟨name, pictureColumns, pictureRow picture⟩ :: scope) row "hash" =
      some (.number, idValue (picture.hash.map PictureHash.toInt)) := by
  have isNotId := Sql.names_apart ("id", "hash") (by simp)
  have isNotPath := Sql.names_apart ("path", "hash") (by simp)
  simp [Sql.Scope.find?, named, pictureColumns, pictureRow, Sql.findColumn?, isNotId, isNotPath]

end Columns

section Path

variable (picture : Picture) (world : Sql.World)

theorem evaluate_path :
    Query.pathExpression.evaluate world (pictureScope picture) = .ok (.text picture.path) := by
  rw [Query.pathExpression, Sql.Expression.evaluate, pictureScope,
    find_path picture (some "p") "p" [] (by simp)]
  rfl

theorem evaluate_part (separator : Char) (short : FitsMemory picture.path) :
    (Query.partExpression separator.toString).evaluate world (pictureScope picture) =
      .ok (.text (partBeforeNul separator picture.path)) := by
  have path := evaluate_path picture world
  -- The position comes from the whole path, but a built-in function reads its text up to the first
  -- NUL character only.
  have last := Sql.rinstr_separator picture.path separator
  have position := Sql.evaluate_call world (pictureScope picture) "RINSTR"
    [Query.pathExpression, .value (.text separator.toString)] _ _
    (Sql.evaluateAll_cons _ _ _ _ _ _ path (Sql.evaluateAll_values _ _ [.text separator.toString]))
    (Sql.call_additional world "RINSTR" _ (by decide))
  have start : (Sql.Expression.arithmetic .add (.call "RINSTR"
      [Query.pathExpression, .value (.text separator.toString)]) (.value (.integer 1))).evaluate
      world (pictureScope picture) =
        .ok (.integer ((Sql.rinstr picture.path separator.toString : Int) + 1)) := by
    rw [FitsMemory] at short
    rw [← Sql.next_position _ (by omega), Sql.Expression.evaluate, position]
    rfl
  refine Sql.evaluate_call world (pictureScope picture) "SUBSTR" _ _ _
    (Sql.evaluateAll_cons _ _ _ _ _ _ path (Sql.evaluateAll_cons _ _ _ _ _ _ start rfl))
    ((Sql.call_substr _ _ _).trans ?_)
  simp only [Sql.Value.isNull, Sql.Value.toNumber, Sql.Value.wholePart, Sql.substringFrom_next,
    last, Bool.or_self, Bool.false_eq_true, ↓reduceIte]
  rfl

theorem evaluate_match (expression : Sql.Expression) (text pattern flags : String)
    (evaluated : expression.evaluate world (pictureScope picture) = .ok (.text text)) :
    (Query.matchExpression expression pattern flags).evaluate world (pictureScope picture) =
      ((Pattern.matchesWhole world.engine text pattern flags).map Sql.truth).mapError
        .invalidPattern :=
  (Sql.evaluate_call world (pictureScope picture) "REGEX" _ _ _
    (Sql.evaluateAll_cons _ _ _ _ _ _ evaluated
      (Sql.evaluateAll_values _ _ [.text pattern, .text flags]))
    (Sql.call_additional world "REGEX" _ (by decide))).trans
    (Sql.regex_texts world.engine text pattern flags)

end Path

section Leaves

variable (library : Library) (platform : Platform) (picture : Picture)

theorem evaluate_noFile :
    Query.noFileExpression.evaluate (library.world platform) (pictureScope picture) =
      .ok (Sql.truth (!platform.files.contains picture.path)) :=
  Sql.evaluate_not _ _ _ _ (Sql.evaluate_call (library.world platform) (pictureScope picture)
    "FILE_EXISTS" [Query.pathExpression] [.text picture.path] _
    (Sql.evaluateAll_cons _ _ _ _ _ _ (evaluate_path picture _) rfl)
    (Sql.call_additional _ "FILE_EXISTS" _ (by decide)))

/-! The attachments. -/

/-- The scope of a condition on an attachment. -/
def attachmentScope (attachment : Attachment) : Sql.Scope :=
  ⟨"pt", [("picture_id", .number), ("tag_id", .number)],
    [.integer attachment.picture, .integer attachment.tag]⟩ :: pictureScope picture

theorem evaluate_ofPicture (world : Sql.World) (attachment : Attachment) :
    (Query.equalExpression (.column (some "pt") "picture_id")
      (.column (some "p") "id")).evaluate world (attachmentScope picture attachment) =
      .ok (Sql.truth (attachment.picture == picture.id)) := by
  have isOther := Sql.names_apart ("pt", "p") (by simp)
  refine Sql.evaluate_equal _ _ _ _ _ _ ?_ ?_ ?_
  · simp [Sql.Expression.affinity?, Sql.Scope.find?, Sql.findColumn?, attachmentScope]
  · simp [Sql.Expression.evaluate, Sql.Scope.find?, Sql.findColumn?, attachmentScope]
  · simp [Sql.Expression.evaluate, Sql.Scope.find?, Sql.findColumn?, isOther, attachmentScope,
      pictureScope, pictureColumns, pictureRow]

theorem evaluate_ofTag (world : Sql.World) (attachment : Attachment) (tag : Int)
    (positive : 0 < tag) :
    (Query.equalExpression (.column (some "pt") "tag_id")
      (Query.numberExpression tag)).evaluate world (attachmentScope picture attachment) =
      .ok (Sql.truth (attachment.tag == tag)) := by
  have isOther := Sql.names_apart ("picture_id", "tag_id") (by simp)
  refine Sql.evaluate_equal _ _ _ _ _ _ ?_ ?_ ?_
  · simp [Sql.Expression.affinity?, Sql.Scope.find?, Sql.findColumn?, attachmentScope, isOther]
  · simp [Sql.Expression.evaluate, Sql.Scope.find?, Sql.findColumn?, attachmentScope, isOther]
  · rw [Query.numberExpression, if_neg (by omega), Sql.Expression.evaluate]

theorem evaluate_noTags :
    Query.noTagsExpression.evaluate (library.world platform) (pictureScope picture) =
      .ok (Sql.truth (!library.attachments.any (·.picture == picture.id))) :=
  Sql.evaluate_not _ _ _ _ (Sql.evaluate_anyRow (library.world platform) (pictureScope picture) _
    "picture_tag" "pt" _ _ library.attachments _
    (fun attachment => attachment.picture == picture.id)
    (fun attachment _ => evaluate_ofPicture picture _ attachment) rfl)

theorem evaluate_carries (tag : Int) (positive : 0 < tag) :
    (Query.carriesExpression tag).evaluate (library.world platform) (pictureScope picture) =
      .ok (Sql.truth (library.attachments.contains ⟨picture.id, tag⟩)) := by
  have same : library.attachments.contains ⟨picture.id, tag⟩ =
      library.attachments.any fun attachment =>
        attachment.picture == picture.id && attachment.tag == tag := by
    rw [Bool.eq_iff_iff, List.any_eq_true, List.contains_iff_mem]
    constructor
    · intro member
      exact ⟨_, member, by simp⟩
    · rintro ⟨⟨owner, carried⟩, member, same⟩
      simp only [Bool.and_eq_true, beq_iff_eq] at same
      rcases same with ⟨rfl, rfl⟩
      exact member
  rw [same]
  exact Sql.evaluate_anyRow (library.world platform) (pictureScope picture) _ "picture_tag" "pt" _ _
    library.attachments _ _
    (fun attachment _ => Sql.evaluate_and _ _ _ _ _ _ (evaluate_ofPicture picture _ attachment)
      (evaluate_ofTag picture _ attachment tag positive)) rfl

/-! The hashes. -/

theorem ofInt_toInt (hash : PictureHash) : PictureHash.ofInt hash.toInt = hash := by
  simp [PictureHash.ofInt, PictureHash.toInt]

theorem similar_hashes (own other : Option PictureHash) :
    Sql.similarHashesValue (idValue (own.map PictureHash.toInt))
      (idValue (other.map PictureHash.toInt)) =
      .ok (Sql.truth (match own, other with
        | some own, some other => own.isSimilar other
        | _, _ => false)) := by
  cases own with
  | none => rfl
  | some own =>
      cases other with
      | none => rfl
      | some other => simp [Sql.similarHashesValue, idValue, Sql.Value.isNull, ofInt_toInt]

theorem evaluate_hash (world : Sql.World) :
    (Sql.Expression.column (some "p") "hash").evaluate world (pictureScope picture) =
      .ok (idValue (picture.hash.map PictureHash.toInt)) := by
  rw [Sql.Expression.evaluate, pictureScope, find_hash picture (some "p") "p" [] (by simp)]
  rfl

theorem evaluate_hasHash (world : Sql.World) :
    (Sql.Expression.distinct (.column (some "p") "hash") (.value .null)).evaluate world
      (pictureScope picture) = .ok (Sql.truth picture.hash.isSome) := by
  have found := find_hash picture (some "p") "p" [] (by simp)
  simp only [Sql.Expression.evaluate, Sql.Expression.affinity?,
    pictureScope, found]
  cases picture.hash with
  | none => rfl
  | some hash => rfl

theorem evaluate_isAt (world : Sql.World) (scope : Sql.Scope) (path : String) :
    (Query.equalExpression (.column none "path") (.value (.text path))).evaluate world
      (⟨"pictures", pictureColumns, pictureRow picture⟩ :: scope) =
      .ok (Sql.truth (picture.path == path)) := by
  have found := find_path picture none "pictures" scope rfl
  simp only [Query.equalExpression, Sql.Expression.evaluate, Sql.Expression.affinity?, found]
  rw [← Sql.text_order]
  rfl

theorem evaluate_hashAt (path : String) :
    (Sql.Expression.select .firstResult (.column none "hash") "pictures" "pictures"
        (Query.equalExpression (.column none "path") (.value (.text path)))).evaluate
      (library.world platform) (pictureScope picture) =
      .ok (idValue (((library.pictureAt? path).bind (·.hash)).map PictureHash.toInt)) := by
  -- The row of the outer picture is in scope too, yet both columns are those of the inner one.
  rw [Sql.evaluate_firstResult (library.world platform) (pictureScope picture) _ "pictures" "pictures"
    _ pictureColumns library.pictures pictureRow (fun other => other.path == path)
    (fun other _ => evaluate_isAt other _ _ path) rfl, pictureAt?]
  cases library.pictures.find? (·.path == path) with
  | none => rfl
  | some other =>
      have found := find_hash other none "pictures" (pictureScope picture) rfl
      simp only [Sql.Expression.evaluate, found]
      rfl

theorem evaluate_similar (path : String) :
    (Query.similarExpression path).evaluate (library.world platform) (pictureScope picture) =
      .ok (Sql.truth (library.isSimilarTo picture path)) := by
  have alike := Sql.evaluate_call (library.world platform) (pictureScope picture) "SIMILAR_HASHES"
    _ _ _ (Sql.evaluateAll_cons _ _ _ _ _ _ (evaluate_hash picture _)
      (Sql.evaluateAll_cons _ _ _ [] _ [] (evaluate_hashAt library platform picture path) rfl))
    (Sql.call_additional _ "SIMILAR_HASHES" _ (by decide))
  -- A picture without a hash is similar to none, as the first half of the condition says already.
  have both := Sql.evaluate_and _ _ _ _ _ _ (evaluate_hasHash picture (library.world platform))
    (alike.trans (similar_hashes _ _))
  refine both.trans ?_
  rw [isSimilarTo]
  cases picture.hash <;> rfl

end Leaves

/-! Names. -/

/-- The scope in which the names of a condition must stand for something. -/
def conditionScope : Sql.Scope :=
  [⟨"p", pictureColumns, []⟩]

section Names

variable (library : Library) (platform : Platform) (world : Sql.World)

theorem known_call (name : String) (arguments : List Sql.Value)
    (additional : name ∈ Sql.additionalNames)
    (known : (Sql.callFunction? world.engine world.fileExists name arguments).isSome = true) :
    (Sql.callAny? world name arguments).isSome = true := by
  rwa [Sql.call_additional world name arguments additional]

theorem resolved_path : Query.pathExpression.isResolved world conditionScope = true := by
  simp [Query.pathExpression, Sql.Expression.isResolved, Sql.Scope.hasColumn, conditionScope,
    pictureColumns]

theorem resolved_part (separator : String) :
    (Query.partExpression separator).isResolved world conditionScope = true := by
  have rinstr := known_call world "RINSTR" [.null, .null] (by decide) rfl
  simp [Query.partExpression, Sql.Expression.isResolved, Sql.Expression.areResolved, rinstr,
    Sql.call_substr, resolved_path]

theorem resolved_match (text : Sql.Expression) (pattern flags : String)
    (resolved : text.isResolved world conditionScope = true) :
    (Query.matchExpression text pattern flags).isResolved world conditionScope = true := by
  have regex := known_call world "REGEX" [.null, .null, .null] (by decide) rfl
  simp [Query.matchExpression, Sql.Expression.isResolved, Sql.Expression.areResolved, regex,
    resolved]

theorem resolved_carries (tag : Int) :
    (Query.carriesExpression tag).isResolved (library.world platform) conditionScope = true := by
  have number (world : Sql.World) (scope : Sql.Scope) :
      (Query.numberExpression tag).isResolved world scope = true := by
    rw [Query.numberExpression]
    split <;> rfl
  simp [Query.carriesExpression, Query.equalExpression, Sql.Expression.isResolved, number,
    Sql.Scope.hasColumn, conditionScope, pictureColumns, world, table?]

theorem resolved_standard (caseDefault : Bool) (name : String) (argument : Option Query.Argument)
    (expression : Sql.Expression)
    (standard : Query.standardExpression? caseDefault name argument = some expression) :
    expression.isResolved (library.world platform) conditionScope = true := by
  unfold Query.standardExpression? at standard
  split at standard <;> cases standard
  · exact resolved_match _ _ _ _ (resolved_part _ _)
  · exact resolved_match _ _ _ _ (resolved_part _ _)
  · exact resolved_match _ _ _ _ (resolved_path _)
  · have alike := known_call (library.world platform) "SIMILAR_HASHES" [.null, .null]
      (by decide) rfl
    have table : (library.world platform).table? "pictures" =
        some ⟨pictureColumns, library.pictures.map pictureRow⟩ := rfl
    simp [Query.similarExpression, Query.equalExpression, Sql.Expression.isResolved,
      Sql.Expression.areResolved, Sql.Scope.hasColumn, conditionScope, alike, table,
      pictureColumns]
  · have exist := known_call (library.world platform) "FILE_EXISTS" [.null] (by decide) rfl
    simp [Query.noFileExpression, Sql.Expression.isResolved, Sql.Expression.areResolved,
      resolved_path, exist]
  · simp [Query.noTagsExpression, Query.equalExpression, Sql.Expression.isResolved,
      Sql.Scope.hasColumn, conditionScope, pictureColumns, world, table?]

end Names

end Library

end Gallery
