import Gallery.Library.Search

/-!
The ranking of similar pictures as a selection of picture rows: the condition that keeps a row, the
confidence that is computed for it, and the order of the rows.
-/

namespace Gallery.Library

/-- The text of the condition. The first parameter is a hash, the others are the identity of a
picture to leave out. -/
def rankingText : String :=
  "p.hash IS NOT NULL AND \"SIMILAR_HASHES\"(p.hash, ?) AND (? IS NULL OR p.id <> ?)"

def confidenceText : String :=
  "\"SIMILARITY_CONFIDENCE\"(p.hash, ?)"

def rankingCondition (hash except : Sql.Value) : Sql.Expression :=
  .and
    (.and (.distinct (.column (some "p") "hash") (.value .null))
      (.call "SIMILAR_HASHES" [.column (some "p") "hash", .value hash]))
    (.or (.same (.value except) (.value .null))
      (.compare .different (.column (some "p") "id") (.value except)))

def confidenceExpression (hash : Sql.Value) : Sql.Expression :=
  .call "SIMILARITY_CONFIDENCE" [.column (some "p") "hash", .value hash]

def isRankedBefore (a b : Picture × Sql.Value) : Bool :=
  ((b.2.order a.2).then ((Sql.Value.text a.1.path).order (.text b.1.path))).isLE

def rankedRows (library : Library) (platform : Platform) (hash : PictureHash) (except : Option Int) :
    Except Sql.FunctionError (List (Picture × Sql.Value)) := do
  let kept ← library.picturesWhere platform
    (rankingCondition (.integer hash.toInt) (idValue except))
  let rows ← kept.mapM fun picture => do
    let confidence ← (confidenceExpression (.integer hash.toInt)).evaluate (library.world platform)
      (pictureScope picture)
    return (picture, confidence)
  return rows.mergeSort isRankedBefore

def readRanked? : Picture × Sql.Value → Option (Picture × Float32)
  | (picture, .real confidence) => some (picture, Sql.toSingle confidence)
  | _ => none

end Gallery.Library
