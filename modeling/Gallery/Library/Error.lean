import Gallery.Catalogue
import Gallery.Files.ImageFile
import Gallery.Sql.Limit
import Gallery.Text.Quoted
import Gallery.Text.Record

/-!
What goes wrong in a library. A statement that fails is named together with what was being done.
-/

namespace Gallery

inductive Activity where
  | readCatalogue
  | insertTagType (label : String)
  | insertPicture (path : String)
  | attachTag (picture : Int) (label : String)
  | queryPictures
  | updateTagType (symbol : Char)
  deriving DecidableEq, Repr

def Activity.text : Activity → String
  | readCatalogue => "QueryCatalog"
  | insertTagType label => Text.record "InsertTagType" [("label", Text.quoted label)]
  | insertPicture path => Text.record "InsertPicture" [("path", Text.quoted path)]
  | attachTag picture label =>
      Text.record "AttachTag" [("picture_id", toString picture), ("label", Text.quoted label)]
  | queryPictures => "QueryPictures"
  | updateTagType symbol => Text.record "UpdateTagType" [("symbol", Text.quotedChar symbol)]

inductive StatementFault where
  /-- Another row has the same value in a column, named with its table. -/
  | notUnique (column : String)
  | noSuchRow
  | undecodable
  | function (message : String)
  | meaningless
  | beyond (limit : Sql.Limit)
  | locked
  deriving DecidableEq, Repr

inductive LibraryError where
  | refused (error : CatalogueError)
  | failed (activity : Activity) (statement : String) (fault : StatementFault)
  | transaction (fault : StatementFault)
  | cancelled
  deriving DecidableEq, Repr

def LibraryError.message : LibraryError → String
  | refused error => error.message
  | failed activity statement _ =>
      "Query failed during " ++ activity.text ++ ": sql=" ++ statement
  | transaction _ => "Failed to operate transaction"
  | cancelled => "Query cancelled"

/-! The statements that may fail. -/
namespace Statement

def tagTypes : String := "SELECT id, label, symbol, color FROM tag_types ORDER BY id"

def tagTypeBySymbol : String := "SELECT id, label, symbol, color FROM tag_types WHERE symbol = ?"

def tagByLabel : String := "SELECT id, label, type_id, definition FROM tags WHERE label = ?"

def insertTagType : String := "INSERT INTO tag_types (label, symbol, color) VALUES (?, ?, ?)"

def updateTagType : String :=
  "UPDATE tag_types SET label = ?, symbol = ?, color = ? WHERE id = ?"

def insertPicture : String := "INSERT INTO pictures (path, hash) VALUES (?, ?)"

def attachTag : String := "INSERT OR IGNORE INTO picture_tag (picture_id, tag_id) VALUES (?, ?)"

end Statement

inductive Failure where
  | query (error : Query.QueryError)
  | library (error : LibraryError)
  | hash (error : HashError)
  | unknownPicture (id : Int)
  | invalidPath (path : Text.RawText)
  deriving DecidableEq, Repr

namespace Failure

def message : Failure → String
  | query error => error.message
  | library error => error.message
  | hash error => error.message
  | unknownPicture id => "picture not found: " ++ toString id
  | invalidPath path => "path is not valid UTF-8: " ++ path.lossy

def isCancelled : Failure → Bool
  | library .cancelled => true
  | _ => false

end Failure

end Gallery
