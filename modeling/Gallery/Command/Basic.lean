import Gallery.Settings
import Gallery.Text.RawText

/-!
The commands of the command line, and the options that change the settings for one command.
-/

namespace Gallery

/-- A command. Paths are given as bytes, since a file system need not name files in UTF-8. -/
inductive Command where
  | init
  | add (path : Text.RawText) (labels : List String)
  | tagType (label : String) (symbol : Char) (color : String)
  | tag (label : String) (symbol : Option Char) (definition : Option String)
  | define (label : String) (definition : Option String)
  | search (query : String)
  | hash (path : Text.RawText)
  | similar (path : Text.RawText)
  | rehash (path : Text.RawText)
  | remove (path : Text.RawText)
  | move (path newPath : Text.RawText)
  | merge (source target : Text.RawText)
  | renameTag (label newLabel : String)
  | deleteTag (label : String)
  | deleteTagType (symbol : Char)
  | listTags
  deriving DecidableEq, Repr

def Command.needsLibrary : Command → Bool
  | .hash _ => false
  | _ => true

structure CommonOptions where
  databaseUrl : Option String
  maxNodes : Option Nat
  caseSensitive : Bool
  deriving DecidableEq, Repr

namespace CommonOptions

def within (options outer : CommonOptions) : CommonOptions :=
  { databaseUrl := options.databaseUrl.or outer.databaseUrl
    maxNodes := options.maxNodes.or outer.maxNodes
    caseSensitive := options.caseSensitive || outer.caseSensitive }

def apply (options : CommonOptions) (settings : Settings) : Settings :=
  { compiler := {
      maxNodes := options.maxNodes.getD settings.compiler.maxNodes
      caseSensitive := options.caseSensitive || settings.compiler.caseSensitive }
    databaseUrl := options.databaseUrl.getD settings.databaseUrl }

end CommonOptions

end Gallery
