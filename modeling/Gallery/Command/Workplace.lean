import Gallery.Command.Arguments
import Gallery.Command.Execution
import Gallery.Command.VariableFile
import Gallery.Files.FileTree
import Gallery.Library.Storage
import Gallery.Host.Platform

/-!
Running command lines in a working directory. The settings come from variables, those of the file
`.env` where the environment sets none, and from options. Every command but the one that only shows
a hash opens the library and makes it when there is none; what the command changed is stored also
when it stopped.
-/

namespace Gallery

open Text (RawText)

structure Outcome where
  code : Nat
  printed : List String
  reported : List String
  deriving DecidableEq, Repr

namespace Outcome

def ofUsageError (error : Arguments.UsageError) : Outcome :=
  ⟨2, [], ["error: " ++ error.message]⟩

def ofAnswer : Command.Answer → Outcome
  | .ok lines => ⟨0, lines, []⟩
  | .error stop => ⟨stop.code, [], [stop.line]⟩

end Outcome

def variableFileName : String := ".env"

def settingsIn (environment : String → Option String) (content : RawText) : Settings :=
  .ofVariables (VariableFile.valueOf? environment (VariableFile.read environment content))

def libraryOf : Option RawText → Except OpenFault Library
  | none => .ok .empty
  | some content =>
      match content.text?.bind Storage.read with
      | some library => .ok library
      | none => .error .notLibrary

namespace FileTree

def contentOf (tree : FileTree) (path : String) : RawText :=
  match tree.find path with
  | .ok (.file content) => content
  | _ => []

def openLibrary (tree : FileTree) (names : List String) : Except OpenFault Library :=
  if names.isEmpty || !tree.isDirectory names.dropLast then .error .unreachable
  else
    match tree.entry? names with
    | none => libraryOf none
    | some .directory => .error .unreachable
    | some (.file content) => libraryOf (some content)

def runAt (tree : FileTree) (settings : Settings) (command : Command) :
    Except DatabaseUrl.AddressFault DatabaseUrl.Location → FileTree × Command.Answer
  | .error fault => (tree, .error (.unopened (.address fault)))
  | .ok .memory => (tree, (command.run settings (Host.platform tree.view) .empty).2)
  | .ok (.file path) =>
      match namesOf? path with
      | none => (tree, .error (.unopened .unreachable))
      | some names =>
          match tree.openLibrary names with
          | .error fault => (tree, .error (.unopened fault))
          | .ok library =>
              let (changed, answer) := command.run settings (Host.platform tree.view) library
              (tree.put names (.file (Storage.write changed).toUTF8.toList), answer)

def prepare (tree : FileTree) (url : String) : FileTree :=
  match (DatabaseUrl.directory? url).bind namesOf? with
  | some names => tree.makeDirectories names
  | none => tree

def runCommand (tree : FileTree) (settings : Settings) (command : Command) :
    FileTree × Command.Answer :=
  if command.needsLibrary then
    (tree.prepare settings.databaseUrl).runAt settings command
      (DatabaseUrl.locate settings.databaseUrl)
  else (tree, (command.run settings (Host.platform tree.view) .empty).2)

def run (tree : FileTree) (environment : String → Option String) (arguments : List RawText) :
    FileTree × Outcome :=
  match Arguments.parse arguments with
  | .error error => (tree, .ofUsageError error)
  | .ok (options, command) =>
      let settings := settingsIn environment (tree.contentOf variableFileName)
      let (changed, answer) := tree.runCommand (options.apply settings) command
      (changed, .ofAnswer answer)

end FileTree

end Gallery
