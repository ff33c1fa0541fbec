import Gallery.Command.Workplace

/-!
The command line on the files of the machine.
-/

namespace Gallery.CommandLine

def observe (path : String) : IO (Except WalkError FileEntry) := do
  try
    let content ← IO.FS.readBinFile path
    return .ok (.file content.toList)
  catch error =>
    match error with
    | .inappropriateType _ 21 _ => return .ok .directory
    | .inappropriateType .. => return .error .notDirectory
    | _ => return .error .notFound

def filesFor (library : Library) (command : Command) : IO Files := do
  let entries ← (command.paths library).mapM fun path => return (path, ← observe path)
  return .ofList entries

def contentOf? (path : String) : IO (Option Text.RawText) := do
  match ← observe path with
  | .ok (.file content) => return some content
  | _ => return none

def environment : IO (String → Option String) := do
  let values ← Settings.variableNames.mapM fun name => return (name, ← IO.getEnv name)
  return fun name => (values.lookup name).join

def prepare (path : Option String) : IO Unit := do
  match path with
  | none => return
  | some path => try IO.FS.createDirAll path catch _ => return

def touch (path : String) : IO Bool := do
  try
    if (← contentOf? path).isNone then IO.FS.writeBinFile path .empty
    return true
  catch _ => return false

def runOnFile (settings : Settings) (command : Command) (path : String) : IO Command.Answer := do
  if !(← touch path) then return .error (.unopened .unreachable)
  match libraryOf (← contentOf? path) with
  | .error fault => return .error (.unopened fault)
  | .ok library =>
      let (changed, answer) := command.run settings (Host.platform (← filesFor library command)) library
      IO.FS.writeBinFile path (Storage.write changed).toUTF8
      return answer

def runCommand (settings : Settings) (command : Command) : IO Command.Answer := do
  if !command.needsLibrary then
    return (command.run settings (Host.platform (← filesFor .empty command)) .empty).2
  prepare (DatabaseUrl.directory? settings.databaseUrl)
  match DatabaseUrl.locate settings.databaseUrl with
  | .error fault => return .error (.unopened (.address fault))
  | .ok .memory => return (command.run settings (Host.platform (← filesFor .empty command)) .empty).2
  | .ok (.file path) => runOnFile settings command path

def run (arguments : List String) : IO Outcome := do
  match Arguments.parse (arguments.map (·.toUTF8.toList)) with
  | .error error => return .ofUsageError error
  | .ok (options, command) =>
      let content ← contentOf? variableFileName
      let settings := settingsIn (← environment) (content.getD [])
      return .ofAnswer (← runCommand (options.apply settings) command)

end Gallery.CommandLine

def main (arguments : List String) : IO UInt32 := do
  let outcome ← Gallery.CommandLine.run arguments
  outcome.printed.forM (IO.println ·)
  outcome.reported.forM (IO.eprintln ·)
  return outcome.code.toUInt32
