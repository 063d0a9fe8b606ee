import UptimeAlert.CommandLine.Run
import UptimeAlert.Platform.Standard

namespace UptimeAlert.CommandLine

/-- The variables that settings are read from. -/
def variableNames : List String :=
  SettingsGroup.all.flatMap Settings.fieldNames ++ SettingsGroup.all.map (·.name.toUpper) ++
    ["LOG_LEVEL"]

/-- The variables of the system that settings are read from, in small letters or in capital ones. -/
def systemEnvironment : IO Environment := do
  let spelled := variableNames.map String.toLower ++ variableNames
  let found ← spelled.mapM fun name => return (← IO.getEnv name).map fun value => (name, value)
  return found.filterMap id

def openError : IO.Error → OpenError
  | .noFileOrDirectory _ _ _ => .notFound
  | .inappropriateType _ code _ => if code = 21 then .isAFolder else .notAFolder
  | .invalidArgument _ _ _ => .nameTooLong
  | .permissionDenied _ _ _ => .system 13 "Permission denied"
  | other => .system 5 (toString other)

def systemFile (path : Path) : IO (Except OpenError (List UInt8)) := do
  if path.text.contains '\x00' then
    return .error .nulInName
  try
    let bytes ← IO.FS.readBinFile path.text
    return .ok bytes.toList
  catch e => return .error (openError e)

def systemFiles (arguments : List String) : IO Files := do
  let paths := match Invocation.read arguments with
    | .ok (.run r) =>
      r.monitor.toList ++ r.heartbeat.toList ++
        match r.template with
        | some (.file path) => [path]
        | _ => []
    | _ => []
  let contents ← paths.mapM fun path => return (path, ← systemFile path)
  return fun path => (contents.lookup path).getD (.error .notFound)

/-- What there is instead of a network. -/
def noTransport : TransportFailure := ⟨.system, "OSError", "no transport is available"⟩

def systemSurroundings (arguments : List String) : IO Surroundings := do
  let environmentFile ← systemFile (.ofString ".env")
  return {
    env := ← systemEnvironment
    files := ← systemFiles arguments
    environmentFile := environmentFile.toOption
    mail := fun _ => .failure noTransport
    webhook := fun _ => .failure { noTransport with cause := .webRequest } }

/-- Prints a report; a fault is told last. -/
def Report.print (r : Report) : IO UInt32 := do
  let errors ← IO.getStderr
  for entry in r.log do
    errors.putStrLn ("[" ++ entry.level.name ++ "] " ++ entry.message)
  errors.putStr r.errors
  IO.print r.output
  match r.ending with
  | .ok code => return code.number.toUInt32
  | .error fault =>
    errors.putStrLn fault.message
    return 1

end UptimeAlert.CommandLine

def main (arguments : List String) : IO UInt32 := do
  let surroundings ← UptimeAlert.CommandLine.systemSurroundings arguments
  (UptimeAlert.CommandLine.run surroundings arguments).print
