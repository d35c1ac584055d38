import FrontDoor.Server

namespace FrontDoor.Command

def ownVariables : IO (List (String × String)) := do
  let block ← IO.FS.readFile "/proc/self/environ"
  return (block.splitOn "\x00").filterMap fun entry ↦
    match entry.splitOn "=" with
    | name :: value@(_ :: _) => some (name, "=".intercalate value)
    | _ => none

def readFiles (paths : List String) : IO (List (String × String)) :=
  paths.filterMapM fun (path : String) ↦ do
    try return some (path, ← IO.FS.readFile path)
    catch _ => return none

def line (json : Bool) (e : Log.Event) : String :=
  let fields := Json.ofMembers (("message", .text e.message) :: e.fields)
  if json then
    (Json.ofMembers [("level", .text e.level.name), ("target", .text e.component.target),
      ("fields", fields)]).write
  else e.level.name ++ " " ++ e.component.target ++ ": " ++ fields.write

def write (output : Server.LogOutput) (w : World Server.Memory) : IO Unit :=
  (output.written w).forM fun e ↦ IO.println (line output.json e)

def run : IO UInt32 := do
  let vars ← ownVariables
  let files ← readFiles (Server.configFiles vars)
  match Server.configure (fun path ↦ Dict.find path files) vars with
  | .error e =>
    IO.eprintln ("Failed to load configuration: " ++ e.text)
    return 1
  | .ok config =>
    let output := Server.LogOutput.ofConfig vars config.logging
    output.complaints.forM fun complaint ↦ IO.eprintln complaint
    let (result, w) := (Server.startReporting config).run (World.start {})
    write output w
    match result with
    | .error abort =>
      IO.eprintln abort.message
      return 101
    | .ok (.error _) => return 1
    | .ok (.ok _) =>
      let _ ← (← IO.getStdin).readToEnd
      write output (Server.stop.run { w with events := [] }).2
      return 0

end FrontDoor.Command

def main : IO UInt32 := FrontDoor.Command.run
