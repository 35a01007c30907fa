import Introspect.Command.Notice
import Introspect.Command.Run

/-! The program.

    The arguments are read first. For a command, the files and variables that it can look at are
    gathered into a world, the command runs in that world, and what it printed and wrote is passed
    on. Databases are out of reach of this program, which works from snapshots. -/

namespace Introspect.Command

/-- What a path names on disk. -/
def entryAt? (path : String) : IO (Option Entry) := do
  try
    match String.fromUTF8? (← IO.FS.readBinFile path) with
    | some text => return some (.file text)
    | none => return some .binary
  catch
    | .noFileOrDirectory .. | .invalidArgument .. => return none
    | .inappropriateType _ code _ => return if code = 21 then some .directory else none
    | .permissionDenied .. => return some (.locked "Permission denied (os error 13)")
    | e => return some (.locked (toString e))

/-- A path with the paths that lead to it. -/
def stages (path : String) : List String :=
  let names := FileSystem.names path
  (List.range names.length).map fun i => "/".intercalate (names.take (i + 1))

/-- Adds what the paths name on disk to a file system, and the directories on the way. -/
def observe (fs : FileSystem) (paths : List String) : IO FileSystem :=
  (paths.flatMap stages).foldlM (fun fs path => do
    match ← entryAt? path with
    | some e =>
      let place := FileSystem.follow (fs.start path) (FileSystem.names path)
      return { fs with entries := (place, e) :: fs.entries }
    | none => return fs) fs

/-- The environment of the program, as far as the given variables go. -/
def getVariables (names : List String) : IO Environment := do
  let found ← names.filterMapM fun name => do return (← IO.getEnv name).map (name, ·)
  return .ofList found

/-- The home directory of an account in the system's list of accounts. -/
def homeOf? (accounts user : String) : Option String :=
  (accounts.splitOn "\n").findSome? fun line =>
    match line.splitOn ":" with
    | [_, _, number, _, _, home, _] => if number = user ∧ home ≠ "" then some home else none
    | _ => none

/-- The number of the account under which the program runs. -/
def userOf? (status : String) : Option String :=
  (status.splitOn "\n").findSome? fun line =>
    match line.splitOn "\t" with
    | "Uid:" :: user :: _ => some user
    | _ => none

/-- The directory for the user's configuration: the one named for it if that is absolute, else the
    one in the home directory, which is that of the account if no other is named. -/
def findConfigDirectory : IO (Option String) := do
  if let some directory := (← IO.getEnv "XDG_CONFIG_HOME").filter (·.startsWith "/") then
    return some directory
  if let some home := (← IO.getEnv "HOME").filter (· ≠ "") then
    return some (FileSystem.join home ".config")
  try
    let some user := userOf? (← IO.FS.readFile "/proc/self/status") | return none
    let home := homeOf? (← IO.FS.readFile "/etc/passwd") user
    return home.map fun home => FileSystem.join home ".config"
  catch _ => return none

/-- The paths that a command can look at before its settings are known. -/
def candidates (w : World) (i : Invocation) : List String :=
  [Flag.config, .snapshot, .queries, .output].filterMap i.value? ++
    (w.environment "SCHEMATA_CONFIG").toList ++
    "schemata.toml" :: (w.configDirectory.map Settings.userFile).toList

/-- What is said about texts that are refused. -/
def complaints : Complaints where
  settings _ := "not settings in TOML"
  definitions _ := "not query definitions in TOML"
  snapshot _ := "not a snapshot in JSON"

/-- The world in which a command runs. -/
def gather (i : Invocation) : IO World := do
  let world : World := {
    files := ⟨[], FileSystem.names (toString (← IO.currentDir)) |>.drop 1⟩
    environment := ← getVariables ["SCHEMATA_CONFIG"]
    configDirectory := ← findConfigDirectory
    complaints := complaints
    connect := fun _ _ => .error "databases are out of reach" }
  let world := { world with files := ← observe world.files (candidates world i) }
  match loadSettings world i with
  | .error _ => return world
  | .ok s =>
    let more ← getVariables ((s.connection.url.map references).getD [])
    return { world with
      files := ← observe world.files s.queries.toList
      environment := world.environment.orElse more }

/-- Runs a command and passes on what it does; the exit code tells whether it failed. -/
def perform (i : Invocation) : IO UInt32 := do
  let world ← gather i
  match run world i with
  | .error e =>
    IO.eprintln s!"Error: {e.message}"
    return 1
  | .ok (output, files) =>
    if let some path := i.value? .output then
      if let .ok text := files.read path then
        try IO.FS.writeFile path text
        catch e =>
          IO.eprintln s!"Error: {(Failure.writing path (.refused (toString e))).message}"
          return 1
    IO.print output.text
    return 0

end Introspect.Command

/-- The entry point. -/
def main (args : List String) : IO UInt32 := do
  match Introspect.Command.Request.parse args with
  | .version =>
    IO.print Introspect.Command.versionText
    return 0
  | .help topic =>
    IO.print (Introspect.Command.helpText topic)
    return 0
  | .misuse =>
    IO.eprint (Introspect.Command.helpText .program)
    return 2
  | .run i => Introspect.Command.perform i
