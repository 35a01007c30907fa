import Introspect.Catalog.Codec
import Introspect.Command.Arguments
import Introspect.Query.Codec
import Introspect.Settings.Basic

/-! Running a command.

    The world of a run is a file system, an environment, the place of the user's files and the
    databases that can be reached, and what parsers say about the texts that they refuse. The
    settings come first, then the definitions of a command that has any, then the catalog, and at
    last the command does its work; the first of these to fail ends the run. The catalog is a
    snapshot in a file if one is named, and a database otherwise.

    `inspect` prints the schema and its types, with the fields of every record in order of their names,
    `resolve` the whole code model, `check` a summary of it, and `snapshot` writes down what the
    catalog says. -/

namespace Introspect.Command

/-- What the parsers say about a text that they refuse, by what is looked for in it. -/
structure Complaints where
  settings : String → String
  definitions : String → String
  snapshot : String → String

/-- What a run can see and reach. -/
structure World where
  files : FileSystem
  environment : Environment
  /-- The directory for the user's configuration, if there is one. -/
  configDirectory : Option String
  complaints : Complaints
  /-- The catalog of the database with the given URL, over at most so many connections, or the reason
      why it cannot be reached. -/
  connect : String → UInt32 → Except String Catalog

/-- Why a run fails. -/
inductive Failure
  | settings (e : SettingsError)
  | reading (path : String) (fault : FileFault)
  | parsing (path complaint : String)
  | connecting (cause : String)
  | codeModel (e : CodeModelError)
  | capture (e : InspectError)
  | writing (path : String) (fault : FileFault)
deriving DecidableEq, Repr

namespace Failure

/-- The failure in words: what was attempted, and what came in the way. -/
def message : Failure → String
  | settings e => e.message
  | reading path fault => s!"reading '{path}': {fault.message}"
  | parsing path complaint => s!"parsing '{path}': {complaint}"
  | connecting cause => s!"connecting to database: {cause}"
  | codeModel e => e.message
  | capture e => e.message
  | writing path fault => s!"writing '{path}': {fault.message}"

end Failure

/-- What a command prints. -/
inductive Output
  | nothing
  | schema (s : Schema) (types : Registry)
  | codeModel (m : CodeModel)
  | summary (m : CodeModel)
  | snapshot (s : Snapshot)

namespace Output

/-- The line of a summary about a query. -/
def queryLine (q : Query) : String :=
  s!"  - {q.exported} on {q.table.name} ({q.cardinality.name})\n"

/-- The text that is printed. -/
def text : Output → String
  | nothing => ""
  | schema s types =>
    Json.indentedText (Datum.record [("schema", s.toDatum), ("types", types.toDatum)]).sorted ++ "\n"
  | codeModel m => Json.indentedText m.toDatum ++ "\n"
  | summary m =>
    s!"OK: schema '{m.schema}' has {m.tables.length} table(s), {m.enums.length} enum(s); " ++
      s!"{m.queries.length} query(s) resolved\n" ++ String.join (m.queries.map queryLine)
  | snapshot s => s.toJson ++ "\n"

end Output

/-- The settings with the values of a command's options put in. -/
def override (i : Invocation) (s : Settings) : Settings :=
  { s with
    schema := (i.value? .schema).getD s.schema
    connection := { s.connection with url := (i.value? .databaseUrl).or s.connection.url } }

/-- The settings of a run: those of a file, with the options of the command put in. Both the file's
    settings and the result must be valid. -/
def loadSettings (w : World) (i : Invocation) : Except SettingsError Settings := do
  let s ← match i.value? .config with
    | some path => Settings.ofFile w.complaints.settings w.files path
    | none => Settings.load w.complaints.settings w.files w.environment w.configDirectory
  (override i s).validated

/-- The text of a file. -/
def readFile (w : World) (path : String) : Except Failure String :=
  (w.files.read path).mapError (.reading path)

/-- The definitions of a run: those in the file that an option or the settings name, or none. -/
def loadDefinitions (w : World) (i : Invocation) (s : Settings) :
    Except Failure (List Definition) :=
  match (i.value? .queries).or s.queries with
  | none => .ok []
  | some path => do
    let text ← readFile w path
    match Definition.listOfToml? text with
    | some ds => return ds
    | none => throw (.parsing path (w.complaints.definitions text))

/-- The catalog of a run. -/
def openCatalog (w : World) (i : Invocation) (s : Settings) : Except Failure Catalog :=
  match i.value? .snapshot with
  | some path => do
    let text ← readFile w path
    match Snapshot.ofJson? text with
    | some snapshot => return snapshot.toCatalog
    | none => throw (.parsing path (w.complaints.snapshot text))
  | none => do
    let url ← (s.connection.resolvedUrl w.environment).mapError .settings
    (w.connect url s.connection.maxConnections).mapError .connecting

/-- The schema that a command is about, with the types of its columns. -/
def inspect (w : World) (i : Invocation) : Except Failure (Schema × Registry) := do
  let s ← (loadSettings w i).mapError .settings
  let c ← openCatalog w i s
  (Introspect.inspect c s.schema).mapError .codeModel

/-- The code model that a command is about. -/
def codeModel (w : World) (i : Invocation) : Except Failure CodeModel := do
  let s ← (loadSettings w i).mapError .settings
  let ds ← loadDefinitions w i s
  let c ← openCatalog w i s
  (CodeModel.generate c ds s.schema).mapError .codeModel

/-- The snapshot that a command takes. -/
def takeSnapshot (w : World) (i : Invocation) : Except Failure Snapshot := do
  let s ← (loadSettings w i).mapError .settings
  let c ← openCatalog w i s
  (Snapshot.capture c s.schema).mapError .capture

/-- Runs a command: what it prints, and the file system after it. -/
def run (w : World) (i : Invocation) : Except Failure (Output × FileSystem) :=
  match i.action with
  | .inspect => do
    let (s, types) ← inspect w i
    return (.schema s types, w.files)
  | .resolve => do return (.codeModel (← codeModel w i), w.files)
  | .check => do return (.summary (← codeModel w i), w.files)
  | .snapshot => do
    let s ← takeSnapshot w i
    match i.value? .output with
    | none => return (.snapshot s, w.files)
    | some path =>
      let files ← (w.files.write path s.toJson).mapError (.writing path)
      return (.nothing, files)

end Introspect.Command
