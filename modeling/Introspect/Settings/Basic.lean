import Introspect.Document.Record
import Introspect.Host.FileSystem
import Introspect.Settings.Expansion
import Introspect.Toml.Reader

/-! Settings: which schema is read, where the query definitions are, and how the database is
    reached.

    Settings are written as TOML, in which everything has a default. They are valid if the schema is
    not blank and at least one connection is allowed. They are read from exactly one place: the file
    that a variable names, else the file in the working directory, else the user's file, else there
    are the defaults alone. A file that is chosen and cannot be used is an error. -/

namespace Introspect

namespace Text

/-- The white space of Unicode. -/
def blankRuns : List Run :=
  [⟨9, 13, 1⟩, ⟨32, 32, 1⟩, ⟨133, 133, 1⟩, ⟨160, 160, 1⟩, ⟨5760, 5760, 1⟩, ⟨8192, 8202, 1⟩,
  ⟨8232, 8233, 1⟩, ⟨8239, 8239, 1⟩, ⟨8287, 8287, 1⟩, ⟨12288, 12288, 1⟩]

/-- Whether the character is white space. -/
def isBlank (c : Char) : Bool := inRuns blankRuns c

/-- Whether a text holds white space only; the empty text does. -/
def allBlank (s : String) : Bool := s.toList.all isBlank

end Text

/-- How the database is reached. -/
structure Connection where
  url : Option String
  maxConnections : UInt32
deriving DecidableEq, Repr

/-- The settings of a run. -/
structure Settings where
  schema : String
  queries : Option String
  connection : Connection
deriving DecidableEq, Repr

/-- Why there are no settings, or no database. -/
inductive SettingsError
  | fileNotFound (path : String)
  | unreadable (fault : FileFault)
  /-- The text holds no settings; the parser has a complaint about it. -/
  | unparsable (complaint : String)
  | missingVariable (name : String)
  | missingConnection
  | blankSchema
  | noConnections
deriving DecidableEq, Repr

/-- The error in words. -/
def SettingsError.message : SettingsError → String
  | fileNotFound path => s!"Config file not found: {path}"
  | unreadable fault => s!"Failed to read config file: {fault.message}"
  | unparsable complaint => s!"Failed to parse config file: {complaint}"
  | missingVariable name => s!"Missing environment variable: {name}"
  | missingConnection =>
    "No database URL configured (set [connection] url or pass --database-url)"
  | blankSchema => "Invalid configuration: schema must not be empty"
  | noConnections => "Invalid configuration: connection.max_connections must be at least 1"

namespace Connection

/-- The connection without a URL. -/
def default : Connection := ⟨none, 2⟩

/-- Reads a connection. -/
def ofDatum? (d : Datum) : Option Connection := do
  let p ← d.parts .ignored ["url", "max_connections"]
  let url ← p.optional "url" none (Datum.option? Datum.text?)
  let maxConnections ← p.optional "max_connections" 2 Datum.word32?
  return ⟨url, maxConnections⟩

/-- The connection as a document. -/
def toDatum (c : Connection) : Datum :=
  .record [("url", .ofText? c.url), ("max_connections", .integer c.maxConnections.toNat)]

/-- The URL of the database, with the values of the variables to which it refers. -/
def resolvedUrl (c : Connection) (env : Environment) : Except SettingsError String :=
  match c.url with
  | none => .error .missingConnection
  | some url => (expand env url).mapError .missingVariable

end Connection

namespace Settings

/-- The settings of a run without any file. -/
def default : Settings := ⟨"public", none, .default⟩

/-- Reads settings. -/
def ofDatum? (d : Datum) : Option Settings := do
  let p ← d.parts .ignored ["schema", "queries", "connection"]
  let schema ← p.optional "schema" "public" Datum.text?
  let queries ← p.optional "queries" none (Datum.option? Datum.text?)
  let connection ← p.optional "connection" .default Connection.ofDatum?
  return ⟨schema, queries, connection⟩

/-- The settings as a document. -/
def toDatum (s : Settings) : Datum :=
  .record [("schema", .text s.schema), ("queries", .ofText? s.queries),
    ("connection", s.connection.toDatum)]

/-- The settings, if they are valid. -/
def validated (s : Settings) : Except SettingsError Settings :=
  if Text.allBlank s.schema then .error .blankSchema
  else if s.connection.maxConnections = 0 then .error .noConnections
  else .ok s

/-- Reads settings from TOML text; `complaint` is what the parser says about a text without any. -/
def ofToml (complaint : String → String) (text : String) : Except SettingsError Settings :=
  match (Toml.read text).bind ofDatum? with
  | some s => s.validated
  | none => .error (.unparsable (complaint text))

/-- Reads settings from a file. -/
def ofFile (complaint : String → String) (fs : FileSystem) (path : String) :
    Except SettingsError Settings :=
  if fs.has path then do
    ofToml complaint (← (fs.read path).mapError .unreadable)
  else .error (.fileNotFound path)

/-- The file with the user's settings in the directory for the user's configuration. -/
def userFile (directory : String) : String :=
  FileSystem.join (FileSystem.join directory "schemata") "config.toml"

/-- The file from which settings are read when none is asked for: the one that a variable names
    whether it exists or not, else the first of two that exists. -/
def location? (fs : FileSystem) (env : Environment) (configDirectory : Option String) :
    Option String :=
  match env "SCHEMATA_CONFIG" with
  | some path => some path
  | none => ("schemata.toml" :: (configDirectory.map userFile).toList).find? fs.has

/-- The settings when no file is asked for. -/
def load (complaint : String → String) (fs : FileSystem) (env : Environment)
    (configDirectory : Option String) : Except SettingsError Settings :=
  match location? fs env configDirectory with
  | some path => ofFile complaint fs path
  | none => .ok .default

end Settings

end Introspect
