import Introspect.Command.Arguments

/-! What the program prints about itself: its version, and how it and its commands are used.

    Commands and options are listed one a line, in two columns: how they are written, and what they
    are for. -/

namespace Introspect.Command

/-- The name of the program and its version. -/
def versionText : String := "schemata 0.1.0\n"

/-- What the program is for. -/
def programPurpose : String := "Schemata - Postgres schema introspection for typed data-access code"

/-- What help is for. -/
def helpPurpose : String := "Print this message or the help of the given subcommand(s)"

/-- What a command is for. -/
def Action.purpose : Action → String
  | inspect => "Print the schema model (tables, columns, enums, types) as JSON"
  | resolve => "Resolve query definitions and print the full generation as JSON"
  | check => "Validate query definitions against the schema without printing it"
  | snapshot => "Save the catalog as a JSON snapshot for offline runs"

namespace Flag

/-- What an option is for. -/
def purpose : Flag → String
  | config => "Path to the config file (default: schemata.toml lookup)"
  | schema => "Schema to inspect"
  | snapshot => "Read the catalog from a JSON snapshot instead of a database"
  | databaseUrl => "Postgres URL (overrides [connection] url)"
  | queries => "Path to the query definitions file"
  | output => "Output file (stdout if not specified)"

/-- The word that stands for the value of an option. -/
def valueName : Flag → String
  | config => "CONFIG"
  | schema => "SCHEMA"
  | snapshot => "SNAPSHOT"
  | databaseUrl => "DATABASE_URL"
  | queries => "QUERIES"
  | output => "OUTPUT"

/-- How an option is written. -/
def usage (f : Flag) : String :=
  let short := match f.short? with
    | some c => s!"-{c}, "
    | none => "    "
  short ++ s!"--{f.long} <{f.valueName}>"

end Flag

/-- Lines of two columns, the first as wide as its widest cell. -/
def columns (rows : List (String × String)) : String :=
  let width := rows.foldl (fun w r => max w r.1.length) 0
  String.join (rows.map fun r => "  " ++ r.1.pushn ' ' (width + 2 - r.1.length) ++ r.2 ++ "\n")

/-- The line about asking for help. -/
def helpRow : String × String := ("-h, --help", "Print help")

/-- How the program, a command or help is used. -/
def helpText : Topic → String
  | .program =>
    programPurpose ++ "\n\nUsage: schemata <COMMAND>\n\nCommands:\n" ++
      columns (Action.all.map (fun a => (a.name, a.purpose)) ++ [("help", helpPurpose)]) ++
      "\nOptions:\n" ++ columns [helpRow, ("-V, --version", "Print version")]
  | .action a =>
    a.purpose ++ s!"\n\nUsage: schemata {a.name} [OPTIONS]\n\nOptions:\n" ++
      columns ((Flag.ofAction a).map (fun f => (f.usage, f.purpose)) ++ [helpRow])
  | .help =>
    helpPurpose ++ "\n\nUsage: schemata help [COMMAND]...\n\nArguments:\n" ++
      columns [("[COMMAND]...", "Print help for the subcommand(s)")]

end Introspect.Command
