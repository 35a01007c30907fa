/-! The arguments of the command line.

    A command is followed by options, each with a value: as the next argument, or in the same one,
    after an equals sign or right after a short name. A value in an argument of its own does not
    start with a dash, unless it is a dash alone. An option may be given once, a path is not empty,
    and a snapshot and a database URL exclude each other. Help can be had on the program and on each
    command, and is given as soon as it is asked for. -/

namespace Introspect.Command

/-- What the program does. -/
inductive Action
  | inspect | resolve | check | snapshot
deriving DecidableEq, Repr

namespace Action

/-- Every action. -/
def all : List Action := [inspect, resolve, check, snapshot]

/-- The word by which an action is asked for. -/
def name : Action → String
  | inspect => "inspect"
  | resolve => "resolve"
  | check => "check"
  | snapshot => "snapshot"

/-- The action with the given name. -/
def ofName? (name : String) : Option Action := all.find? (·.name == name)

end Action

/-- An option of some command. -/
inductive Flag
  | config | schema | snapshot | databaseUrl | queries | output
deriving DecidableEq, Repr

namespace Flag

/-- The long name, after two dashes. -/
def long : Flag → String
  | config => "config"
  | schema => "schema"
  | snapshot => "snapshot"
  | databaseUrl => "database-url"
  | queries => "queries"
  | output => "output"

/-- The short name, after one dash, if there is one. -/
def short? : Flag → Option Char
  | config => some 'c'
  | schema => some 's'
  | queries => some 'q'
  | output => some 'o'
  | snapshot | databaseUrl => none

/-- Whether the value is a path, which must not be empty. -/
def isPath : Flag → Bool
  | config | snapshot | queries | output => true
  | schema | databaseUrl => false

/-- The options of a command. -/
def ofAction : Action → List Flag
  | .inspect => [config, schema, snapshot, databaseUrl]
  | .resolve | .check => [config, schema, snapshot, databaseUrl, queries]
  | .snapshot => [config, schema, snapshot, databaseUrl, output]

end Flag

/-- A command with the values of its options. -/
structure Invocation where
  action : Action
  values : List (Flag × String)
deriving DecidableEq, Repr

/-- The value of an option, if it is given. -/
def Invocation.value? (i : Invocation) (f : Flag) : Option String :=
  (i.values.find? (·.1 = f)).map (·.2)

/-- What help can be had on: the program, a command, or help itself. -/
inductive Topic
  | program
  | action (a : Action)
  | help
deriving DecidableEq, Repr

/-- What the arguments ask for. -/
inductive Request
  | run (invocation : Invocation)
  | version
  | help (topic : Topic)
  | misuse
deriving DecidableEq, Repr

namespace Request

/-- What an argument that starts with a dash is. -/
inductive Mark
  /-- An option, and its value if it is in the same argument. -/
  | flag (f : Flag) (value : Option String)
  | help
  | unknown

/-- Reads an argument that starts with a dash and is longer. -/
def mark (flags : List Flag) (arg : List Char) : Mark :=
  match arg with
  | '-' :: '-' :: rest =>
    let name := rest.takeWhile (· ≠ '=')
    let value := match rest.dropWhile (· ≠ '=') with
      | [] => none
      | _ :: value => some (String.ofList value)
    match flags.find? (·.long.toList == name) with
    | some f => .flag f value
    | none => if name == "help".toList && value.isNone then .help else .unknown
  | _ :: c :: rest =>
    match flags.find? (·.short? == some c) with
    | some f =>
      .flag f (match rest with
        | [] => none
        | '=' :: value => some (.ofList value)
        | value => some (.ofList value))
    | none => if c = 'h' then .help else .unknown
  | _ => .unknown

/-- Whether an argument can be the value of the option before it. -/
def isValue (arg : String) : Bool := arg == "-" || arg.toList.head? != some '-'

/-- The invocation, with one more value of an option that is not given yet. -/
def addValue (i : Invocation) (f : Flag) (value : String) : Option Invocation :=
  if (i.value? f).isSome || (f.isPath && value == "") then none
  else some { i with values := i.values ++ [(f, value)] }

/-- An invocation all of whose options are read. -/
def finish (i : Invocation) : Request :=
  if (i.value? .snapshot).isSome && (i.value? .databaseUrl).isSome then .misuse else .run i

/-- Reads the arguments after the name of a command. -/
def options (i : Invocation) : List String → Request
  | [] => finish i
  | arg :: args =>
    if isValue arg then .misuse
    else if arg = "--" then (if args.isEmpty then finish i else .misuse)
    else match mark (Flag.ofAction i.action) arg.toList with
      | .help => .help (.action i.action)
      | .unknown => .misuse
      | .flag f (some value) =>
        match addValue i f value with
        | some i => options i args
        | none => .misuse
      | .flag f none =>
        match args with
        | [] => .misuse
        | value :: args =>
          if isValue value then
            match addValue i f value with
            | some i => options i args
            | none => .misuse
          else .misuse

/-- What the arguments after the word `help` ask for. -/
def helpOn : List String → Request
  | [] => .help .program
  | [word] =>
    if word = "help" then .help .help
    else match Action.ofName? word with
      | some action => .help (.action action)
      | none => .misuse
  | _ => .misuse

/-- Reads the arguments of the program. -/
def parse : List String → Request
  | [] => .misuse
  | arg :: args =>
    if arg = "--version" ∨ arg.startsWith "-V" then .version
    else if arg = "--help" ∨ arg.startsWith "-h" then .help .program
    else if arg = "help" then helpOn args
    else match Action.ofName? arg with
      | some action => options ⟨action, []⟩ args
      | none => .misuse

end Request

end Introspect.Command
