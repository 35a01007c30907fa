import Introspect.Command.Run
import Introspect.Proofs.Build
import Introspect.Proofs.Documents

/-! Commands: what they have in common.

    The settings, the definitions and the catalog of a run depend on the options that are named for
    them and on nothing else, so two commands with the same values find the same, or fail at the
    same point with the same error (`codeModel_congr`, `inspect_congr`). Without definitions nothing
    is left that could fail after the schema: its code model has the lookup query of each table
    (`codeModel_of_undefined`).

    What a command prints is told by reading it again: what is read from the members of a JSON text
    (`Shows`), and the lines of a summary behind its numbers. So the order in which a record is
    printed does not matter, which is another for a schema than for a code model. -/

namespace Introspect.Command

variable {w : World} {i j : Invocation} {s : Settings}

/-! ### Options -/

/-- Two invocations that give the same values to options. -/
def SameValues (flags : List Flag) (i j : Invocation) : Prop := ∀ f ∈ flags, i.value? f = j.value? f

theorem loadSettings_congr (same : SameValues (Flag.ofAction .inspect) i j) :
    loadSettings w i = loadSettings w j := by
  have config : i.value? .config = j.value? .config := same _ (by decide)
  have schema : i.value? .schema = j.value? .schema := same _ (by decide)
  have databaseUrl : i.value? .databaseUrl = j.value? .databaseUrl := same _ (by decide)
  have options : override i = override j := by
    funext s
    rw [override, override, schema, databaseUrl]
  rw [loadSettings, loadSettings, config, options]

theorem openCatalog_congr (same : SameValues (Flag.ofAction .inspect) i j) (s : Settings) :
    openCatalog w i s = openCatalog w j s := by
  have snapshot : i.value? .snapshot = j.value? .snapshot := same _ (by decide)
  rw [openCatalog, openCatalog, snapshot]

theorem loadDefinitions_congr (same : i.value? .queries = j.value? .queries) (s : Settings) :
    loadDefinitions w i s = loadDefinitions w j s := by
  rw [loadDefinitions, loadDefinitions, same]

theorem SameValues.source (same : SameValues (Flag.ofAction .resolve) i j) :
    SameValues (Flag.ofAction .inspect) i j := by
  have more : ∀ f ∈ Flag.ofAction .inspect, f ∈ Flag.ofAction .resolve := by decide
  exact fun f hf => same f (more f hf)

theorem inspect_congr (same : SameValues (Flag.ofAction .inspect) i j) :
    inspect w i = inspect w j := by
  rw [inspect, inspect, loadSettings_congr same]
  simp only [openCatalog_congr same]

theorem codeModel_congr (same : SameValues (Flag.ofAction .resolve) i j) :
    codeModel w i = codeModel w j := by
  have queries : i.value? .queries = j.value? .queries := same _ (by decide)
  rw [codeModel, codeModel, loadSettings_congr same.source]
  simp only [openCatalog_congr same.source, loadDefinitions_congr queries]

/-! ### Runs without definitions -/

/-- Whether neither the options nor the settings of a run name a file with definitions. -/
def Undefined (w : World) (i : Invocation) : Prop :=
  i.value? .queries = none ∧ ∀ s, loadSettings w i = .ok s → s.queries = none

/-- Without definitions there is nothing that could be wrong with them. -/
theorem resolve_nil (s : Schema) : resolve [] s = .ok (s.tables.map Query.lookup) := by
  have clean : resolveErrors [] s = [] := by
    simp [resolveErrors, firstUses, lookupClash?]
  rw [resolve_eq, clean]
  rfl

/-- The code model of a schema without definitions. -/
def undefinedModel (s : Schema) (types : Registry) : CodeModel :=
  ⟨s.name, types, s.enums, s.tables, s.tables.map Query.lookup⟩

theorem generate_nil (c : Catalog) (schema : String) : CodeModel.generate c [] schema =
    (Introspect.inspect c schema).map fun r => undefinedModel r.1 r.2 := by
  rw [CodeModel.generate]
  cases Introspect.inspect c schema with
  | error e => rfl
  | ok r =>
    simp only [resolve_nil]
    rfl

theorem codeModel_of_undefined (undefined : Undefined w i) :
    codeModel w i = (inspect w i).map fun r => undefinedModel r.1 r.2 := by
  rw [codeModel, inspect]
  cases settings : loadSettings w i with
  | error e => rfl
  | ok s =>
    have none : loadDefinitions w i s = .ok [] := by
      rw [loadDefinitions, undefined.1, undefined.2 s settings]
      rfl
    -- Both runs open the same catalog, and part only behind the schema.
    change (loadDefinitions w i s >>= fun ds => openCatalog w i s >>= fun c =>
      (CodeModel.generate c ds s.schema).mapError Failure.codeModel) =
        (openCatalog w i s >>= fun c =>
          (Introspect.inspect c s.schema).mapError Failure.codeModel).map _
    rw [none]
    cases openCatalog w i s with
    | error e => rfl
    | ok c =>
      change (CodeModel.generate c [] s.schema).mapError Failure.codeModel =
        ((Introspect.inspect c s.schema).mapError Failure.codeModel).map _
      rw [generate_nil]
      cases Introspect.inspect c s.schema with
      | error e => rfl
      | ok r => rfl

/-! ### What is printed -/

/-- The member of a document to which names lead. -/
def member? : List String → Datum → Option Datum
  | [], d => some d
  | name :: names, .record fields => (Datum.field? fields name).bind (member? names)
  | _ :: _, _ => none

/-- The member of a JSON text to which names lead. -/
def printed? (text : String) (names : List String) : Option Datum :=
  (Json.read text).bind (member? names)

/-- Whether a JSON text has a member to which names lead, and what is read from it is `a`. -/
def Shows {α : Type} (text : String) (names : List String) (read : Datum → Option α) (a : α) :
    Prop :=
  (printed? text names).bind read = some a

/-- The fields of a record in their order, each value read by `value`. -/
def fields? {α : Type} (value : Datum → Option α) : Datum → Option (List (String × α))
  | .record fields => fields.mapM fun f => (value f.2).map (f.1, ·)
  | _ => none

/-- Whether a summary has a line on each query of a printed code model, in their order, behind the
    numbers of tables, enums and queries. -/
def Lists (resolved summary : String) : Prop :=
  ∃ schema tables enums queries,
    Shows resolved ["schema"] Datum.text? schema ∧
    Shows resolved ["tables"] (Datum.list? Table.ofDatum?) tables ∧
    Shows resolved ["enums"] (Datum.list? Enumeration.ofDatum?) enums ∧
    Shows resolved ["queries"] (Datum.list? Query.ofDatum?) queries ∧
    summary =
      s!"OK: schema '{schema}' has {tables.length} table(s), {enums.length} enum(s); " ++
        s!"{queries.length} query(s) resolved\n" ++
        String.join (queries.map fun q =>
          s!"  - {q.exported} on {q.table.name} ({q.cardinality.name})\n")

/-- A query that nobody defined, for the one row of a table whose primary key has given values. -/
structure IsLookup (t : Table) (q : Query) : Prop where
  name : q.name = "Get" ++ Name.exported t.name
  table : q.table = t
  filters : q.filters.map (·.column) = t.primaryKey
  equal : ∀ f ∈ q.filters, f.comparison = .eq
  sorts : q.sorts = []
  returnsOne : q.returnsOne = true
  returnsMany : q.returnsMany = false
  paged : q.paged = false
  synthetic : q.synthetic = true

/-- Whether a printed code model has what a printed schema has, and the lookup query of each table,
    in their order, and no other. -/
def LooksUp (inspected resolved : String) : Prop :=
  ∃ name types enums tables queries,
    Shows inspected ["schema", "name"] Datum.text? name ∧
    Shows resolved ["schema"] Datum.text? name ∧
    Shows inspected ["types"] (fields? ColumnType.ofDatum?) types ∧
    Shows resolved ["types"] (fields? ColumnType.ofDatum?) types ∧
    Shows inspected ["schema", "enums"] (Datum.list? Enumeration.ofDatum?) enums ∧
    Shows resolved ["enums"] (Datum.list? Enumeration.ofDatum?) enums ∧
    Shows inspected ["schema", "tables"] (Datum.list? Table.ofDatum?) tables ∧
    Shows resolved ["tables"] (Datum.list? Table.ofDatum?) tables ∧
    Shows resolved ["queries"] (Datum.list? Query.ofDatum?) queries ∧
    List.Forall₂ IsLookup tables queries

/-! ### Reading what is printed -/

/-- In the text of a document there stand the members of the document. -/
theorem printed?_lines {d : Datum} (plain : d.Plain) (names : List String) :
    printed? (Json.indentedText d ++ "\n") names = member? names d := by
  rw [printed?, Json.read_lines plain, Option.bind_some]

theorem printed?_codeModel (m : CodeModel) (names : List String) :
    printed? (Output.codeModel m).text names = member? names m.toDatum :=
  printed?_lines m.plain_toDatum names

/-- The member of a sorted record, sorted itself. -/
theorem member?_sorted {fields : List (String × Datum)} (distinct : (fields.map (·.1)).Nodup)
    (name : String) (names : List String) : member? (name :: names) (Datum.record fields).sorted =
      (Datum.field? fields name).bind fun d => member? names d.sorted := by
  rw [Datum.sorted_record, member?, Datum.field?_sorted distinct, Option.bind_map]
  rfl

theorem printed?_schema (s : Schema) (types : Registry) (names : List String) :
    printed? (Output.schema s types).text names =
      member? names (Datum.record [("schema", s.toDatum), ("types", types.toDatum)]).sorted := by
  refine printed?_lines (Datum.Plain.sorted (.record ?_)) names
  simp [s.plain_toDatum, types.plain_toDatum]

theorem printed?_schema_types (s : Schema) (types : Registry) :
    printed? (Output.schema s types).text ["types"] = some types.toDatum.sorted := by
  rw [printed?_schema, member?_sorted (by simp)]
  rfl

theorem printed?_schema_schema (s : Schema) (types : Registry) (name : String) :
    printed? (Output.schema s types).text ["schema", name] =
      (Datum.field? [("name", .text s.name), ("enums", .list (s.enums.map Enumeration.toDatum)),
        ("tables", .list (s.tables.map Table.toDatum))] name).map Datum.sorted := by
  rw [printed?_schema, member?_sorted (by simp)]
  change member? [name] s.toDatum.sorted = _
  rw [Schema.toDatum, member?_sorted (by simp), Option.map_eq_bind]
  rfl

theorem fields?_map {α : Type} {value : Datum → Option α} {toDatum : α → Datum}
    (back : ∀ x, value (toDatum x) = some x) (es : List (String × α)) :
    fields? value (.record (es.map fun e => (e.1, toDatum e.2))) = some es := by
  rw [fields?, mapM_eq_some, List.forall₂_map_left_iff]
  exact List.forall₂_same.2 fun e _ => by rw [back, Option.map_some]

/-- The types are in order before they are sorted. -/
theorem sorted_types (types : Registry) : types.toDatum.sorted =
    .record (types.entries.map fun e => (e.1, e.2.toDatum.sorted)) := by
  rw [Registry.toDatum, Datum.sorted_record, List.map_map]
  exact congrArg Datum.record (ascendingEntries_of_ascending (List.pairwise_map.2 types.ascending))

theorem lists (m : CodeModel) : Lists (Output.codeModel m).text (Output.summary m).text := by
  refine ⟨m.schema, m.tables, m.enums, m.queries, ?_⟩
  simp only [Shows, printed?_codeModel]
  exact ⟨rfl, list?_map Table.ofDatum?_toDatum m.tables,
    list?_map Enumeration.ofDatum?_toDatum m.enums, list?_map Query.ofDatum?_toDatum m.queries, rfl⟩

theorem isLookup_lookup (t : Table) : IsLookup t (.lookup t) where
  name := rfl
  table := rfl
  filters := List.map_map.trans (List.map_id t.primaryKey)
  equal := by simp [Query.lookup]
  sorts := rfl
  returnsOne := rfl
  returnsMany := rfl
  paged := rfl
  synthetic := rfl

theorem looksUp (s : Schema) (types : Registry) :
    LooksUp (Output.schema s types).text (Output.codeModel (undefinedModel s types)).text := by
  refine ⟨s.name, types.entries, s.enums, s.tables, s.tables.map Query.lookup, ?_⟩
  simp only [Shows, printed?_schema_types, printed?_schema_schema, printed?_codeModel, sorted_types]
  refine ⟨?_, rfl, fields?_map ColumnType.ofDatum?_sorted types.entries,
    fields?_map ColumnType.ofDatum?_toDatum types.entries,
    Datum.list?_sorted Enumeration.ofDatum?_sorted s.enums,
    list?_map Enumeration.ofDatum?_toDatum s.enums,
    Datum.list?_sorted Table.ofDatum?_sorted s.tables, list?_map Table.ofDatum?_toDatum s.tables,
    list?_map Query.ofDatum?_toDatum _, ?_⟩
  · rfl
  · exact List.forall₂_map_right_iff.2 (List.forall₂_same.2 fun t _ => isLookup_lookup t)

/-! ### Outcomes -/

/-- Whether two runs end alike: both fail with the same error, or both succeed, leave the files as
    they were, and print texts that are related. -/
def Alike (w : World) (related : String → String → Prop) :
    Except Failure (Output × FileSystem) → Except Failure (Output × FileSystem) → Prop
  | .error e, .error e' => e = e'
  | .ok (x, files), .ok (y, files') => files = w.files ∧ files' = w.files ∧ related x.text y.text
  | _, _ => False

/-- AGREED: with the same options `check` fails exactly as `resolve` does, and otherwise lists the
    queries that `resolve` prints. Without definitions `resolve` fails exactly as `inspect` does
    with the same source, and otherwise prints the same schema and the lookup query of each
    table. -/
theorem run_agree (w : World) (i j k : Invocation) (resolving : i.action = .resolve)
    (checking : j.action = .check) (inspecting : k.action = .inspect)
    (same : SameValues (Flag.ofAction .resolve) i j)
    (source : SameValues (Flag.ofAction .inspect) k i) :
    Alike w Lists (run w i) (run w j) ∧
    (Undefined w i → Alike w LooksUp (run w k) (run w i)) := by
  constructor
  · simp only [run, resolving, checking, codeModel_congr same]
    cases codeModel w j with
    | error e => rfl
    | ok m => exact ⟨rfl, rfl, lists m⟩
  · intro undefined
    simp only [run, resolving, inspecting, codeModel_of_undefined undefined, inspect_congr source]
    cases inspect w i with
    | error e => rfl
    | ok r => exact ⟨rfl, rfl, looksUp r.1 r.2⟩

/-- A world without files, in which the database of a shop can be reached. -/
def shopWorld : World where
  files := ⟨[], ["home"]⟩
  environment := fun _ => none
  configDirectory := none
  complaints := ⟨id, id, id⟩
  connect := fun url _ => if url = "postgres://shop" then .ok shop else .error "no such host"

/-- A command on this database. -/
def onShop (a : Action) : Invocation := ⟨a, [(.databaseUrl, "postgres://shop")]⟩

theorem loadSettings_onShop : loadSettings shopWorld (onShop .resolve) =
    .ok ⟨"public", none, ⟨some "postgres://shop", 2⟩⟩ := by
  have missing : shopWorld.files.has "schemata.toml" = false := by cbv
  have nowhere : Settings.location? shopWorld.files shopWorld.environment shopWorld.configDirectory =
      none := List.find?_eq_none.2 (by simp [shopWorld, ← missing])
  have defaults : Settings.load shopWorld.complaints.settings shopWorld.files shopWorld.environment
      shopWorld.configDirectory = .ok .default := by
    rw [Settings.load, nowhere]
  change (Settings.load shopWorld.complaints.settings shopWorld.files shopWorld.environment
    shopWorld.configDirectory >>= fun s => (override (onShop .resolve) s).validated) = _
  rw [defaults]
  decide

theorem run_agree_shop :
    SameValues (Flag.ofAction .resolve) (onShop .resolve) (onShop .check) ∧
    SameValues (Flag.ofAction .inspect) (onShop .inspect) (onShop .resolve) ∧
    Undefined shopWorld (onShop .resolve) ∧
    (codeModel shopWorld (onShop .resolve)).isOk = true ∧
    Alike shopWorld Lists (run shopWorld (onShop .resolve)) (run shopWorld (onShop .check)) ∧
    Alike shopWorld LooksUp (run shopWorld (onShop .inspect))
      (run shopWorld (onShop .resolve)) := by
  have same : SameValues (Flag.ofAction .resolve) (onShop .resolve) (onShop .check) :=
    fun _ _ => rfl
  have source : SameValues (Flag.ofAction .inspect) (onShop .inspect) (onShop .resolve) :=
    fun _ _ => rfl
  have undefined : Undefined shopWorld (onShop .resolve) := by
    refine ⟨rfl, fun s found => ?_⟩
    cases loadSettings_onShop.symm.trans found
    rfl
  have succeeds : (codeModel shopWorld (onShop .resolve)).isOk = true := by
    rw [codeModel, loadSettings_onShop]
    cbv
  obtain ⟨listed, resolved⟩ :=
    run_agree shopWorld (onShop .resolve) (onShop .check) (onShop .inspect) rfl rfl rfl same source
  exact ⟨same, source, undefined, succeeds, listed, resolved undefined⟩

end Introspect.Command
