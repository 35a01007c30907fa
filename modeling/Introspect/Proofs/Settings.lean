import Mathlib
import Introspect.Command.Run
import Introspect.Proofs.Outcome

/-! Settings: where they are found, and what they are.

    Of the places where settings can be, exactly one is chosen (`Chosen`), by which of them are named
    and which exist. What is found there is told of the document that the file holds: each field is
    what is written under its name, or its default (`Settings.Written`), and the whole must be valid
    (`Yields`). A failure of that place is the failure of the run, and otherwise the options of the
    command are put in and the rest stays (`Settles`). So a run depends on the text of one file
    only. -/

namespace Introspect

open Datum

variable {d : Datum} {s t : Settings} {text path : String}

/-! ### What is written -/

/-- A part is what is written under its name, or the default if nothing is. -/
inductive Parts.Says {α : Type} (p : Parts) (name : String) (default : α) (write : α → Datum) :
    α → Prop
  | written {a : α} (found : p.value? name = some (write a)) : Says p name default write a
  | absent (none : p.value? name = none) : Says p name default write default

/-- The connection that a document describes. -/
def Connection.Written (d : Datum) (c : Connection) : Prop :=
  ∃ p, d.parts .ignored ["url", "max_connections"] = some p ∧
    p.Says "url" none ofText? c.url ∧
    p.Says "max_connections" 2 (fun n => .integer n.toNat) c.maxConnections

/-- The settings that a text describes. -/
def Settings.Written (text : String) (s : Settings) : Prop :=
  ∃ d p, Toml.read text = some d ∧ d.parts .ignored ["schema", "queries", "connection"] = some p ∧
    p.Says "schema" "public" .text s.schema ∧ p.Says "queries" none ofText? s.queries ∧
    (p.value? "connection" = none ∧ s.connection = .default ∨
      ∃ c, p.value? "connection" = some c ∧ s.connection.Written c)

/-- A text without any character but white space. -/
def Text.Blank (v : String) : Prop := ∀ c ∈ v.toList, isBlank c = true

/-- The schema has a name, and there may be a connection. -/
structure Settings.Valid (s : Settings) : Prop where
  schema : ¬ Text.Blank s.schema
  maxConnections : 1 ≤ s.connection.maxConnections

/-! ### Reading -/

namespace Parts

variable {α : Type} {p : Parts} {name : String} {default a : α} {read : Datum → Option α}
  {write : α → Datum}

theorem optional_eq_some : p.optional name default read = some a ↔
    p.value? name = none ∧ a = default ∨ ∃ d, p.value? name = some d ∧ read d = some a := by
  rw [optional]
  cases p.value? name with
  | none => simp [eq_comm]
  | some d => simp

/-- A part that is read from its written form only is what the document says. -/
theorem optional_eq_some_says (form : ∀ d a, read d = some a ↔ d = write a) :
    p.optional name default read = some a ↔ p.Says name default write a := by
  rw [optional_eq_some]
  constructor
  · rintro (⟨none, rfl⟩ | ⟨d, found, reads⟩)
    · exact .absent none
    · exact .written (found.trans (congrArg _ ((form d a).1 reads)))
  · rintro (found | none)
    · exact .inr ⟨_, found, (form _ _).2 rfl⟩
    · exact .inl ⟨none, rfl⟩

end Parts

theorem Datum.text?_eq_some {v : String} : d.text? = some v ↔ d = .text v := by
  cases d <;> simp [text?]

theorem Datum.option?_text?_eq_some {v : Option String} :
    d.option? text? = some v ↔ d = ofText? v := by
  cases v with
  | none => cases d <;> simp [option?, text?, ofText?]
  | some v => cases d <;> simp [option?, text?, ofText?]

theorem Datum.word32?_eq_some {n : UInt32} : d.word32? = some n ↔ d = .integer n.toNat := by
  cases d with
  | integer k =>
    simp only [word32?, integer?, Option.bind_some, Datum.integer.injEq]
    constructor
    · intro h
      split at h
      · rename_i fits
        obtain ⟨positive, small⟩ := fits
        cases h
        rw [UInt32.toNat_ofNat_of_lt' small, Int.toNat_of_nonneg positive]
      · cases h
    · rintro rfl
      rw [if_pos ⟨Int.natCast_nonneg _, by simpa using n.toNat_lt⟩]
      simp
  | _ => simp [word32?, integer?]

theorem Connection.ofDatum?_eq_some {c : Connection} : ofDatum? d = some c ↔ c.Written d := by
  cases c
  simp [ofDatum?, Written, Option.bind_eq_some_iff,
    Parts.optional_eq_some_says fun _ _ => option?_text?_eq_some,
    Parts.optional_eq_some_says fun _ _ => word32?_eq_some]

theorem Settings.read_eq_some : (Toml.read text).bind ofDatum? = some s ↔ s.Written text := by
  cases s
  simp [ofDatum?, Written, Option.bind_eq_some_iff,
    Parts.optional_eq_some_says fun _ _ => text?_eq_some,
    Parts.optional_eq_some_says fun _ _ => option?_text?_eq_some, Parts.optional_eq_some,
    Connection.ofDatum?_eq_some]

/-! ### Validity -/

theorem Text.allBlank_iff {v : String} : allBlank v = true ↔ Blank v := by
  rw [allBlank, List.all_eq_true, Blank]

instance (v : String) : Decidable (Text.Blank v) := decidable_of_iff _ Text.allBlank_iff

theorem one_le_iff {n : UInt32} : 1 ≤ n ↔ n ≠ 0 := by
  rw [UInt32.le_iff_toNat_le, ne_eq, ← UInt32.toNat_inj]
  change 1 ≤ n.toNat ↔ ¬ n.toNat = 0
  omega

namespace Settings

/-- Settings are refused for their schema first, and then for their connection. -/
theorem validated_cases (s : Settings) :
    Text.Blank s.schema ∧ s.validated = .error .blankSchema ∨
    (¬ Text.Blank s.schema ∧ s.connection.maxConnections = 0) ∧
      s.validated = .error .noConnections ∨
    s.Valid ∧ s.validated = .ok s := by
  rw [validated]
  by_cases blank : Text.Blank s.schema
  · exact .inl ⟨blank, if_pos (Text.allBlank_iff.2 blank)⟩
  rw [if_neg fun all => blank (Text.allBlank_iff.1 all)]
  by_cases zero : s.connection.maxConnections = 0
  · exact .inr (.inl ⟨⟨blank, zero⟩, if_pos zero⟩)
  · exact .inr (.inr ⟨⟨blank, one_le_iff.2 zero⟩, if_neg zero⟩)

variable {complaint : String → String}

theorem ofToml_of_written (h : s.Written text) : ofToml complaint text = s.validated := by
  rw [ofToml, read_eq_some.2 h]

theorem ofToml_of_none (none : ∀ s, ¬ Written text s) :
    ofToml complaint text = .error (.unparsable (complaint text)) := by
  rw [ofToml]
  cases read : (Toml.read text).bind ofDatum? with
  | none => rfl
  | some s => exact absurd (read_eq_some.1 read) (none s)

variable {fs : FileSystem}

theorem ofFile_of_ok {entry : Entry} (found : fs.find path = .ok entry) :
    ofFile complaint fs path = (entry.text.mapError .unreadable).bind (ofToml complaint) := by
  rw [ofFile, FileSystem.has, FileSystem.read, found]
  rfl

theorem ofFile_of_text (found : fs.find path = .ok (.file text)) :
    ofFile complaint fs path = ofToml complaint text := by
  rw [ofFile_of_ok found]
  rfl

end Settings

/-- What is read is the text of a file that is found. -/
theorem FileSystem.find_of_read {fs : FileSystem} (read : fs.read path = .ok text) :
    fs.find path = .ok (.file text) := by
  rw [FileSystem.read] at read
  cases found : fs.find path with
  | error fault =>
    rw [found] at read
    cases read
  | ok entry =>
    rw [found] at read
    cases entry with
    | file own =>
      cases read
      rfl
    | binary | locked | directory => cases read

/-! ### Places -/

namespace Command

variable {w w' : World} {i : Invocation} {source other : Option String}

/-- Where the settings of a run are: in the file that an option names, else in the one that a variable
    names, else in the one in the working directory if there is one, else in the user's if there is
    one, and else nowhere. -/
inductive Chosen (w : World) (i : Invocation) : Option String → Prop
  | option {path : String} (given : i.value? .config = some path) : Chosen w i (some path)
  | named {path : String} (free : i.value? .config = none)
      (set : w.environment "SCHEMATA_CONFIG" = some path) : Chosen w i (some path)
  | here (free : i.value? .config = none) (unset : w.environment "SCHEMATA_CONFIG" = none)
      (there : w.files.has "schemata.toml" = true) : Chosen w i (some "schemata.toml")
  | user {dir : String} (free : i.value? .config = none)
      (unset : w.environment "SCHEMATA_CONFIG" = none)
      (absent : w.files.has "schemata.toml" = false) (home : w.configDirectory = some dir)
      (there : w.files.has (Settings.userFile dir) = true) : Chosen w i (some (Settings.userFile dir))
  | nowhere (free : i.value? .config = none) (unset : w.environment "SCHEMATA_CONFIG" = none)
      (absent : w.files.has "schemata.toml" = false)
      (homeless : ∀ dir, w.configDirectory = some dir →
        w.files.has (Settings.userFile dir) = false) : Chosen w i none

/-- What a place yields: the settings that its file describes, or why there are none. -/
inductive Yields (complaint : String → String) (fs : FileSystem) :
    Option String → Except SettingsError Settings → Prop
  | defaults : Yields complaint fs none (.ok ⟨"public", none, ⟨none, 2⟩⟩)
  | missing {path : String} {fault : FileFault} (gone : fs.find path = .error fault) :
      Yields complaint fs (some path) (.error (.fileNotFound path))
  | unreadable {path : String} {entry : Entry} {fault : FileFault}
      (found : fs.find path = .ok entry) (refused : entry.text = .error fault) :
      Yields complaint fs (some path) (.error (.unreadable fault))
  | unparsable {path text : String} (found : fs.find path = .ok (.file text))
      (none : ∀ s, ¬ Settings.Written text s) :
      Yields complaint fs (some path) (.error (.unparsable (complaint text)))
  | blank {path text : String} {s : Settings} (found : fs.find path = .ok (.file text))
      (written : s.Written text) (blank : Text.Blank s.schema) :
      Yields complaint fs (some path) (.error .blankSchema)
  | unconnected {path text : String} {s : Settings} (found : fs.find path = .ok (.file text))
      (written : s.Written text) (named : ¬ Text.Blank s.schema)
      (zero : s.connection.maxConnections = 0) :
      Yields complaint fs (some path) (.error .noConnections)
  | settings {path text : String} {s : Settings} (found : fs.find path = .ok (.file text))
      (written : s.Written text) (valid : s.Valid) : Yields complaint fs (some path) (.ok s)

/-- The options of a command are put into settings, and the rest of them stays. -/
structure Overrides (i : Invocation) (t s : Settings) : Prop where
  schema : ∀ v, i.value? .schema = some v → s.schema = v
  schemaLeft : i.value? .schema = none → s.schema = t.schema
  url : ∀ v, i.value? .databaseUrl = some v → s.connection.url = some v
  urlLeft : i.value? .databaseUrl = none → s.connection.url = t.connection.url
  maxConnections : s.connection.maxConnections = t.connection.maxConnections
  queries : s.queries = t.queries

/-- The place at which a run looks. -/
def place (w : World) (i : Invocation) : Option String :=
  (i.value? .config).or (Settings.location? w.files w.environment w.configDirectory)

/-- What a run finds at a place. -/
def settingsAt (w : World) : Option String → Except SettingsError Settings
  | some path => Settings.ofFile w.complaints.settings w.files path
  | none => .ok .default

theorem Chosen.eq_place (h : Chosen w i source) : source = place w i := by
  rw [place, Settings.location?]
  cases h with
  | option given => simp [given]
  | named free set => simp [free, set]
  | here free unset there => simp [free, unset, there]
  | user free unset absent home there => simp [free, unset, absent, home, there]
  | nowhere free unset absent homeless =>
    rw [free, unset, Option.none_or, eq_comm, List.find?_eq_none]
    simpa [absent] using homeless

theorem loadSettings_eq (w : World) (i : Invocation) : loadSettings w i =
    (settingsAt w (place w i)).bind fun s => (override i s).validated := by
  rw [loadSettings, place]
  cases i.value? .config with
  | some path => rfl
  | none =>
    rw [Option.none_or, Settings.load]
    cases Settings.location? w.files w.environment w.configDirectory with
    | none => rfl
    | some path => rfl

/-! ### What becomes of settings -/

/-- Settings that a place yields are valid. -/
theorem Yields.valid {complaint : String → String} {fs : FileSystem}
    (h : Yields complaint fs source (.ok t)) : t.Valid := by
  cases h with
  | defaults => exact ⟨by decide, by decide⟩
  | settings found written valid => exact valid

theorem overrides_override (i : Invocation) (t : Settings) : Overrides i t (override i t) where
  schema v given := by simp [override, given]
  schemaLeft free := by simp [override, free]
  url v given := by simp [override, given]
  urlLeft free := by simp [override, free]
  maxConnections := rfl
  queries := rfl

/-- Parsers that show the text which they refuse. -/
def plainComplaints : Complaints := ⟨id, id, id⟩

/-- A command on a schema that is named. -/
def onSales : Invocation := ⟨.inspect, [(.schema, "sales")]⟩

end Command

end Introspect
