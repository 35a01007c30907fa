import Introspect.Proofs.Edits
import Introspect.Proofs.Field
import Introspect.Proofs.Settings

/-! What an option overrides.

    A schema that an option names takes the place of the one in the file, and no trace of the file's
    is left in the settings (`override_congr`). But the file is examined before the option is put in:
    where its schema is blank the run fails, although nobody asks for that schema. So runs on files
    with settings that differ in the schema alone end alike if both schemas are blank or neither is,
    and else only where both fail for a blank option; and if the files hold no settings, they end
    alike if the parser has the same to say about both (`loadSettings_agree_iff`). -/

namespace Introspect

open Datum

variable {text ta tb a b v path : String} {s : Settings} {e : Toml.Draft} {rest : List Char}

/-! ### A field that differs -/

namespace Toml.FieldDiffers

variable {name k : String} {x y d d' : Datum} {names : List String} {surplus : Surplus}
  {p : Parts}

/-- Documents that differ in a declared field have the same parts otherwise. -/
theorem parts (h : FieldDiffers name x y d d') (declared : name ∈ names)
    (found : d.parts surplus names = some p) :
    p.value? name = some x ∧ ∃ p', d'.parts surplus names = some p' ∧ p'.value? name = some y ∧
      ∀ k, name ≠ k → p'.value? k = p.value? k := by
  obtain ⟨before, after⟩ := h
  obtain ⟨once, readable, rfl⟩ := parts_record.1 found
  have once' : ∀ k ∈ names, (named k (before ++ (name, y) :: after)).length ≤ 1 := by
    intro k hk
    have atMost := once k hk
    by_cases same : name = k
    · subst same
      rw [named_place, List.length_append] at atMost ⊢
      exact atMost
    · rw [named_other same] at atMost ⊢
      exact atMost
  have readable' : ∀ f ∈ before ++ (name, y) :: after, f.1 ∉ names → f.2.isReadable = true := by
    rw [List.forall_mem_append, List.forall_mem_cons] at readable ⊢
    exact ⟨readable.1, fun unknown => absurd declared unknown, readable.2.2⟩
  refine ⟨field?_place (once name declared), _, parts_record.2 ⟨once', readable', rfl⟩,
    field?_place (once' name declared), fun k other => ?_⟩
  exact (field?_other other).trans (field?_other other).symm

end Toml.FieldDiffers

theorem Parts.Says.congr {α : Type} {p p' : Parts} {name : String} {default x : α}
    {write : α → Datum} (same : p'.value? name = p.value? name) (h : p.Says name default write x) :
    p'.Says name default write x := by
  cases h with
  | written found => exact .written (same.trans found)
  | absent none => exact .absent (same.trans none)

/-- A part that is written is what is written. -/
theorem Parts.Says.of_value {p : Parts} {name : String} {default x y : String}
    (h : p.Says name default .text x) (found : p.value? name = some (.text y)) : x = y := by
  cases h with
  | written written =>
    rw [found] at written
    exact (Datum.text.inj (Option.some.inj written)).symm
  | absent none =>
    rw [found] at none
    cases none

theorem Settings.Written.unique {t : Settings} (h : s.Written text) (h' : t.Written text) : s = t := by
  rw [← Settings.read_eq_some] at h h'
  exact Option.some.inj (h.symm.trans h')

/-- Of texts that give the schema two values, one describes settings if the other does, and those
    are the same but for the schema. -/
theorem Settings.Written.differ (ha : Toml.Writes "schema" a e rest ta)
    (hb : Toml.Writes "schema" b e rest tb) (h : s.Written ta) :
    s.schema = a ∧ Written tb { s with schema := b } := by
  obtain ⟨d, p, read, parts, schema, queries, connection⟩ := h
  have both := Toml.read_differ ha hb
  rw [read] at both
  cases read' : Toml.read tb with
  | none =>
    rw [read'] at both
    cases both
  | some d' =>
    rw [read'] at both
    cases both with
    | some differ =>
      obtain ⟨here, p', parts', there, other⟩ := differ.parts (by simp) parts
      constructor
      · exact schema.of_value here
      · refine ⟨d', p', read', parts', .written there, queries.congr (other _ (by decide)), ?_⟩
        dsimp only
        rw [other "connection" (by decide)]
        exact connection

/-! ### The outcome of a run -/

namespace Command

variable {w w' : World} {i : Invocation}

theorem loadSettings_of_text (chosen : Chosen w i (some path))
    (read : w.files.read path = .ok text) : loadSettings w i =
      (Settings.ofToml w.complaints.settings text).bind fun s => (override i s).validated := by
  rw [loadSettings_eq, ← chosen.eq_place, settingsAt,
    Settings.ofFile_of_text (FileSystem.find_of_read read)]

/-- Nothing is left of a schema that is overridden. -/
theorem override_congr (given : i.value? .schema = some v) (s : Settings) (schema : String) :
    override i { s with schema := schema } = override i s := by
  rw [override, override, given]
  rfl

/-- What becomes of the settings in a file if an option names the schema. -/
theorem validated_override (given : i.value? .schema = some v) (s : Settings) :
    (s.validated.bind fun s => (override i s).validated) =
      if Text.Blank s.schema ∨ s.connection.maxConnections ≠ 0 ∧ Text.Blank v then
        .error .blankSchema
      else if s.connection.maxConnections = 0 then .error .noConnections
      else .ok (override i s) := by
  have overrides := overrides_override i s
  rcases s.validated_cases with ⟨blank, h⟩ | ⟨⟨named, zero⟩, h⟩ | ⟨valid, h⟩
  · rw [h, if_pos (.inl blank)]
    rfl
  · rw [h, if_neg (by simp [named, zero]), if_pos zero]
    rfl
  have allowed := one_le_iff.1 valid.maxConnections
  rw [h]
  change (override i s).validated = _
  rcases (override i s).validated_cases with ⟨blank, h'⟩ | ⟨⟨-, zero⟩, -⟩ | ⟨settled, h'⟩
  · rw [h', if_pos (.inr ⟨allowed, overrides.schema v given ▸ blank⟩)]
  · exact absurd (overrides.maxConnections ▸ zero) allowed
  · have named := overrides.schema v given ▸ settled.schema
    rw [h', if_neg (by simp [valid.schema, named]), if_neg allowed]

/-- OVERRIDDEN: two runs on files that differ in the schema alone, which an option names, end alike
    exactly if the files hold settings, and both schemas are blank or neither is, or connections are
    allowed and the option's schema is blank itself; or they hold none, and the parser says the same
    about both. -/
theorem loadSettings_agree_iff (given : i.value? .schema = some v)
    (chosen : Chosen w i (some path)) (chosen' : Chosen w' i (some path))
    (read : w.files.read path = .ok ta) (read' : w'.files.read path = .ok tb)
    (ha : Toml.Writes "schema" a e rest ta) (hb : Toml.Writes "schema" b e rest tb) :
    loadSettings w i = loadSettings w' i ↔
      (∃ s, Settings.Written ta s ∧ ((Text.Blank a ↔ Text.Blank b) ∨
        Text.Blank v ∧ s.connection.maxConnections ≠ 0)) ∨
      (∀ s, ¬ Settings.Written ta s) ∧
        w.complaints.settings ta = w'.complaints.settings tb := by
  rw [loadSettings_of_text chosen read, loadSettings_of_text chosen' read']
  by_cases some : ∃ s, Settings.Written ta s
  · obtain ⟨s, written⟩ := some
    obtain ⟨rfl, written'⟩ := written.differ ha hb
    rw [Settings.ofToml_of_written written, Settings.ofToml_of_written written',
      validated_override given, validated_override given, override_congr given s b]
    have described : ¬ ((∀ t, ¬ Settings.Written ta t) ∧
        w.complaints.settings ta = w'.complaints.settings tb) := fun none => none.1 s written
    have only : ∀ {p : Settings → Prop}, (∃ t, Settings.Written ta t ∧ p t) ↔ p s := by
      intro p
      constructor
      · rintro ⟨t, other, holds⟩
        exact written.unique other ▸ holds
      · exact fun holds => ⟨s, written, holds⟩
    rw [only, or_iff_left described]
    -- each outcome is now told by four conditions, and so is whether they agree
    by_cases first : Text.Blank s.schema <;> by_cases second : Text.Blank b <;>
      by_cases zero : s.connection.maxConnections = 0 <;> by_cases blank : Text.Blank v <;>
      simp [first, second, zero, blank]
  · have none : ∀ s, ¬ Settings.Written ta s := not_exists.1 some
    have none' : ∀ s, ¬ Settings.Written tb s := fun s written =>
      none _ (written.differ hb ha).2
    rw [Settings.ofToml_of_none none, Settings.ofToml_of_none none', or_iff_right ?_,
      and_iff_right none]
    · constructor
      · intro same
        injection same with same
        injection same
      · intro same
        rw [same]
    · exact fun ⟨s, written, _⟩ => none s written

/-- The end of a shop's settings: its schema, and a table after it. -/
def shopSchema (schema : String) : String :=
  "schema = '" ++ schema ++ "'\n[connection]\nurl = 'p'"

/-- The settings of a shop. -/
def shopText (schema : String) : String := "queries = 'q'\n" ++ shopSchema schema

/-- A world in which a shop has settings. -/
def shop (text : String) : World where
  files := ⟨[(["work", "schemata.toml"], .file text)], ["work"]⟩
  environment := .ofList []
  configDirectory := none
  complaints := plainComplaints
  connect := fun _ _ => .error "no route"

theorem find_shop (text : String) :
    (shop text).files.find "schemata.toml" = .ok (.file text) := by cbv

theorem chosen_shop (text : String) : Chosen (shop text) onSales (some "schemata.toml") := by
  have there : (shop text).files.has "schemata.toml" = true := by
    rw [FileSystem.has, find_shop]
    rfl
  exact .here (by decide) (by cbv) there

theorem read_shop (text : String) : (shop text).files.read "schemata.toml" = .ok text := by
  rw [FileSystem.read, find_shop]
  rfl

/-- The draft before the schema. -/
def shopDraft : Toml.Draft := ⟨[("queries", .value (.text "q"))], []⟩

/-- The line before the schema is read, whatever follows. -/
theorem reads_queries (rest : List Char) :
    Toml.Draft.Reads (⟨[], []⟩, "queries = 'q'\n".toList ++ rest) (shopDraft, rest) := by
  have skipped : Toml.filler false ("queries = 'q'\n".toList ++ rest) =
      some ("queries = 'q'\n".toList ++ rest) := rfl
  have named : Toml.key ("queries = 'q'\n".toList ++ rest) =
      some (["queries"], "= 'q'\n".toList ++ rest) := rfl
  have sign : Toml.skipChar? '=' (Toml.skipSpaces ("= 'q'\n".toList ++ rest)) =
      some (" 'q'\n".toList ++ rest) := rfl
  have value : Toml.quotedText? (Toml.skipSpaces (" 'q'\n".toList ++ rest)) =
      some ("q", "\n".toList ++ rest) := rfl
  have ends : Toml.lineEnd ("\n".toList ++ rest) = some rest := rfl
  have assigned : Toml.Entries.inside [] (Toml.Entries.assign (.text "q") ["queries"]) [] =
      some shopDraft.root := rfl
  exact .named skipped named sign value assigned ends

/-- The shop's settings give the schema any text that single quotes can hold. -/
theorem writes_shop {schema : String} (plain : Toml.Literal schema) :
    Toml.Writes "schema" schema shopDraft "\n[connection]\nurl = 'p'".toList (shopText schema) := by
  have starts : Toml.start (shopText schema) =
      "queries = 'q'\n".toList ++ (shopSchema schema).toList := by
    rw [Toml.start, shopText, String.toList_append]
    rfl
  have line : (shopSchema schema).toList =
      "schema = '".toList ++ (schema.toList ++ "'\n[connection]\nurl = 'p'".toList) := by
    rw [shopSchema, String.toList_append, String.toList_append, List.append_assoc]
  have before : Relation.ReflTransGen Toml.Draft.Reads (⟨[], []⟩, Toml.start (shopText schema))
      (shopDraft, "schema = '".toList ++ (schema.toList ++ "'\n[connection]\nurl = 'p'".toList)) := by
    rw [starts, line]
    exact .single (reads_queries _)
  have skipped (rest : List Char) :
      Toml.filler false ("schema = '".toList ++ rest) = some ("schema = '".toList ++ rest) := rfl
  have named (rest : List Char) :
      Toml.key ("schema = '".toList ++ rest) = some (["schema"], "= '".toList ++ rest) := rfl
  have sign (rest : List Char) : Toml.skipChar? '=' (Toml.skipSpaces ("= '".toList ++ rest)) =
      some (" '".toList ++ rest) := rfl
  have value : Toml.quotedText?
      (Toml.skipSpaces (" '".toList ++ (schema.toList ++ "'\n[connection]\nurl = 'p'".toList))) =
        some (schema, "\n[connection]\nurl = 'p'".toList) :=
    Toml.quotedText?_literal plain (by decide) "[connection]\nurl = 'p'".toList
  exact .mk before rfl (skipped _) (named _) (sign _) value

theorem loadSettings_agree_shop :
    Toml.Writes "schema" "own" shopDraft "\n[connection]\nurl = 'p'".toList (shopText "own") ∧
    Toml.Writes "schema" "theirs" shopDraft "\n[connection]\nurl = 'p'".toList
      (shopText "theirs") ∧
    loadSettings (shop (shopText "own")) onSales = loadSettings (shop (shopText "theirs")) onSales := by
  have literal : Toml.Literal "own" ∧ Toml.Literal "theirs" := by decide
  have own := writes_shop literal.1
  have theirs := writes_shop literal.2
  refine ⟨own, theirs, ?_⟩
  have given : onSales.value? .schema = some "sales" := by decide
  have agree := loadSettings_agree_iff given (chosen_shop _) (chosen_shop _) (read_shop _)
    (read_shop _) own theirs
  have settings : ((Toml.read (shopText "own")).bind Settings.ofDatum?) =
      some ⟨"own", some "q", ⟨some "p", 2⟩⟩ := by decide +kernel
  exact agree.2 (.inl ⟨_, Settings.read_eq_some.1 settings, .inl (by decide)⟩)

/-- A blank schema in a file is not overridden. -/
theorem loadSettings_disagree : ¬ ∀ (w w' : World) (i : Invocation) (a b v path ta tb : String)
    (e : Toml.Draft) (rest : List Char), i.value? .schema = some v →
    w.complaints = w'.complaints → Chosen w i (some path) → Chosen w' i (some path) →
    w.files.read path = .ok ta → w'.files.read path = .ok tb →
    Toml.Writes "schema" a e rest ta → Toml.Writes "schema" b e rest tb →
    loadSettings w i = loadSettings w' i := by
  intro all
  have literal : Toml.Literal "" ∧ Toml.Literal "own" := by decide
  have same := all (shop (shopText "")) (shop (shopText "own")) onSales "" "own" "sales" _ _ _ _ _
    (by decide) rfl (chosen_shop _) (chosen_shop _) (read_shop _) (read_shop _)
    (writes_shop literal.1) (writes_shop literal.2)
  have blank : Settings.ofToml plainComplaints.settings (shopText "") = .error .blankSchema := by
    decide +kernel
  have named : Settings.ofToml plainComplaints.settings (shopText "own") =
      .ok ⟨"own", some "q", ⟨some "p", 2⟩⟩ := by decide +kernel
  have complaints (text : String) : (shop text).complaints = plainComplaints := rfl
  rw [loadSettings_of_text (chosen_shop _) (read_shop _), complaints, blank,
    loadSettings_of_text (chosen_shop _) (read_shop _), complaints, named] at same
  revert same
  decide

end Command

end Introspect
