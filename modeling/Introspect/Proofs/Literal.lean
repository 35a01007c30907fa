import Introspect.Proofs.Casing
import Introspect.Proofs.Session
import Introspect.Types.Literal

/-! Literals: what the expression of a column reads.

    The name of a field stands in an expression as it is, and the text is read back as a literal. A
    literal is never shorter than what it stands for, and longer as soon as there is a backslash in
    it (`length_valueFrom`). The quotes around the name end the literal where the name ends or
    before, so it stands for the name only if it is the name, letter by letter: if there is nothing
    in the name that a literal cannot hold as it is (`reads_iff`).

    All else in an expression has no quotes, since the types that it names are made of letters,
    numerals and a few signs (`ColumnType.decode_eq_fetch`, `Registry.Sound.quoteless`). This
    settles which columns are read by their expression (`Column.decode_reads_iff`). -/

namespace Introspect

namespace Literal

/-- Whether a literal can hold the text as it is. -/
def Plain (text : List Char) : Prop := ∀ c ∈ text, c ≠ '"' ∧ c ≠ '\\' ∧ c ≠ '\r'

/-- Whether an expression reads the field called `name`: it has one literal, which is the argument
    of `try_get` and stands for the name. -/
def ReadsField (expression name : List Char) : Prop :=
  ∃ before type written after,
    expression = before ++ ".try_get::<".toList ++ type ++ ", _>(\"".toList ++ written ++
      "\")".toList ++ after ∧
    '"' ∉ before ∧ '"' ∉ type ∧
    literals expression = some [written] ∧ value? written = some name

variable {before type after rest written text name : List Char} {c : Char}

theorem plain_iff : Plain text ↔ '"' ∉ text ∧ '\\' ∉ text ∧ '\r' ∉ text := by
  simp only [Plain, ne_eq, forall_and, List.forall_mem_ne']

/-! ### Finding the literal -/

theorem literals_append (quoteless : '"' ∉ before) (rest : List Char) :
    literals (before ++ rest) = literals rest := by
  induction before with
  | nil => rfl
  | cons c before ih =>
    rw [List.mem_cons, not_or] at quoteless
    rw [List.cons_append, literals, if_neg (Ne.symm quoteless.1), ih quoteless.2]

theorem literals_eq_nil (quoteless : '"' ∉ text) : literals text = some [] := by
  simpa [literals] using literals_append quoteless []

theorem literals_quote (rest : List Char) : literals ('"' :: rest) =
    (split rest).bind fun r => (literals r.2).map (r.1 :: ·) := by
  rw [literals, if_pos rfl]
  split
  · rename_i found
    rw [found]
    rfl
  · rename_i missing
    rw [missing]
    rfl

theorem eq_of_split (h : split text = some (written, after)) : text = written ++ '"' :: after := by
  fun_induction split text generalizing written after with
  | case1 => cases h
  | case2 rest =>
    cases h
    rfl
  | case3 c rest ih =>
    obtain ⟨r, found, ⟨⟩⟩ := Option.map_eq_some_iff.1 h
    rw [ih found]
    rfl
  | case4 c rest _ _ ih =>
    obtain ⟨r, found, ⟨⟩⟩ := Option.map_eq_some_iff.1 h
    rw [ih found]
    rfl

/-- A quote in a literal has a backslash in front of it. -/
theorem quoteless_of_split (h : split text = some (written, after)) (unescaped : '\\' ∉ written) :
    '"' ∉ written := by
  fun_induction split text generalizing written after with
  | case1 => cases h
  | case2 rest =>
    cases h
    exact List.not_mem_nil
  | case3 c rest ih =>
    obtain ⟨r, found, ⟨⟩⟩ := Option.map_eq_some_iff.1 h
    exact absurd List.mem_cons_self unescaped
  | case4 c rest quote _ ih =>
    obtain ⟨r, found, ⟨⟩⟩ := Option.map_eq_some_iff.1 h
    rw [List.mem_cons, not_or] at unescaped ⊢
    exact ⟨fun same => quote same.symm, ih found unescaped.2⟩

theorem split_of_plain (plain : Plain written) (after : List Char) :
    split (written ++ '"' :: after) = some (written, after) := by
  induction written with
  | nil => rfl
  | cons c written ih =>
    obtain ⟨⟨quote, backslash, -⟩, rest⟩ := List.forall_mem_cons.1 plain
    rw [List.cons_append, split, ih rest]
    · rfl
    · exact quote
    · exact fun _ _ same => absurd same backslash

/-! ### Reading the literal -/

/-- What is read as one character in front of others is one longer than these. -/
theorem length_of_char {char? : Option Char} {rest? : Option (List Char)}
    (h : (char?.bind fun d => rest?.map (d :: ·)) = some text) :
    ∃ t, rest? = some t ∧ text.length = t.length + 1 := by
  obtain ⟨d, -, h⟩ := Option.bind_eq_some_iff.1 h
  obtain ⟨t, read, rfl⟩ := Option.map_eq_some_iff.1 h
  exact ⟨t, read, rfl⟩

/-- A literal is not shorter than what it stands for, and longer if there is a backslash in it: an
    escape has at least two characters. -/
theorem length_valueFrom {place : Place} (h : valueFrom place written = some text) :
    text.length ≤ written.length ∧ ('\\' ∈ written → text.length < written.length) := by
  fun_induction valueFrom place written generalizing text with
  | case1 => cases h
  | case2 =>
    cases h
    simp
  | case3 code digits rest ih =>
    obtain ⟨t, read, length⟩ := length_of_char h
    have ⟨least, less⟩ := ih read
    simp only [List.length_cons, List.mem_cons, length]
    refine ⟨by omega, ?_⟩
    rintro (⟨⟨⟩⟩ | backslash)
    have := less backslash
    omega
  | case4 code digits c rest _ _ ih =>
    have ⟨least, _⟩ := ih h
    simp only [List.length_cons]
    omega
  | case5 code digits c rest _ _ ih =>
    obtain ⟨digit, -, h⟩ := Option.bind_eq_some_iff.1 h
    have ⟨least, _⟩ := ih digit h
    simp only [List.length_cons]
    omega
  | case6 place rest _ ih =>
    have ⟨least, _⟩ := ih h
    simp only [List.length_cons]
    omega
  | case7 place rest _ ih =>
    have ⟨least, _⟩ := ih h
    simp only [List.length_cons]
    omega
  | case8 place h₁ h₂ rest _ ih =>
    obtain ⟨t, read, length⟩ := length_of_char h
    have ⟨least, _⟩ := ih read
    simp only [List.length_cons]
    omega
  | case9 place e rest _ _ _ _ ih =>
    obtain ⟨t, read, length⟩ := length_of_char h
    have ⟨least, _⟩ := ih read
    simp only [List.length_cons]
    omega
  | case10 => cases h
  | case11 c rest _ _ _ _ _ _ _ ih =>
    have ⟨least, _⟩ := ih h
    simp only [List.length_cons]
    omega
  | case12 => cases h
  | case13 place c rest _ _ _ _ _ backslash _ _ ih =>
    obtain ⟨t, read, rfl⟩ := Option.map_eq_some_iff.1 h
    have ⟨least, less⟩ := ih read
    simp only [List.length_cons, List.mem_cons]
    refine ⟨by omega, ?_⟩
    rintro (same | escaped)
    · exact absurd same.symm backslash
    · have := less escaped
      omega

theorem valueFrom_text_cons (backslash : c ≠ '\\') (rest : List Char) :
    valueFrom .text (c :: rest) =
      if c = '\r' then none else (valueFrom .text rest).map (c :: ·) := by
  rw [valueFrom, if_neg backslash]
  all_goals simp [backslash]

theorem valueFrom_of_plain (plain : Plain written) : valueFrom .text written = some written := by
  induction written with
  | nil => rfl
  | cons c written ih =>
    obtain ⟨⟨-, backslash, carriage⟩, rest⟩ := List.forall_mem_cons.1 plain
    rw [valueFrom_text_cons backslash, if_neg carriage, ih rest]
    rfl

theorem no_return_of_valueFrom (h : valueFrom .text written = some text)
    (unescaped : '\\' ∉ written) : '\r' ∉ written := by
  induction written generalizing text with
  | nil => exact List.not_mem_nil
  | cons c written ih =>
    rw [List.mem_cons, not_or] at unescaped ⊢
    rw [valueFrom_text_cons (Ne.symm unescaped.1)] at h
    split at h
    · cases h
    · rename_i carriage
      obtain ⟨t, read, rfl⟩ := Option.map_eq_some_iff.1 h
      exact ⟨Ne.symm carriage, ih read unescaped.2⟩

theorem length_withLineFeeds (text : List Char) :
    (withLineFeeds text).length ≤ text.length ∧
      (text.length ≤ (withLineFeeds text).length → withLineFeeds text = text) := by
  fun_induction withLineFeeds text with
  | case1 => simp
  | case2 rest ih =>
    have := ih.1
    simp only [List.length_cons]
    omega
  | case3 c rest _ ih =>
    simp only [List.length_cons, List.cons.injEq, true_and]
    exact ⟨by omega, fun least => ih.2 (by omega)⟩

theorem withLineFeeds_of_plain (plain : Plain text) : withLineFeeds text = text := by
  induction text with
  | nil => rfl
  | cons c text ih =>
    obtain ⟨⟨-, -, carriage⟩, rest⟩ := List.forall_mem_cons.1 plain
    rw [withLineFeeds, ih rest]
    exact fun _ same => absurd same carriage

/-- A literal that is no longer than what it stands for is written as it is. -/
theorem plain_of_value {whole : List Char} (found : split whole = some (written, after))
    (value : value? written = some text) (length : written.length ≤ text.length) :
    Plain written := by
  obtain ⟨shorter, same⟩ := length_withLineFeeds written
  obtain ⟨least, less⟩ := length_valueFrom value
  have same : withLineFeeds written = written := same (by omega)
  rw [value?, same] at value
  rw [same] at less
  have unescaped : '\\' ∉ written := fun escaped => by
    have := less escaped
    omega
  have quote := quoteless_of_split found unescaped
  have carriage := no_return_of_valueFrom value unescaped
  exact plain_iff.2 ⟨quote, unescaped, carriage⟩

/-! ### Reading a name -/

/-- The literal that starts in front of a name does not go beyond it. -/
theorem prefix_of_split (quoteless : '"' ∉ rest)
    (found : split (name ++ '"' :: rest) = some (written, after)) : written <+: name := by
  rcases List.append_eq_append_iff.1 (eq_of_split found) with ⟨more, whole, tail⟩ | ⟨more, whole, -⟩
  · cases more with
    | nil => exact ⟨[], by simpa using whole⟩
    | cons c more =>
      obtain ⟨-, inside⟩ := List.cons.inj tail
      exact absurd (inside ▸ List.mem_append_right more List.mem_cons_self) quoteless
  · exact ⟨more, whole.symm⟩

/-- A name between quotes is read back exactly when it is plain. -/
theorem reads_iff (hbefore : '"' ∉ before) (htype : '"' ∉ type) (hafter : '"' ∉ after) :
    ReadsField (before ++ ".try_get::<".toList ++ type ++ ", _>(\"".toList ++ name ++
      "\")".toList ++ after) name ↔ Plain name := by
  have opening : '"' ∉ before ++ ".try_get::<".toList ++ type ++ ", _>(".toList := by
    simp [hbefore, htype]
  have closing : '"' ∉ ')' :: after := by simp [hafter]
  have parts : before ++ ".try_get::<".toList ++ type ++ ", _>(\"".toList ++ name ++
      "\")".toList ++ after = (before ++ ".try_get::<".toList ++ type ++ ", _>(".toList) ++
        '"' :: (name ++ '"' :: ')' :: after) := by simp
  have literal : literals (before ++ ".try_get::<".toList ++ type ++ ", _>(\"".toList ++ name ++
      "\")".toList ++ after) = (split (name ++ '"' :: ')' :: after)).bind
        fun r => (literals r.2).map (r.1 :: ·) := by
    rw [parts, literals_append opening, literals_quote]
  constructor
  · rintro ⟨_, _, written, _, -, -, -, alone, value⟩
    rw [literal] at alone
    obtain ⟨⟨w, rest⟩, found, alone⟩ := Option.bind_eq_some_iff.1 alone
    obtain ⟨_, -, ⟨⟩⟩ := Option.map_eq_some_iff.1 alone
    -- The literal is a part of the name, and the name is no longer than the literal.
    have start := prefix_of_split closing found
    have length : name.length ≤ w.length :=
      (length_valueFrom value).1.trans (length_withLineFeeds w).1
    have whole : w = name := start.eq_of_length_le length
    exact whole ▸ plain_of_value found value start.length_le
  · intro plain
    refine ⟨before, type, name, after, rfl, hbefore, htype, ?_, ?_⟩
    · rw [literal, split_of_plain plain]
      simp [literals_eq_nil closing]
    · rw [value?, withLineFeeds_of_plain plain, valueFrom_of_plain plain]

end Literal

/-! ### Expressions of columns -/

/-- The storage type of every known type is free of quotes. -/
theorem Registry.Sound.quoteless {r : Registry} (h : r.Sound) {k : String} {t : ColumnType}
    (found : r.find? k = some t) : '"' ∉ t.storage.toList := by
  by_cases scalar : ∃ x : Scalar, x.rawName = k
  · obtain ⟨x, rfl⟩ := scalar
    cases found.symm.trans (h.scalars x)
    cases x <;> decide
  · rw [h.enums k t found (not_exists.1 scalar)]
    intro quote
    have alphanumeric := Name.isAlphanumeric_of_mem_exported quote
    exact absurd alphanumeric (by decide)

namespace ColumnType

variable {t : ColumnType} {row field : String} {nullable : Bool}

theorem decode_scalar {s : Scalar} (json : s ≠ .jsonb) :
    (scalar s).decode row field nullable =
      fetch row field (if nullable then s!"Option<{s.storage}>" else s.storage) := by
  cases s with
  | jsonb => exact absurd rfl json
  | _ => cases nullable <;> rfl

/-- Every expression fetches the field as a value of some type, and may do something with it. -/
theorem decode_eq_fetch (quoteless : '"' ∉ t.storage.toList) (row field : String)
    (nullable : Bool) : ∃ before type after,
      t.decode row field nullable = before ++ fetch row field type ++ after ∧
      '"' ∉ before.toList ∧ '"' ∉ type.toList ∧ '"' ∉ after.toList := by
  cases t with
  | scalar s =>
    by_cases json : s = .jsonb
    · subst json
      cases nullable with
      | false =>
        exact ⟨"serde_json::to_vec(&", "serde_json::Value", ")?", rfl, by decide, by decide,
          by decide⟩
      | true =>
        refine ⟨"", "Option<serde_json::Value>", ".map(|v| serde_json::to_vec(&v)).transpose()?",
          ?_, by decide, by decide, by decide⟩
        rw [String.empty_append]
        rfl
    · refine ⟨"", if nullable then s!"Option<{s.storage}>" else s.storage, "", ?_, by decide, ?_,
        by decide⟩
      · rw [decode_scalar json, String.empty_append, String.append_empty]
      · cases s <;> cases nullable <;> decide
  | enumeration name exported =>
    have quoteless : '"' ∉ exported.toList := quoteless
    cases nullable with
    | false =>
      refine ⟨"", "String", s!".parse::<{exported}>()?", ?_, by decide, by decide, ?_⟩
      · rw [String.empty_append]
        rfl
      · simp [toString, quoteless]
    | true =>
      refine ⟨"", "Option<String>", s!".map(|v| v.parse::<{exported}>()).transpose()?", ?_,
        by decide, by decide, ?_⟩
      · rw [String.empty_append]
        rfl
      · simp [toString, quoteless]

theorem decode_reads (quoteless : '"' ∉ t.storage.toList) (hrow : '"' ∉ row.toList) :
    Literal.ReadsField (t.decode row field nullable).toList field.toList ↔
      Literal.Plain field.toList := by
  obtain ⟨before, type, after, shape, hbefore, htype, hafter⟩ :=
    decode_eq_fetch quoteless row field nullable
  have parts : (t.decode row field nullable).toList =
      (before.toList ++ row.toList) ++ ".try_get::<".toList ++ type.toList ++ ", _>(\"".toList ++
        field.toList ++ "\")".toList ++ ('?' :: after.toList) := by
    rw [shape, fetch]
    simp [toString]
  rw [parts]
  exact Literal.reads_iff (by simp [hbefore, hrow]) htype (by simp [hafter])

end ColumnType

/-- READ: of a registry that was reached, every column whose type is known has an expression, and
    the expression reads the column exactly when its name has no quote, no backslash and no carriage
    return. -/
theorem Column.decode_reads_iff (calls : List Session.Call) (c : Column) (row : String)
    (quoteless : '"' ∉ row.toList)
    (known : (Session.start.run calls).types.contains c.typeName = true) :
    ∃ text, c.decode (Session.start.run calls).types row = .ok text ∧
      (Literal.ReadsField text.toList c.name.toList ↔
        ∀ x ∈ c.name.toList, x ≠ '"' ∧ x ≠ '\\' ∧ x ≠ '\r') := by
  obtain ⟨_, reached⟩ := Session.start.extends_run calls
  obtain ⟨t, found⟩ := Registry.contains_iff.1 known
  refine ⟨t.decode row c.name c.nullable, ?_, ColumnType.decode_reads ?_ quoteless⟩
  · rw [Column.decode, Column.type, Registry.lookup_eq_ok.2 found]
    rfl
  · exact reached.sound.quoteless found

theorem Column.decode_reads_iff_mood :
    '"' ∉ "row".toList ∧ (Session.start.run Session.mixed).types.contains "mood" = true ∧
    ∃ text, Column.decode ⟨1, "my mood", "mood", true, false⟩
        (Session.start.run Session.mixed).types "row" = .ok text ∧
      Literal.ReadsField text.toList "my mood".toList := by
  have quoteless : '"' ∉ "row".toList := by decide
  have known : (Session.start.run Session.mixed).types.contains "mood" = true := by cbv
  obtain ⟨text, decoded, reads⟩ :=
    Column.decode_reads_iff Session.mixed ⟨1, "my mood", "mood", true, false⟩ "row" quoteless known
  exact ⟨quoteless, known, text, decoded, reads.2 (by simp)⟩

/-- A quote in the name ends the literal early and opens another one, which is never closed. -/
theorem Column.decode_unread_quote :
    '"' ∉ "row".toList ∧ (Session.start.run []).types.contains "int8" = true ∧
    ∃ text, Column.decode ⟨1, "a\"b", "int8", false, false⟩ (Session.start.run []).types "row" =
        .ok text ∧
      Literal.literals text.toList = none ∧
      ¬ Literal.ReadsField text.toList "a\"b".toList := by
  have found : (Session.start.run []).types.find? "int8" = some (.scalar .int8) :=
    Registry.find?_fresh_rawName .int8
  have unclosed : Literal.literals "row.try_get::<i64, _>(\"a\"b\")?".toList = none := by cbv
  refine ⟨by decide, Registry.contains_iff.2 ⟨_, found⟩, "row.try_get::<i64, _>(\"a\"b\")?", ?_,
    unclosed, ?_⟩
  · rw [Column.decode, Column.type, Registry.lookup_eq_ok.2 found]
    exact congrArg Except.ok (by decide)
  · rintro ⟨_, _, _, _, -, -, -, alone, -⟩
    rw [unclosed] at alone
    cases alone

end Introspect
