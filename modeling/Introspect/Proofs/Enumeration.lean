import Mathlib
import Introspect.Model.Enumeration
import Introspect.Proofs.Entries

/-! Enums: the names that are grouped from rows.

    A row adds its label to the enum of its name, or a new enum behind all others. So the names of
    the enums are those of the rows without repetitions (`mem_names_group`, `nodup_names_group`), in
    the order in which they are first met (`names_group`): of the names that have a property, the
    first among the enums is the first among the rows (`find?_names_group`).

    An enum is grouped from the rows of its name, whatever stands between them: its schema is that
    of the first of them, and its labels are those of all of them (`find?_group_eq`). So rows in
    another order give the same enums in another order, as long as those of each name keep theirs
    (`group_perm`). Nothing is lost and nothing added on the way, and the rows of the enums are
    grouped into the same enums again (`group_lossless`).

    It makes no difference whether the enum of a name is looked for in the list, or its place is kept
    in a map (`groupInSlots_eq`): the map knows of each name the place of its enum
    (`Slots.Tracks`). -/

namespace Introspect.Enumeration

variable {row : LabelRow} {rows : List LabelRow} {k : String}

theorem group_concat (rows : List LabelRow) (row : LabelRow) :
    group (rows ++ [row]) = addLabel row (group rows) := by
  rw [group, List.foldl_append]
  rfl

/-- A row adds a name behind the others, unless there is an enum of that name. -/
theorem names_addLabel (row : LabelRow) (es : List Enumeration) :
    (addLabel row es).map (·.name) =
      if row.name ∈ es.map (·.name) then es.map (·.name) else es.map (·.name) ++ [row.name] := by
  induction es with
  | nil => rfl
  | cons e es ih =>
    rw [addLabel]
    by_cases same : e.name = row.name
    · simp [same]
    · rw [if_neg same, List.map_cons, ih, List.map_cons]
      by_cases known : row.name ∈ es.map (·.name)
      · rw [if_pos known, if_pos (List.mem_cons_of_mem _ known)]
      · rw [if_neg known, if_neg (by simpa [Ne.symm same] using known), List.cons_append]

theorem nodup_names_group : ((group rows).map (·.name)).Nodup := by
  induction rows using List.reverseRecOn with
  | nil => simp [group]
  | append_singleton rows row ih =>
    rw [group_concat, names_addLabel]
    split
    · exact ih
    · rename_i new
      exact List.nodup_append.2 ⟨ih, List.nodup_singleton _, by simpa using new⟩

/-- The first name that has a property is the same among the enums and among the rows. -/
theorem find?_names_group (p : String → Bool) :
    ((group rows).map (·.name)).find? p = (rows.map (·.name)).find? p := by
  induction rows using List.reverseRecOn with
  | nil => rfl
  | append_singleton rows row ih =>
    rw [group_concat, names_addLabel, List.map_append, List.find?_append, ← ih]
    split
    · rename_i known
      cases found : ((group rows).map (·.name)).find? p with
      | some k => rfl
      | none =>
        have refused : ¬ p row.name = true := List.find?_eq_none.1 found _ known
        simp [refused]
    · rw [List.find?_append, List.map_cons, List.map_nil]

/-- The names of the enums are those of the rows, each where it is first met. -/
theorem names_group (rows : List LabelRow) :
    (group rows).map (·.name) = (rows.map (·.name)).eraseDups := by
  induction rows using List.reverseRecOn with
  | nil => rfl
  | append_singleton rows row ih =>
    have known : row.name ∈ (group rows).map (·.name) ↔ row.name ∈ rows.map (·.name) := by
      rw [ih, List.mem_eraseDups]
    rw [group_concat, names_addLabel, List.map_append, List.eraseDups_append, ← ih,
      List.map_singleton, List.cons_removeAll, List.contains_eq_mem]
    by_cases met : row.name ∈ rows.map (·.name)
    · rw [if_pos (known.2 met), if_neg (by simpa using met)]
      exact (List.append_nil _).symm
    · rw [if_neg (mt known.1 met), if_pos (by simpa using met)]
      rfl

theorem mem_names_group : k ∈ (group rows).map (·.name) ↔ ∃ row ∈ rows, row.name = k := by
  rw [names_group, List.mem_eraseDups, List.mem_map]

/-! ### Labels of an enum -/

/-- What a row adds is seen at its name only. -/
theorem find?_addLabel (row : LabelRow) (k : String) (es : List Enumeration) :
    (addLabel row es).find? (·.name = k) =
      if row.name = k then
        some ((es.find? (·.name = k)).elim ⟨row.schema, row.name, [row.value]⟩
          fun e => { e with values := e.values ++ [row.value] })
      else es.find? (·.name = k) := by
  induction es with
  | nil =>
    by_cases hk : row.name = k
    · simp [addLabel, hk]
    · simp [addLabel, hk]
  | cons e es ih =>
    rw [addLabel]
    by_cases same : e.name = row.name
    · by_cases hk : row.name = k
      · simp [same, hk]
      · simp [same, hk]
    · rw [if_neg same]
      by_cases he : e.name = k
      · have hk : row.name ≠ k := fun hk => same (he.trans hk.symm)
        simp [he, hk]
      · rw [List.find?_cons_of_neg (by simpa using he), ih,
          List.find?_cons_of_neg (by simpa using he)]

/-- The enum of a name has the schema of the first row of that name, and the labels of all of them
    in their order. -/
theorem find?_group_eq (rows : List LabelRow) (k : String) :
    (group rows).find? (·.name = k) = (rows.find? (·.name = k)).map fun row =>
      ⟨row.schema, k, (rows.filter (·.name = k)).map (·.value)⟩ := by
  induction rows using List.reverseRecOn with
  | nil => rfl
  | append_singleton rows row ih =>
    rw [group_concat, find?_addLabel, ih, List.find?_append, List.filter_append]
    by_cases hk : row.name = k
    · have last : [row].filter (·.name = k) = [row] := by simp [hk]
      rw [if_pos hk, last, List.map_append, hk]
      cases found : rows.find? (·.name = k) with
      | none =>
        have others : rows.filter (·.name = k) = [] := by
          rw [← List.head?_eq_none_iff, List.head?_filter, found]
        simp [others, hk]
      | some first => simp
    · have none : [row].filter (·.name = k) = [] := by simp [hk]
      rw [if_neg hk, none, List.append_nil]
      simp [hk]

theorem eq_of_mem_group {e : Enumeration} (he : e ∈ group rows) :
    ∃ row, rows.find? (·.name = e.name) = some row ∧
      e = ⟨row.schema, e.name, (rows.filter (·.name = e.name)).map (·.value)⟩ := by
  have found := (find?_key_of_nodup nodup_names_group).2 ⟨he, rfl⟩
  rw [find?_group_eq, Option.map_eq_some_iff] at found
  obtain ⟨row, first, same⟩ := found
  exact ⟨row, first, same.symm⟩

theorem values_ne_nil {e : Enumeration} (he : e ∈ group rows) : e.values ≠ [] := by
  obtain ⟨row, first, same⟩ := eq_of_mem_group he
  have hrow : row ∈ rows.filter (·.name = e.name) := by
    rw [← List.head?_filter] at first
    exact List.mem_of_head? first
  rw [same]
  exact List.ne_nil_of_mem (List.mem_map_of_mem hrow)

/-! ### Rows in another order -/

/-- The enum of a name is grouped from the rows of that name. -/
theorem find?_group (rows : List LabelRow) (k : String) :
    (group rows).find? (·.name = k) =
      (group (rows.filter (·.name = k))).find? (·.name = k) := by
  rw [find?_group_eq, find?_group_eq, List.filter_filter, List.find?_filter]
  simp

/-- Rows whose order is the same within each name give the same enums, up to their order. -/
theorem group_perm {rows' : List LabelRow}
    (order : ∀ k, rows.filter (·.name = k) = rows'.filter (·.name = k)) :
    (group rows).Perm (group rows') :=
  perm_of_find?_key nodup_names_group nodup_names_group fun k => by
    rw [find?_group, order, ← find?_group]

/-! ### Rows of enums -/

/-- Each row adds one label. -/
theorem sum_addLabel (row : LabelRow) (es : List Enumeration) :
    ((addLabel row es).map (·.values.length)).sum = (es.map (·.values.length)).sum + 1 := by
  induction es with
  | nil => rfl
  | cons e es ih =>
    rw [addLabel]
    split
    · simp only [List.map_cons, List.sum_cons, List.length_append, List.length_singleton]
      omega
    · rw [List.map_cons, List.sum_cons, ih, List.map_cons, List.sum_cons, Nat.add_assoc]

theorem sum_group (rows : List LabelRow) :
    ((group rows).map (·.values.length)).sum = rows.length := by
  induction rows using List.reverseRecOn with
  | nil => rfl
  | append_singleton rows row ih =>
    rw [group_concat, sum_addLabel, ih, List.length_append, List.length_singleton]

/-- A row of the last enum adds its label to that one. -/
theorem addLabel_last {es : List Enumeration} {name : String} (new : name ∉ es.map (·.name))
    (schema schema' v : String) (values : List String) :
    addLabel ⟨schema', name, v⟩ (es ++ [⟨schema, name, values⟩]) =
      es ++ [⟨schema, name, values ++ [v]⟩] := by
  induction es with
  | nil => simp [addLabel]
  | cons e es ih =>
    rw [List.map_cons, List.mem_cons, not_or] at new
    rw [List.cons_append, addLabel, if_neg (Ne.symm new.1), ih new.2, List.cons_append]

theorem addLabel_new {es : List Enumeration} (new : row.name ∉ es.map (·.name)) :
    addLabel row es = es ++ [⟨row.schema, row.name, [row.value]⟩] := by
  induction es with
  | nil => rfl
  | cons e es ih =>
    rw [List.map_cons, List.mem_cons, not_or] at new
    rw [addLabel, if_neg (Ne.symm new.1), ih new.2, List.cons_append]

/-- The rows of an enum under a new name add that enum. -/
theorem foldl_rows {es : List Enumeration} {e : Enumeration} (new : e.name ∉ es.map (·.name))
    (labelled : e.values ≠ []) :
    e.rows.foldl (fun es row => addLabel row es) es = es ++ [e] := by
  obtain ⟨schema, name, values⟩ := e
  induction values using List.reverseRecOn with
  | nil => exact absurd rfl labelled
  | append_singleton values v ih =>
    rw [rows, List.map_append, List.foldl_append, List.map_singleton, List.foldl_cons,
      List.foldl_nil]
    cases values with
    | nil => exact addLabel_new new
    | cons first values =>
      have before := ih new (List.cons_ne_nil first values)
      rw [rows] at before
      rw [before]
      exact addLabel_last new schema schema v _

/-- Enums under different names, each with a label, are grouped again from their rows. -/
theorem group_flatMap_rows {es : List Enumeration} (distinct : (es.map (·.name)).Nodup)
    (labelled : ∀ e ∈ es, e.values ≠ []) : group (es.flatMap Enumeration.rows) = es := by
  induction es using List.reverseRecOn with
  | nil => rfl
  | append_singleton es e ih =>
    have new : e.name ∉ es.map (·.name) := not_mem_before distinct
    rw [List.map_append, List.nodup_append] at distinct
    rw [List.forall_mem_append, List.forall_mem_singleton] at labelled
    rw [group, List.flatMap_append, List.flatMap_singleton, List.foldl_append]
    rw [← group, ih distinct.1 labelled.1]
    exact foldl_rows new labelled.2

/-! ### Places of enums in a map -/

/-- Enums, and the place of each name among them. -/
structure Slots where
  enums : List Enumeration
  places : List (String × Nat)

namespace Slots

/-- The place of the enum of a row; a new name gets one at the end, with an enum without labels. -/
def entry (st : Slots) (row : LabelRow) : Nat × Slots :=
  match st.places.find? (·.1 = row.name) with
  | some place => (place.2, st)
  | none => (st.enums.length,
      ⟨st.enums ++ [⟨row.schema, row.name, []⟩], insertEntry row.name st.enums.length st.places⟩)

/-- Adds the label of a row to the enum at the place of its name. -/
def add (st : Slots) (row : LabelRow) : Slots :=
  let (place, st) := st.entry row
  { st with enums := st.enums.modify place fun e => { e with values := e.values ++ [row.value] } }

/-- The places are those of the names among the enums. -/
structure Tracks (st : Slots) (es : List Enumeration) : Prop where
  enums : st.enums = es
  places : ∀ k, (st.places.find? (·.1 = k)).map (·.2) = (es.map (·.name)).findIdx? (· = k)

end Slots

/-- The enums of the given rows, with their places kept in a map. -/
def groupInSlots (rows : List LabelRow) : List Enumeration := (rows.foldl Slots.add ⟨[], []⟩).enums

/-- A row whose name is at a place adds its label there. -/
theorem addLabel_place {es : List Enumeration} {place : ℕ}
    (found : (es.map (·.name)).findIdx? (· = row.name) = some place) : addLabel row es =
      es.modify place fun e => { e with values := e.values ++ [row.value] } := by
  induction es generalizing place with
  | nil => cases found
  | cons e es ih =>
    rw [List.map_cons, List.findIdx?_cons] at found
    rw [addLabel]
    by_cases same : e.name = row.name
    · rw [if_pos (decide_eq_true same)] at found
      cases found
      rw [if_pos same]
      rfl
    · rw [if_neg (by simpa using same), Option.map_eq_some_iff] at found
      obtain ⟨place, found, rfl⟩ := found
      rw [if_neg same, ih found]
      rfl

namespace Slots.Tracks

variable {st : Slots} {es : List Enumeration}

/-- A row finds the place of its name, or makes one at which its label can be added. -/
theorem entry (h : st.Tracks es) (row : LabelRow) : ∃ es', (st.entry row).2.Tracks es' ∧
    (es'.map (·.name)).findIdx? (· = row.name) = some (st.entry row).1 ∧
    addLabel row es' = addLabel row es := by
  obtain ⟨rfl, places⟩ := h
  have here := places row.name
  rw [Slots.entry]
  cases found : st.places.find? (·.1 = row.name) with
  | some place =>
    rw [found] at here
    exact ⟨st.enums, ⟨rfl, places⟩, here.symm, rfl⟩
  | none =>
    rw [found, Option.map_none, eq_comm, List.findIdx?_eq_none_iff] at here
    have new : row.name ∉ st.enums.map (·.name) := fun met => by simpa using here _ met
    let added : List Enumeration := st.enums ++ [⟨row.schema, row.name, []⟩]
    have place (k : String) : (added.map (·.name)).findIdx? (· = k) =
        ((st.enums.map (·.name)).findIdx? (· = k)).or
          (if row.name = k then some st.enums.length else none) := by
      rw [List.map_append, List.findIdx?_append, List.map_singleton, List.findIdx?_singleton,
        List.length_map]
      by_cases hk : row.name = k
      · simp [hk]
      · simp [hk]
    refine ⟨added, ⟨rfl, fun k => ?_⟩, ?_, ?_⟩
    · rw [find?_insertEntry, place, ← places]
      by_cases hk : k = row.name
      · rw [if_pos hk, if_pos hk.symm, hk, found]
        rfl
      · rw [if_neg hk, if_neg (Ne.symm hk), Option.or_none]
    · rw [place, ← places, found, if_pos rfl]
      rfl
    · rw [addLabel_last new row.schema, addLabel_new new]
      rfl

/-- One row leaves the places right. -/
theorem add (h : st.Tracks es) (row : LabelRow) : (st.add row).Tracks (addLabel row es) := by
  obtain ⟨es', ⟨enums, places⟩, found, same⟩ := h.entry row
  have known : row.name ∈ es'.map (·.name) := by
    have some : ((es'.map (·.name)).findIdx? (· = row.name)).isSome = true := found ▸ rfl
    rw [List.findIdx?_isSome, List.any_eq_true] at some
    obtain ⟨k, hk, same⟩ := some
    exact of_decide_eq_true same ▸ hk
  refine ⟨?_, fun k => ?_⟩
  · rw [← same, addLabel_place found, ← enums]
    rfl
  · rw [← same, names_addLabel, if_pos known, ← places]
    rfl

end Slots.Tracks

/-- Keeping places gives the same enums. -/
theorem groupInSlots_eq (rows : List LabelRow) : groupInSlots rows = group rows := by
  have tracks : (rows.foldl Slots.add ⟨[], []⟩).Tracks (group rows) := by
    induction rows using List.reverseRecOn with
    | nil => exact ⟨rfl, fun _ => rfl⟩
    | append_singleton rows row ih =>
      rw [List.foldl_append, group_concat]
      exact ih.add row
  exact tracks.enums

/-- LOSSLESS: enums have different names, in the order in which rows first have them; the labels of
    each are those of the rows of its name, and its schema is that of the first of these; there are
    as many labels as rows; and the rows of the enums are grouped into the same enums again. All this
    holds whether places are looked for or kept in a map. -/
theorem group_lossless (rows : List LabelRow) :
    ((group rows).map (·.name)).Nodup ∧
    (group rows).map (·.name) = (rows.map (·.name)).eraseDups ∧
    (∀ e ∈ group rows, e.values = (rows.filter (·.name = e.name)).map (·.value) ∧
      ∃ row, rows.find? (·.name = e.name) = some row ∧ e.schema = row.schema) ∧
    ((group rows).map (·.values.length)).sum = rows.length ∧
    group ((group rows).flatMap Enumeration.rows) = group rows ∧
    groupInSlots rows = group rows := by
  refine ⟨nodup_names_group, names_group rows, fun e he => ?_, sum_group rows, ?_,
    groupInSlots_eq rows⟩
  · obtain ⟨row, first, same⟩ := eq_of_mem_group he
    exact ⟨congrArg values same, row, first, congrArg schema same⟩
  · exact group_flatMap_rows nodup_names_group fun e he => values_ne_nil he

/-- Rows of two enums by turns, a label of the first twice and one of it from another schema. -/
def mixedRows : List LabelRow :=
  [⟨"public", "size", "small"⟩, ⟨"public", "mood", "calm"⟩, ⟨"audit", "size", "large"⟩,
    ⟨"public", "size", "small"⟩]

/-- The enum of the first row. -/
def sizes : Enumeration := ⟨"public", "size", ["small", "large", "small"]⟩

theorem group_lossless_mixed : sizes ∈ group mixedRows ∧
    (sizes.values = (mixedRows.filter (·.name = sizes.name)).map (·.value) ∧
      ∃ row, mixedRows.find? (·.name = sizes.name) = some row ∧ sizes.schema = row.schema) ∧
    group ((group mixedRows).flatMap Enumeration.rows) = group mixedRows := by
  obtain ⟨-, -, each, -, again, -⟩ := group_lossless mixedRows
  have grouped : sizes ∈ group mixedRows := by decide
  exact ⟨grouped, each sizes grouped, again⟩

end Introspect.Enumeration
