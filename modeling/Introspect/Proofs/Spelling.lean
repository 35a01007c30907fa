import Introspect.Proofs.Casing
import Introspect.Proofs.Report

/-! Spelling: the names of generated code keep the letters of the name, and show where words begin.

    Exported and camel names are spelled as the name is, and numerals end words in them. They differ
    in the first letter, which is never small in an exported name and never a capital in a camel
    name. Names that are exported alike are therefore spelled alike, and so are definitions of which
    one is refused because of the other (`names_spelled`). -/

namespace Introspect

namespace Name

variable {name name' : String}

theorem not_small_exported (name : String) :
    ∀ c ∈ (exported name).toList.head?, c.isLower = false := by
  rw [exported, String.toList_ofList, head?_withAcronyms]
  exact not_small_of_wordStart rfl

theorem not_capital_camel (name : String) :
    ∀ c ∈ (camel name).toList.head?, c.isUpper = false := by
  rw [camel, String.toList_ofList, head?_withAcronyms]
  exact not_capital_of_not_wordStart rfl rfl rfl

theorem spelling_eq_of_exported_eq (same : exported name = exported name') :
    spelling name = spelling name' := by
  rw [← lower_exported, same, lower_exported]

end Name

/-- SPELLED: exported and camel names have the letters of the name, begin words as they should, and
    clash only with names that have the same letters. -/
theorem names_spelled :
    (∀ name, Name.Spells name (Name.exported name).toList ∧
      Name.Spells name (Name.camel name).toList ∧
      (∀ c ∈ (Name.exported name).toList.head?, c.isLower = false) ∧
      ∀ c ∈ (Name.camel name).toList.head?, c.isUpper = false) ∧
    ∀ (ds : List Definition) (s : Schema) (n : String),
      .duplicateQuery n ∈ reported (resolve ds s) →
      ∃ before d after, ds = before ++ d :: after ∧ d.name = n ∧ (d.TakesLookup s ∨
        ∃ e ∈ before, e.exported = d.exported ∧ Name.spelling e.name = Name.spelling d.name) := by
  refine ⟨fun name => ⟨Name.spells_exported name, Name.spells_camel name,
    Name.not_small_exported name, Name.not_capital_camel name⟩, fun ds s n refused => ?_⟩
  rw [reported_resolve] at refused
  obtain ⟨before, d, after, parts, named, defect⟩ := defect_of_mem refused
  refine ⟨before, d, after, parts, named.symm, ?_⟩
  cases defect with
  | fault fault => exact absurd rfl fault.ne_duplicateQuery
  | name taken =>
    rcases taken with ⟨e, he, same⟩ | taken
    · exact .inr ⟨e, he, same, Name.spelling_eq_of_exported_eq same⟩
    · exact .inl taken

/-- Two definitions whose names differ in case and separators. -/
def doubles : List Definition := [.new "user_id2x" "users", .new "user-Id 2X" "users"]

/-- A table of users, without columns. -/
def userSchema : Schema := ⟨"public", [], [⟨"", "public", "users", [], [], []⟩]⟩

theorem names_spelled_doubles :
    ('U' ∈ (Name.exported "user_id2x").toList.head? ∧ 'U'.isLower = false) ∧
    ('u' ∈ (Name.camel "user_id2x").toList.head? ∧ 'u'.isUpper = false) ∧
    .duplicateQuery "user-Id 2X" ∈ reported (resolve doubles userSchema) ∧
    ∃ before d after, doubles = before ++ d :: after ∧ d.name = "user-Id 2X" ∧
      (d.TakesLookup userSchema ∨ ∃ e ∈ before, e.exported = d.exported ∧
        Name.spelling e.name = Name.spelling d.name) := by
  obtain ⟨names, clashes⟩ := names_spelled
  obtain ⟨-, -, noSmall, noCapital⟩ := names "user_id2x"
  have exported : 'U' ∈ (Name.exported "user_id2x").toList.head? := by cbv
  have camel : 'u' ∈ (Name.camel "user_id2x").toList.head? := by cbv
  have outcome : resolve doubles userSchema = .error [.duplicateQuery "user-Id 2X"] := by cbv
  have refused : .duplicateQuery "user-Id 2X" ∈ reported (resolve doubles userSchema) := by
    rw [outcome]
    exact List.mem_singleton_self _
  exact ⟨⟨exported, noSmall 'U' exported⟩, ⟨camel, noCapital 'u' camel⟩, refused,
    clashes doubles userSchema _ refused⟩

end Introspect
