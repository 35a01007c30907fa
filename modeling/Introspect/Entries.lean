/-! Maps from names: entries in ascending order of their names.

    An entry is put at its place among those that are there, and takes the place of one with the same
    name. So the order of insertion is seen at most in which of several values a name has at last. -/

namespace Introspect

variable {α : Type}

/-- Puts an entry at its place among entries in ascending order; one of the same name makes way. -/
def insertEntry (name : String) (value : α) : List (String × α) → List (String × α)
  | [] => [(name, value)]
  | e :: es =>
    if name < e.1 then (name, value) :: e :: es
    else if name = e.1 then (name, value) :: es
    else e :: insertEntry name value es

/-- Entries put in order; of several with one name the last counts. -/
def ascendingEntries (es : List (String × α)) : List (String × α) :=
  es.foldl (fun done e => insertEntry e.1 e.2 done) []

theorem mem_insertEntry {name : String} {value : α} {x : String × α} :
    ∀ {es : List (String × α)}, x ∈ insertEntry name value es → x = (name, value) ∨ x ∈ es
  | [], h => by simpa [insertEntry] using h
  | e :: es, h => by
    rw [insertEntry] at h
    split at h
    · simpa using h
    · split at h
      · exact (List.mem_cons.1 h).imp_right (List.mem_cons_of_mem e)
      · rcases List.mem_cons.1 h with rfl | h
        · simp
        · rcases mem_insertEntry h with h | h <;> simp [h]

theorem insertEntry_ascending (name : String) (value : α) :
    ∀ {es : List (String × α)}, es.Pairwise (·.1 < ·.1) →
      (insertEntry name value es).Pairwise (·.1 < ·.1)
  | [], _ => by simp [insertEntry]
  | e :: es, h => by
    have ⟨first, rest⟩ := List.pairwise_cons.1 h
    rw [insertEntry]
    split
    · rename_i below
      exact List.pairwise_cons.2 ⟨fun x hx => (List.mem_cons.1 hx).elim (· ▸ below)
        fun hx => String.lt_trans below (first x hx), h⟩
    · split
      · rename_i same
        exact List.pairwise_cons.2 ⟨fun x hx => same ▸ first x hx, rest⟩
      · rename_i notBelow differs
        have above : e.1 < name := Decidable.byContradiction fun no =>
          differs (String.le_antisymm (String.not_lt.1 no) (String.not_lt.1 notBelow))
        refine List.pairwise_cons.2 ⟨fun x hx => ?_, insertEntry_ascending name value rest⟩
        rcases mem_insertEntry hx with rfl | hx
        · exact above
        · exact first x hx

theorem ascendingEntries_ascending (es : List (String × α)) :
    (ascendingEntries es).Pairwise (·.1 < ·.1) := by
  have fold (es : List (String × α)) : ∀ done : List (String × α), done.Pairwise (·.1 < ·.1) →
      (es.foldl (fun done e => insertEntry e.1 e.2 done) done).Pairwise (·.1 < ·.1) := by
    induction es with
    | nil => exact fun _ h => h
    | cons e es ih => exact fun _ h => ih _ (insertEntry_ascending e.1 e.2 h)
  exact fold es [] .nil

end Introspect
