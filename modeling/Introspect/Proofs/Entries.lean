import Introspect.Entries
import Introspect.Proofs.Distinct

/-! Entries in order: what is found under a name.

    An insertion is seen at its own name only (`find?_insertEntry`), so entries that were put in
    order give under each name the last value that they had for it. If their names differ, they are
    the same entries (`ascendingEntries_perm`), and in the same order if they were in order before
    (`ascendingEntries_of_ascending`). -/

namespace Introspect

variable {α : Type} {es es' : List (String × α)}

theorem nodup_of_ascending (h : es.Pairwise (·.1 < ·.1)) : (es.map (·.1)).Nodup := by
  refine List.pairwise_map.2 (h.imp ?_)
  intro x y below same
  exact String.lt_irrefl _ (same ▸ below)

/-- Entries in order are told by what is found among them. -/
theorem eq_of_find?_ascending (h : es.Pairwise (·.1 < ·.1)) (h' : es'.Pairwise (·.1 < ·.1))
    (same : ∀ k, es.find? (·.1 = k) = es'.find? (·.1 = k)) : es = es' :=
  (perm_of_find?_key (nodup_of_ascending h) (nodup_of_ascending h') same).eq_of_pairwise
    (fun _ _ _ _ below above => absurd above (String.lt_asymm below)) h h'

theorem find?_insertEntry (name k : String) (value : α) : ∀ {es : List (String × α)},
    (insertEntry name value es).find? (·.1 = k) =
      if k = name then some (name, value) else es.find? (·.1 = k)
  | [] => by
    rw [insertEntry, List.find?_cons, List.find?_nil]
    by_cases hk : k = name
    · simp [hk]
    · simp [hk, Ne.symm hk]
  | e :: es => by
    rw [insertEntry]
    split
    · by_cases hk : k = name
      · simp [hk]
      · rw [List.find?_cons_of_neg (by simpa using Ne.symm hk), if_neg hk]
    · split
      · rename_i same
        by_cases hk : k = name
        · simp [hk]
        · rw [if_neg hk, List.find?_cons_of_neg (by simpa using Ne.symm hk),
            List.find?_cons_of_neg (by simpa [← same] using Ne.symm hk)]
      · rename_i differs
        by_cases hx : e.1 = k
        · have hk : k ≠ name := fun hk => differs (hx.trans hk).symm
          rw [List.find?_cons_of_pos (by simpa using hx), if_neg hk,
            List.find?_cons_of_pos (by simpa using hx)]
        · rw [List.find?_cons_of_neg (by simpa using hx), find?_insertEntry name k value,
            List.find?_cons_of_neg (by simpa using hx)]

theorem find?_foldl_insertEntry (k : String) : ∀ {es done : List (String × α)},
    (es.foldl (fun done e => insertEntry e.1 e.2 done) done).find? (·.1 = k) =
      (es.reverse.find? (·.1 = k)).or (done.find? (·.1 = k))
  | [], done => rfl
  | e :: es, done => by
    rw [List.foldl_cons, find?_foldl_insertEntry k, find?_insertEntry, List.reverse_cons,
      List.find?_append, Option.or_assoc]
    by_cases hk : k = e.1
    · simp [hk]
    · simp [hk, Ne.symm hk]

/-- Among entries that were put in order a name finds the last entry that it had. -/
theorem find?_ascendingEntries (es : List (String × α)) (k : String) :
    (ascendingEntries es).find? (·.1 = k) = es.reverse.find? (·.1 = k) := by
  rw [ascendingEntries, find?_foldl_insertEntry, List.find?_nil, Option.or_none]

theorem mem_of_mem_ascendingEntries {e : String × α} (h : e ∈ ascendingEntries es) : e ∈ es := by
  have distinct := nodup_of_ascending (ascendingEntries_ascending es)
  have found : (ascendingEntries es).find? (·.1 = e.1) = some e :=
    (find?_key_of_nodup distinct).2 ⟨h, rfl⟩
  rw [find?_ascendingEntries] at found
  exact List.mem_reverse.1 (List.mem_of_find?_eq_some found)

theorem ascendingEntries_perm (distinct : (es.map (·.1)).Nodup) :
    (ascendingEntries es).Perm es := by
  refine perm_of_find?_key (nodup_of_ascending (ascendingEntries_ascending es)) distinct fun k => ?_
  rw [find?_ascendingEntries]
  exact (find?_key_perm es.reverse_perm.symm distinct).symm

theorem ascendingEntries_of_ascending (h : es.Pairwise (·.1 < ·.1)) : ascendingEntries es = es :=
  (ascendingEntries_perm (nodup_of_ascending h)).eq_of_pairwise
    (fun _ _ _ _ below above => absurd above (String.lt_asymm below))
    (ascendingEntries_ascending es) h

end Introspect
