import Introspect.Proofs.Casing
import Introspect.Query.Basic

/-! Names of lookup queries: what exporting them a second time changes.

    The name of a lookup query is `Get` and an exported name, and is exported again. Casing does
    change exported names: in `IPAddress` it takes the `P` and the `A` for the rest of a word. But
    behind a small letter every capital starts a word and so stays one (`cased_eq_self`). Behind
    `Get` casing therefore changes nothing, and all that is left to write is an acronym that the
    exported name has more than once (`lookup_exported`). -/

namespace Introspect

namespace Name

open Introspect.Text

variable {c : Char} {p : Position} {s : List Char}

theorem isLower_of_ascii (ascii : c.toNat < 128) (kept : isAlphanumeric c = true)
    (letter : isNumeral c = false) (small : isUpper c = false) : c.isLower = true := by
  rw [isAlphanumeric, letter, Bool.or_false, isLetter, if_pos ascii] at kept
  rw [isUpper, if_pos ascii] at small
  rwa [Char.isAlpha, small, Bool.false_or] at kept

theorem not_small_of_ascii (ascii : c.toNat < 128) (capital : isUpper c = true) :
    ¬ c.isLower = true := by
  rw [isUpper, if_pos ascii] at capital
  exact Char.not_isLower_of_isUpper capital

/-- Casing changes nothing behind a small letter, if all is ASCII and numerals end words. -/
theorem cased_eq_self (plain : ∀ c ∈ s, c.toNat < 128 ∧ isAlphanumeric c = true)
    (words : NumeralsEndWords s) (behind : isLower p.previous = true)
    (start : p.wordStart = true → ∀ c ∈ s.head?, c.isLower = false) : cased p s = s := by
  fun_induction cased p s with
  | case1 => rfl
  | case2 p c rest separator ih =>
    have kept := (plain c List.mem_cons_self).2
    simp [kept] at separator
  | case3 p c rest kept numeral ih =>
    obtain ⟨-, plain⟩ := List.forall_mem_cons.1 plain
    obtain ⟨next, words⟩ := List.isChain_cons.1 words
    rw [ih plain words behind fun _ d hd => next d hd numeral]
  | case4 p c rest kept letter capital ih =>
    obtain ⟨⟨ascii, -⟩, plain⟩ := List.forall_mem_cons.1 plain
    -- It follows a numeral, or is a capital itself.
    have same : c.toUpper = c := by
      refine Char.toUpper_eq_of_not_isLower fun small => ?_
      rw [Position.capital, behind, Bool.true_and, Bool.or_eq_true] at capital
      rcases capital with begins | capital
      · simp [start begins c rfl] at small
      · exact not_small_of_ascii ascii capital small
    rw [same, ih plain (List.isChain_cons.1 words).2 behind (by simp)]
  | case5 p c rest kept letter small ih =>
    obtain ⟨⟨ascii, kept⟩, plain⟩ := List.forall_mem_cons.1 plain
    -- It is no capital, so what follows stands behind a small letter again.
    rw [Position.capital, behind, Bool.true_and, Bool.or_eq_true, not_or] at small
    have lower : c.isLower = true :=
      isLower_of_ascii ascii kept (by simpa using letter) (by simpa using small.2)
    have stays : isLower c = true := by rwa [isLower, if_pos ascii]
    rw [Char.toLower_eq_of_not_isUpper (Char.not_isUpper_of_isLower lower),
      ih plain (List.isChain_cons.1 words).2 stays (by simp)]

example : exported "ip_address" = "IPAddress" ∧ exported "IPAddress" = "IPaddress" := by
  constructor <;> cbv

theorem ascii_of_mem_exported {name : String} (ascii : ∀ c ∈ name.toList, c.toNat < 128)
    (hc : c ∈ (exported name).toList) : c.toNat < 128 := by
  obtain ⟨d, hd, -, same⟩ := exists_of_mem_exported hc
  have letters : ∀ c : Char, c.isAlpha = true → decide (c.toNat < 128) = true :=
    fun _ letter => decide_eq_true (ascii_of_isAlpha letter)
  have both := eq_of_toLower_eq letters same
  rw [decide_eq_true (ascii d hd)] at both
  exact of_decide_eq_true both.symm

/-- `Get` is cased as it is, and what follows stands behind its small letters. -/
theorem pascalCase_get (s : List Char) :
    pascalCase ("Get".toList ++ s) = "Get".toList ++ cased ⟨false, 't', true⟩ s := rfl

/-- Behind `Get`, the second casing of an exported name changes nothing. -/
theorem pascalCase_get_exported {name : String} (ascii : ∀ c ∈ name.toList, c.toNat < 128) :
    pascalCase ("Get" ++ exported name).toList = ("Get" ++ exported name).toList := by
  have plain : ∀ c ∈ (exported name).toList, c.toNat < 128 ∧ isAlphanumeric c = true :=
    fun c hc => ⟨ascii_of_mem_exported ascii hc, isAlphanumeric_of_mem_exported hc⟩
  have behind : isLower 't' = true := rfl
  rw [String.toList_append, pascalCase_get,
    cased_eq_self plain (spells_exported name).words behind (by simp)]

/-- No acronym starts within `Get`. -/
theorem withAcronyms_get (s : List Char) :
    withAcronyms ("Get".toList ++ s) = "Get".toList ++ withAcronyms s := by
  have get : "Get".toList ++ s = 'G' :: 'e' :: 't' :: s := rfl
  rw [get, withAcronyms_cons_of_ne (by decide), withAcronyms_cons_of_ne (by decide),
    withAcronyms_cons_of_ne (by decide)]
  rfl

end Name

/-- RE-EXPORTED: casing the name of a lookup query again changes nothing, so exporting it writes
    what acronyms are left in the exported name of the table, and changes nothing exactly if none
    is. -/
theorem lookup_exported (t : Table) (ascii : ∀ c ∈ t.name.toList, c.toNat < 128) :
    Name.pascalCase ("Get" ++ t.exported).toList = ("Get" ++ t.exported).toList ∧
      Name.exported ("Get" ++ t.exported) = "Get" ++ .ofList (Name.withAcronyms t.exported.toList) ∧
      ((Query.lookup t).exported = (Query.lookup t).name ↔
        ∀ token ∈ ["Id", "Ip", "Url"], ¬ token.toList <:+: t.exported.toList) := by
  have again : Name.exported ("Get" ++ t.exported) =
      "Get" ++ .ofList (Name.withAcronyms t.exported.toList) := by
    rw [Name.exported, Table.exported, Name.pascalCase_get_exported ascii, String.toList_append,
      Name.withAcronyms_get, String.ofList_append, String.ofList_toList]
  have written : (Query.lookup t).exported = (Query.lookup t).name ↔
      Name.withAcronyms t.exported.toList = t.exported.toList := by
    rw [Query.exported, Query.lookup, Query.lookupName, again, String.append_right_inj,
      ← String.toList_inj, String.toList_ofList]
  have tokens : (∀ token ∈ ["Id", "Ip", "Url"], ¬ token.toList <:+: t.exported.toList) ↔
      ∀ a ∈ Name.acronyms, ¬ a.titled <:+: t.exported.toList := by
    simp [Name.acronyms]
  refine ⟨Name.pascalCase_get_exported ascii, again, ?_⟩
  rw [written, Name.withAcronyms_eq_self_iff, tokens]

/-- A table whose exported name has one acronym written and one left. -/
def ancestry : Table := ⟨"", "public", "id_parent_id", [], [], []⟩

theorem lookup_exported_ancestry : (∀ c ∈ ancestry.name.toList, c.toNat < 128) ∧
    Name.exported ("Get" ++ ancestry.exported) = "GetIDParentID" ∧
    (Query.lookup ancestry).exported ≠ (Query.lookup ancestry).name := by
  have ascii : ∀ c ∈ ancestry.name.toList, c.toNat < 128 := by simp [ancestry]
  obtain ⟨-, again, same⟩ := lookup_exported ancestry ascii
  have exported : ancestry.exported = "IDParentId" := by cbv
  refine ⟨ascii, ?_, fun unchanged => ?_⟩
  · rw [again, exported]
    cbv
  · have left := same.1 unchanged "Id" (by simp)
    rw [exported] at left
    exact left (by decide)

end Introspect
