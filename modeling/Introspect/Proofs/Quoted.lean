import Introspect.Text.Quoted
import Mathlib

/-! Quoted identifiers: reading is the inverse of quoting.

    Inside the outer quotes a double quote is read together with the one that follows it, and in a
    quoted name each double quote is followed by another. So what follows the opening quote is read
    exactly if it is a doubled name and the closing quote (`unquoteTail_eq_some`), and a key is read
    as the name of which it is the quoted form (`unquote_eq_some`).

    The same can be read in passes over the whole text: all pairs of quotes are left out, to see
    that no quote stands alone, and then each pair is read as one quote. Both passes pair the quotes
    as they were doubled (`eq_doubled_iff`). -/

namespace Introspect.Text

variable {c : Char} {key name tail : List Char}

theorem doubled_quote (name : List Char) :
    doubled ('"' :: name) = '"' :: '"' :: doubled name := rfl

theorem doubled_cons (plain : c ≠ '"') (name : List Char) :
    doubled (c :: name) = c :: doubled name := by
  rw [doubled, List.flatMap_cons, if_neg plain]
  rfl

theorem unquoteTail_cons (plain : c ≠ '"') (tail : List Char) :
    unquoteTail (c :: tail) = (unquoteTail tail).map (c :: ·) := by
  rw [unquoteTail, if_neg plain]
  · exact fun h _ => plain h
  · exact fun _ h _ => plain h

/-- A doubled name is read as the name, whatever follows it. -/
theorem unquoteTail_doubled_append (name tail : List Char) :
    unquoteTail (doubled name ++ tail) = (unquoteTail tail).map (name ++ ·) := by
  induction name with
  | nil => exact Option.map_id'.symm
  | cons c name ih =>
    by_cases quote : c = '"'
    · subst quote
      rw [doubled_quote, List.cons_append, List.cons_append, unquoteTail, ih, Option.map_map]
      rfl
    · rw [doubled_cons quote, List.cons_append, unquoteTail_cons quote, ih, Option.map_map]
      rfl

theorem unquoteTail_doubled (name : List Char) :
    unquoteTail (doubled name ++ ['"']) = some name := by
  rw [unquoteTail_doubled_append, unquoteTail, Option.map_some, List.append_nil]

/-- What follows the opening quote is read exactly if it is a doubled name and a quote. -/
theorem unquoteTail_eq_some : unquoteTail tail = some name ↔ tail = doubled name ++ ['"'] := by
  constructor
  · intro h
    fun_induction unquoteTail tail generalizing name with
    | case1 =>
      obtain rfl := Option.some.inj h
      rfl
    | case2 rest ih =>
      obtain ⟨before, read, rfl⟩ := Option.map_eq_some_iff.1 h
      rw [doubled_quote, ih read]
      rfl
    | case3 => cases h
    | case4 c rest _ _ plain ih =>
      obtain ⟨before, read, rfl⟩ := Option.map_eq_some_iff.1 h
      rw [doubled_cons plain, ih read]
      rfl
    | case5 => cases h
  · rintro rfl
    exact unquoteTail_doubled name

/-- A key is read exactly if it is the quoted form of a name that is not empty. -/
theorem unquote_eq_some : unquote key = some name ↔ name ≠ [] ∧ key = quote name := by
  have opened (tail : List Char) : unquote ('"' :: tail) = some name ↔
      name ≠ [] ∧ '"' :: tail = quote name := by
    rw [unquote, Option.filter_eq_some_iff, unquoteTail_eq_some, quote, List.cons_inj_right,
      and_comm]
    simp
  cases key with
  | nil => simp [unquote, quote]
  | cons c tail =>
    by_cases opening : c = '"'
    · subst opening
      exact opened tail
    · have closed : unquote (c :: tail) = none := by
        rw [unquote]
        exact fun _ h => opening (List.cons.inj h).1
      simp [closed, quote, opening]

theorem length_lt_quote (name : List Char) : name.length < (quote name).length := by
  have doubles : name.length ≤ (doubled name).length := by
    induction name with
    | nil => rfl
    | cons c name ih =>
      by_cases quote : c = '"'
      · subst quote
        simp only [doubled_quote, List.length_cons]
        omega
      · simp only [doubled_cons quote, List.length_cons]
        omega
  simp only [quote, List.length_cons, List.length_append]
  omega

/-- A quote with no other beside it cannot stand inside the outer quotes. -/
theorem unquote_quote_append (name : List Char) (plain : c ≠ '"') (rest : List Char) :
    unquote (quote name ++ c :: rest) = none := by
  have stops : unquoteTail ('"' :: c :: rest) = none := by
    rw [unquoteTail, if_pos rfl]
    · simp
    · exact fun _ _ h => plain (List.cons.inj h).1
  rw [quote, List.cons_append, List.append_assoc, List.singleton_append, unquote,
    unquoteTail_doubled_append, stops]
  rfl

/-! ### Reading in passes -/

/-- What stands between a quote in front and a quote at the end. -/
def between? : List Char → Option (List Char)
  | '"' :: rest => if rest.getLast? = some '"' then some rest.dropLast else none
  | _ => none

/-- Writes `new` for each pair of quotes; they are paired from left to right. -/
def replacePairs (new : List Char) : List Char → List Char
  | '"' :: '"' :: rest => new ++ replacePairs new rest
  | c :: rest => c :: replacePairs new rest
  | [] => []

/-- Reads a quoted name in passes: the outer quotes are taken off, then all pairs of quotes are left
    out to see whether a quote stands alone, and at last each pair is read as one quote. -/
def unquoteInPasses (key : List Char) : Option (List Char) :=
  (between? key).bind fun inner =>
    if inner = [] ∨ '"' ∈ replacePairs [] inner then none else some (replacePairs ['"'] inner)

theorem between?_eq_some : between? key = some tail ↔ key = '"' :: (tail ++ ['"']) := by
  cases key with
  | nil => simp [between?]
  | cons c rest =>
    by_cases opening : c = '"'
    · subst opening
      rw [between?, List.cons_inj_right]
      constructor
      · intro h
        split at h
        · next closing =>
          obtain ⟨before, rfl⟩ := List.getLast?_eq_some_iff.1 closing
          rw [List.dropLast_concat] at h
          rw [Option.some.inj h]
        · cases h
      · rintro rfl
        rw [if_pos List.getLast?_concat, List.dropLast_concat]
    · have unopened : between? (c :: rest) = none := by
        rw [between?]
        exact fun _ h => opening (List.cons.inj h).1
      simp [unopened, opening]

theorem replacePairs_cons (plain : c ≠ '"') (new rest : List Char) :
    replacePairs new (c :: rest) = c :: replacePairs new rest := by
  rw [replacePairs]
  exact fun _ h _ => plain h

/-- The pairs of a doubled name are its quotes. -/
theorem replacePairs_doubled (new name : List Char) :
    replacePairs new (doubled name) = name.flatMap fun c => if c = '"' then new else [c] := by
  induction name with
  | nil => rfl
  | cons c name ih =>
    rw [List.flatMap_cons, ← ih]
    by_cases quote : c = '"'
    · subst quote
      rw [doubled_quote, replacePairs, if_pos rfl]
    · rw [doubled_cons quote, replacePairs_cons quote, if_neg quote, List.singleton_append]

theorem quote_not_mem_pairless (name : List Char) : '"' ∉ replacePairs [] (doubled name) := by
  rw [replacePairs_doubled, List.mem_flatMap]
  rintro ⟨c, -, hc⟩
  split at hc
  · cases hc
  · next plain => exact plain (List.mem_singleton.1 hc).symm

theorem replacePairs_quote_doubled (name : List Char) :
    replacePairs ['"'] (doubled name) = name := by
  have same : (fun c => if c = '"' then ['"'] else [c]) = fun c : Char => [c] := by
    funext c
    split
    · next quote => rw [quote]
    · rfl
  rw [replacePairs_doubled, same, List.flatMap_singleton']

/-- If no quote stands alone, both passes pair the quotes as they were doubled. -/
theorem doubled_replacePairs (paired : '"' ∉ replacePairs [] tail) :
    doubled (replacePairs ['"'] tail) = tail := by
  fun_induction replacePairs [] tail with
  | case1 rest ih =>
    rw [replacePairs, List.singleton_append, doubled_quote, ih paired]
  | case2 c rest notPair ih =>
    obtain ⟨plain, paired⟩ := not_or.1 (List.mem_cons.not.1 paired)
    rw [replacePairs_cons (Ne.symm plain), doubled_cons (Ne.symm plain), ih paired]
  | case3 => rfl

theorem eq_doubled_iff : tail = doubled name ↔
    '"' ∉ replacePairs [] tail ∧ replacePairs ['"'] tail = name := by
  constructor
  · rintro rfl
    exact ⟨quote_not_mem_pairless name, replacePairs_quote_doubled name⟩
  · rintro ⟨paired, rfl⟩
    exact (doubled_replacePairs paired).symm

theorem doubled_eq_nil : doubled name = [] ↔ name = [] := by
  rw [eq_comm, eq_doubled_iff]
  simp [replacePairs, eq_comm]

theorem unquoteInPasses_eq_some :
    unquoteInPasses key = some name ↔ name ≠ [] ∧ key = quote name := by
  rw [unquoteInPasses, Option.bind_eq_some_iff]
  simp only [between?_eq_some]
  constructor
  · rintro ⟨tail, rfl, read⟩
    split at read
    · cases read
    · next accepted =>
      obtain ⟨something, paired⟩ := not_or.1 accepted
      obtain rfl := eq_doubled_iff.2 ⟨paired, Option.some.inj read⟩
      exact ⟨fun empty => something (doubled_eq_nil.2 empty), rfl⟩
  · rintro ⟨something, rfl⟩
    obtain ⟨paired, read⟩ := eq_doubled_iff.1 (Eq.refl (doubled name))
    refine ⟨doubled name, rfl, ?_⟩
    rw [if_neg (not_or.2 ⟨fun empty => something (doubled_eq_nil.1 empty), paired⟩), read]

/-- INVERSE: a key is read as a name exactly if the name is not empty and the key is its quoted form,
    and reading in passes comes to the same. So each name that is not empty survives quoting, with
    all its quotes, and two quoted names with an operator between them are no name. -/
theorem unquote_inverse (key name : List Char) :
    (unquote key = some name ↔ name ≠ [] ∧ key = quote name) ∧
    unquoteInPasses key = unquote key ∧
    (name ≠ [] → unquote (quote name) = some name) ∧
    ∀ operator other : List Char, operator ≠ [] → '"' ∉ operator →
      unquote (quote name ++ operator ++ quote other) = none := by
  refine ⟨unquote_eq_some, ?_, fun something => unquote_eq_some.2 ⟨something, rfl⟩, ?_⟩
  · refine Option.ext fun name => ?_
    rw [unquoteInPasses_eq_some, unquote_eq_some]
  · intro operator other some plain
    obtain ⟨c, rest, rfl⟩ := List.exists_cons_of_ne_nil some
    rw [List.append_assoc, List.cons_append]
    exact unquote_quote_append name (fun quote => plain (quote ▸ List.mem_cons_self)) _

theorem unquote_inverse_runs : "\"a\"\"".toList ≠ [] ∧
    unquote "\"\"\"a\"\"\"\"\"".toList = some "\"a\"\"".toList ∧
    " || ".toList ≠ [] ∧ '"' ∉ " || ".toList ∧ unquote "\"a\" || \"b\"".toList = none := by
  have something : "\"a\"\"".toList ≠ [] := by decide
  have operator : " || ".toList ≠ [] ∧ '"' ∉ " || ".toList := by decide
  refine ⟨something, (unquote_inverse _ _).1.2 ⟨something, by rfl⟩, operator.1, operator.2, ?_⟩
  exact (unquote_inverse [] "a".toList).2.2.2 " || ".toList "b".toList operator.1 operator.2

/-! ### Quoted texts -/

/-- The quoted form of a name, as a text. -/
def quoted (name : String) : String := .ofList (quote name.toList)

theorem unquote_toList_eq_some {key : String} : unquote key.toList = some name ↔
    String.ofList name ≠ "" ∧ key = quoted (.ofList name) := by
  have form : key = quoted (.ofList name) ↔ key.toList = quote name := by
    rw [quoted, ← String.toList_inj, String.toList_ofList, String.toList_ofList]
  have something : String.ofList name ≠ "" ↔ name ≠ [] := by
    rw [ne_eq, ← String.toList_inj, String.toList_ofList]
    rfl
  rw [unquote_eq_some, form, something]

theorem ne_quoted (name : String) : name ≠ quoted name := by
  intro same
  have longer := length_lt_quote name.toList
  rw [quoted, ← String.toList_inj, String.toList_ofList] at same
  rw [← same] at longer
  exact lt_irrefl _ longer

end Introspect.Text
