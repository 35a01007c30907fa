import Mathlib
import Introspect.Toml.Reader

/-! How far a TOML text is read.

    No reader leaves more than there was, and most leave less: a key, a quoted text or a sign takes up
    a character. Values are read by readers that know how deep others may be nested in them, so it is
    the depth that carries this over to them (`value_length`). A statement then takes up a character
    (`Draft.statement_length`), and the number of statements that may be read never comes into play:
    all that exceed the length of the text are as good (`Draft.statements_congr`). -/

namespace Introspect.Toml

variable {α : Type} {s rest text : List Char} {a : α} {c : Char}

/-! ### Blanks and comments -/

theorem skipSpaces_length (s : List Char) : (skipSpaces s).length ≤ s.length :=
  (List.dropWhile_sublist _).length_le

theorem filler_length {inComment : Bool} (h : filler inComment s = some rest) :
    rest.length ≤ s.length := by
  induction s generalizing inComment with
  | nil =>
    cases h
    rfl
  | cons c s ih =>
    rw [filler] at h
    split_ifs at h
    all_goals first
      | exact Nat.le_succ_of_le (ih h)
      | (cases h; rfl)

theorem comment_length (h : comment s = some rest) : rest.length ≤ s.length := by
  induction s with
  | nil =>
    cases h
    rfl
  | cons c s ih =>
    rw [comment] at h
    split_ifs at h
    · cases h
      rfl
    · exact Nat.le_succ_of_le (ih h)

theorem lineBreak?_length (h : lineBreak? s = some rest) : rest.length < s.length := by
  unfold lineBreak? at h
  split at h <;> cases h <;> simp

theorem lineEnd_length (h : lineEnd s = some rest) : rest.length ≤ s.length := by
  have skipped := skipSpaces_length s
  rw [lineEnd] at h
  obtain ⟨line, toBreak, h⟩ := Option.bind_eq_some_iff.1 h
  have shorter : line.length ≤ s.length := by
    split at toBreak
    · rename_i tail mark
      have inside := comment_length toBreak
      rw [mark, List.length_cons] at skipped
      omega
    · cases toBreak
      exact skipped
  split at h
  · cases h
    simp
  · exact (lineBreak?_length h).le.trans shorter

/-! ### Quoted texts -/

/-- Putting a character before a text leaves what follows the text. -/
theorem prepend_length {o : Option Char} {tail : Option (List Char × List Char)} {n : ℕ}
    (shorter : ∀ {before}, tail = some (before, rest) → rest.length < n)
    (h : prepend o tail = some (text, rest)) : rest.length < n := by
  obtain ⟨c, -, h⟩ := Option.bind_eq_some_iff.1 h
  obtain ⟨⟨before, left⟩, found, h⟩ := Option.bind_eq_some_iff.1 h
  cases h
  exact shorter found

theorem textBody_length {f : TextForm} {trim : Bool} (h : textBody f trim s = some (text, rest)) :
    rest.length < s.length := by
  fun_induction textBody f trim s generalizing text with
  | case1 | case11 | case13 | case15 => cases h
  | case2 | case6 =>
    rename_i ih
    exact Nat.lt_succ_of_lt (ih h)
  | case3 | case7 | case8 | case9 | case10 | case12 | case14 =>
    rename_i ih
    have shorter := prepend_length ih h
    simp only [List.length_cons]
    omega
  | case4 =>
    cases h
    simp only [List.length_drop, List.length_cons]
    omega
  | case5 =>
    cases h
    simp

theorem asString_length {r : Option (List Char × List Char)} {v : String} {n : ℕ}
    (shorter : ∀ {text}, r = some (text, rest) → rest.length < n)
    (h : r.map asString = some (v, rest)) : rest.length < n := by
  obtain ⟨⟨text, left⟩, found, same⟩ := Option.map_eq_some_iff.1 h
  cases same
  exact shorter found

theorem lineText?_length {v : String} (h : lineText? s = some (v, rest)) :
    rest.length < s.length := by
  unfold lineText? at h
  split at h
  · exact Nat.lt_succ_of_lt (asString_length textBody_length h)
  · exact Nat.lt_succ_of_lt (asString_length textBody_length h)
  · cases h

theorem dropFirstBreak_length (s : List Char) : (dropFirstBreak s).length ≤ s.length := by
  rw [dropFirstBreak]
  cases h : lineBreak? s with
  | none => rfl
  | some rest => exact (lineBreak?_length h).le

theorem quotedText?_length {v : String} (h : quotedText? s = some (v, rest)) :
    rest.length < s.length := by
  unfold quotedText? at h
  split at h
  · rename_i tail
    have shorter := asString_length textBody_length h
    have dropped := dropFirstBreak_length tail
    simp only [List.length_cons]
    omega
  · rename_i tail
    have shorter := asString_length textBody_length h
    have dropped := dropFirstBreak_length tail
    simp only [List.length_cons]
    omega
  · exact lineText?_length h

/-! ### Keys -/

theorem keyPart?_length {v : String} (h : keyPart? s = some (v, rest)) :
    rest.length < s.length := by
  rw [keyPart?] at h
  split at h
  · exact lineText?_length h
  · rename_i some
    cases h
    have parts := congrArg List.length (List.takeWhile_append_dropWhile (p := isBareKeyChar) (l := s))
    have taken := List.length_pos_iff.2 some
    rw [List.length_append] at parts
    omega

theorem keyParts_length {bound : ℕ} {path : List String} (h : keyParts bound s = some (path, rest)) :
    rest.length < s.length := by
  induction bound generalizing s path with
  | zero => cases h
  | succ bound ih =>
    rw [keyParts] at h
    obtain ⟨⟨part, left⟩, first, h⟩ := Option.bind_eq_some_iff.1 h
    have shorter := keyPart?_length first
    have skipped := skipSpaces_length s
    have skipped' := skipSpaces_length left
    dsimp only at h
    split at h
    · rename_i tail dot
      obtain ⟨⟨parts, left'⟩, more, h⟩ := Option.bind_eq_some_iff.1 h
      cases h
      have further := ih more
      rw [dot, List.length_cons] at skipped'
      omega
    · cases h
      omega

theorem key_length {path : List String} (h : key s = some (path, rest)) : rest.length < s.length :=
  keyParts_length h

theorem skipChar?_length (h : skipChar? c s = some rest) : rest.length < s.length := by
  cases s with
  | nil => cases h
  | cons d s =>
    rw [skipChar?] at h
    split at h
    · cases h
      simp
    · cases h

/-! ### Values -/

theorem words_length (s : List Char) : (words s).2.length ≤ s.length := by
  induction s with
  | nil => rfl
  | cons c s ih =>
    rw [words]
    split
    · exact Nat.le_succ_of_le ih
    · rfl

theorem scalar?_length {d : Datum} (h : scalar? s = some (d, rest)) : rest.length ≤ s.length := by
  rw [scalar?] at h
  obtain ⟨d', -, same⟩ := Option.map_eq_some_iff.1 h
  cases same
  exact words_length s

/-- Whether a reader never leaves more than there was. -/
def Shrinks (read : List Char → Option (α × List Char)) : Prop :=
  ∀ {s a rest}, read s = some (a, rest) → rest.length ≤ s.length

theorem members_length {close : Char} {member : List Char → Option (α × List Char)}
    (shrinks : Shrinks member) {fuel : ℕ} : Shrinks (members close member fuel) := by
  intro s as rest h
  induction fuel generalizing s as with
  | zero => cases h
  | succ fuel ih =>
    rw [members] at h
    obtain ⟨_ | ⟨c, tail⟩, gap, h⟩ := Option.bind_eq_some_iff.1 h
    · cases h
    have skipped := filler_length gap
    dsimp only at h
    split_ifs at h
    · cases h
      exact (Nat.le_succ _).trans skipped
    · obtain ⟨⟨a, left⟩, first, h⟩ := Option.bind_eq_some_iff.1 h
      have shorter : left.length ≤ (c :: tail).length := shrinks first
      obtain ⟨_ | ⟨c', tail'⟩, gap', h⟩ := Option.bind_eq_some_iff.1 h
      · cases h
      have skipped' : tail'.length + 1 ≤ left.length := filler_length gap'
      dsimp only at h
      split_ifs at h
      · cases h
        omega
      · obtain ⟨⟨others, last⟩, more, h⟩ := Option.bind_eq_some_iff.1 h
        cases h
        have further := ih more
        exact further.trans (by omega)

theorem assignment_length {gap : List Char → Option (List Char)}
    {value : List Char → Option (Datum × List Char)}
    (skips : ∀ {s rest}, gap s = some rest → rest.length ≤ s.length) (shrinks : Shrinks value)
    {item : List String × Datum} (h : assignment gap value s = some (item, rest)) :
    rest.length < s.length := by
  rw [assignment] at h
  obtain ⟨⟨path, s₁⟩, named, h⟩ := Option.bind_eq_some_iff.1 h
  obtain ⟨s₂, before, h⟩ := Option.bind_eq_some_iff.1 h
  obtain ⟨s₃, sign, h⟩ := Option.bind_eq_some_iff.1 h
  obtain ⟨s₄, after, h⟩ := Option.bind_eq_some_iff.1 h
  obtain ⟨⟨d, s₅⟩, read, h⟩ := Option.bind_eq_some_iff.1 h
  cases h
  calc rest.length ≤ s₄.length := shrinks read
    _ ≤ s₃.length := skips after
    _ < s₂.length := skipChar?_length sign
    _ ≤ s₁.length := skips before
    _ < s.length := key_length named

theorem value_length (depth : ℕ) : Shrinks (value depth) := by
  induction depth using Nat.strong_induction_on with
  | _ depth ih =>
    intro s d rest h
    rw [value.eq_def] at h
    split at h
    · -- a list
      split at h
      · cases h
      · obtain ⟨⟨items, left⟩, read, same⟩ := Option.map_eq_some_iff.1 h
        cases same
        exact Nat.le_succ_of_le (members_length (ih _ (Nat.lt_succ_self _)) read)
    · -- an inline table
      split at h
      · cases h
      · obtain ⟨⟨items, left⟩, read, h⟩ := Option.bind_eq_some_iff.1 h
        obtain ⟨entries, -, h⟩ := Option.bind_eq_some_iff.1 h
        cases h
        have item : Shrinks (assignment (filler false) (value _)) := fun h =>
          (assignment_length filler_length (ih _ (Nat.lt_succ_self _)) h).le
        exact Nat.le_succ_of_le (members_length item read)
    · split at h
      · rename_i quoted
        cases h
        exact (quotedText?_length quoted).le
      · exact scalar?_length h

/-! ### Statements -/

namespace Draft

theorem statement_length {d d' : Draft} (h : d.statement s = some (d', rest)) :
    rest.length < s.length := by
  unfold statement at h
  split at h
  · rename_i tail
    obtain ⟨⟨path, s₁⟩, named, h⟩ := Option.bind_eq_some_iff.1 h
    obtain ⟨s₂, first, h⟩ := Option.bind_eq_some_iff.1 h
    obtain ⟨s₃, second, h⟩ := Option.bind_eq_some_iff.1 h
    obtain ⟨root, -, h⟩ := Option.bind_eq_some_iff.1 h
    obtain ⟨s₄, ended, h⟩ := Option.bind_eq_some_iff.1 h
    cases h
    calc rest.length ≤ s₃.length := lineEnd_length ended
      _ < s₂.length := skipChar?_length second
      _ < s₁.length := skipChar?_length first
      _ < tail.length := key_length named
      _ < tail.length + 2 := by omega
  · rename_i tail _
    obtain ⟨⟨path, s₁⟩, named, h⟩ := Option.bind_eq_some_iff.1 h
    obtain ⟨s₂, first, h⟩ := Option.bind_eq_some_iff.1 h
    obtain ⟨root, -, h⟩ := Option.bind_eq_some_iff.1 h
    obtain ⟨s₃, ended, h⟩ := Option.bind_eq_some_iff.1 h
    cases h
    calc rest.length ≤ s₂.length := lineEnd_length ended
      _ < s₁.length := skipChar?_length first
      _ < tail.length := key_length named
      _ < tail.length + 1 := by omega
  · obtain ⟨⟨⟨path, v⟩, s₁⟩, read, h⟩ := Option.bind_eq_some_iff.1 h
    obtain ⟨root, -, h⟩ := Option.bind_eq_some_iff.1 h
    obtain ⟨s₂, ended, h⟩ := Option.bind_eq_some_iff.1 h
    cases h
    have skips : ∀ {s rest : List Char}, (some ∘ skipSpaces) s = some rest →
        rest.length ≤ s.length := by
      intro s rest h
      cases h
      exact skipSpaces_length s
    calc rest.length ≤ s₁.length := lineEnd_length ended
      _ < s.length := assignment_length skips (value_length _) read

/-- Every statement takes up a character, so it does not matter how many may be read. -/
theorem statements_congr {n m : ℕ} {d : Draft} (hn : s.length < n) (hm : s.length < m) :
    statements n d s = statements m d s := by
  induction n generalizing m d s with
  | zero => omega
  | succ n ih =>
    obtain ⟨m, rfl⟩ := Nat.exists_eq_succ_of_ne_zero (show m ≠ 0 by omega)
    rw [statements, statements]
    cases gap : filler false s with
    | none => rfl
    | some line =>
      cases line with
      | nil => rfl
      | cons c tail =>
        change (d.statement (c :: tail)).bind _ = (d.statement (c :: tail)).bind _
        cases read : d.statement (c :: tail) with
        | none => rfl
        | some r =>
          have skipped := filler_length gap
          have taken := statement_length read
          exact ih (by omega) (by omega)

end Draft

end Introspect.Toml
