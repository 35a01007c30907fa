import Introspect.Json.Reader
import Introspect.Json.Writer
import Mathlib.Data.List.TakeWhile

/-! Tokens of what is written: each scalar and each text is read as one token.

    A character is written in one of three manners, as a letter after a backslash, by its number,
    or as itself (`escaped_cases`), and each of them is read as the unit of this character. No
    character is half of a surrogate pair, so the units stand for the characters again. An integer
    is read back from its digits (`number?_toString`), provided that what follows it does not
    continue it (`Ends`). -/

namespace Introspect.Json

/-! ### Texts -/

variable {c : Char} {rest : List Char}

theorem hexNumber?_hexDigits : ∀ n < 0x20,
    hexNumber? ['0', '0', hexDigit (n / 16), hexDigit (n % 16)] = some n := by
  decide

/-- The three manners in which a character is written. -/
theorem escaped_cases (c : Char) :
    (∃ e, escaped c = ['\\', e] ∧ e ≠ 'u' ∧ simpleEscape? e = some c) ∨
    (c.toNat < 0x20 ∧
      escaped c = ['\\', 'u', '0', '0', hexDigit (c.toNat / 16), hexDigit (c.toNat % 16)]) ∨
    (c ≠ '"' ∧ c ≠ '\\' ∧ 0x20 ≤ c.toNat ∧ escaped c = [c]) := by
  unfold escaped
  split
  · subst c
    exact .inl ⟨'"', rfl, by decide, rfl⟩
  split
  · subst c
    exact .inl ⟨'\\', rfl, by decide, rfl⟩
  split
  · subst c
    exact .inl ⟨'b', rfl, by decide, rfl⟩
  split
  · subst c
    exact .inl ⟨'f', rfl, by decide, rfl⟩
  split
  · subst c
    exact .inl ⟨'n', rfl, by decide, rfl⟩
  split
  · subst c
    exact .inl ⟨'r', rfl, by decide, rfl⟩
  split
  · subst c
    exact .inl ⟨'t', rfl, by decide, rfl⟩
  split
  · rename_i control
    exact .inr (.inl ⟨control, rfl⟩)
  · rename_i quote backslash _ _ _ _ _ control
    exact .inr (.inr ⟨quote, backslash, Nat.not_lt.1 control, rfl⟩)

theorem textUnits_escaped (c : Char) (rest : List Char) :
    textUnits (escaped c ++ rest) = (textUnits rest).map fun r => (c.toNat :: r.1, r.2) := by
  rcases escaped_cases c with ⟨e, written, letter, stands⟩ | ⟨control, written⟩ |
    ⟨quote, backslash, printed, written⟩
  · rw [written, List.cons_append, List.cons_append, List.nil_append, textUnits, stands]
    · cases textUnits rest with
      | none => rfl
      | some r => rfl
    · rintro _ _ _ _ _ rfl
      exact absurd rfl letter
  · rw [written]
    simp only [List.cons_append, List.nil_append]
    rw [textUnits, hexNumber?_hexDigits _ control]
    cases textUnits rest with
    | none => rfl
    | some r => rfl
  · rw [written, List.cons_append, List.nil_append, textUnits, if_neg (Nat.not_lt.2 printed)]
    · cases textUnits rest with
      | none => rfl
      | some r => rfl
    · exact quote
    · rintro _ _ _ _ _ rfl
      exact absurd rfl backslash
    · rintro _ _ rfl
      exact absurd rfl backslash

theorem textUnits_written (cs rest : List Char) :
    textUnits (cs.flatMap escaped ++ '"' :: rest) = some (cs.map Char.toNat, rest) := by
  induction cs with
  | nil => rfl
  | cons c cs ih =>
    rw [List.flatMap_cons, List.append_assoc, textUnits_escaped, ih]
    rfl

/-- No character is one half of a surrogate pair. -/
theorem not_surrogate (c : Char) : isLeading c.toNat = false ∧ isTrailing c.toNat = false := by
  have valid : c.toNat < 0xD800 ∨ 0xDFFF < c.toNat ∧ c.toNat < 0x110000 := c.valid
  rw [isLeading, isTrailing]
  simp only [Bool.and_eq_false_iff, decide_eq_false_iff_not]
  omega

theorem charsOfUnits_toNat : ∀ cs : List Char, charsOfUnits (cs.map Char.toNat) = some cs
  | [] => rfl
  | [c] => by simp [charsOfUnits, not_surrogate]
  | c :: d :: cs => by
    have rest := charsOfUnits_toNat (d :: cs)
    rw [List.map_cons] at rest
    simp [charsOfUnits, not_surrogate, rest]

/-! ### Integers -/

theorem decimalNumber_eq (ds : List Char) : decimalNumber ds = Nat.ofDigitChars 10 ds 0 := by
  rw [decimalNumber, Nat.ofDigitChars_eq_foldl]
  simp only [Nat.mul_comm]

/-- The digits of a positive number do not start with a zero. -/
theorem head?_toDigits (n : Nat) (positive : 0 < n) : (Nat.toDigits 10 n).head? ≠ some '0' := by
  induction n using Nat.strongRecOn with
  | _ n ih =>
    by_cases small : n < 10
    · rw [Nat.toDigits_of_lt_base small]
      have first : ∀ d < 10, 0 < d → [Nat.digitChar d].head? ≠ some '0' := by decide
      exact first n small positive
    · rw [Nat.toDigits_of_base_le (by decide) (Nat.not_lt.1 small), List.head?_append]
      have higher := ih (n / 10) (by omega) (by omega)
      cases top : (Nat.toDigits 10 (n / 10)).head? with
      | none => exact absurd (List.head?_eq_none_iff.1 top) Nat.toDigits_ne_nil
      | some c => simpa [top] using higher

/-- Digits that spell a number: at least one, and no superfluous zero in front. -/
structure Spells (ds : List Char) (n : Nat) : Prop where
  digits : ∀ c ∈ ds, c.isDigit = true
  nonempty : ds ≠ []
  leading : ds.head? = some '0' → ds = ['0']
  value : decimalNumber ds = n

theorem spells_toDigits (n : Nat) : Spells (Nat.toDigits 10 n) n where
  digits _ hc := Nat.isDigit_of_mem_toDigits (by decide) (by decide) hc
  nonempty := Nat.toDigits_ne_nil
  leading zero := by
    rcases Nat.eq_zero_or_pos n with rfl | positive
    · decide
    · exact absurd zero (head?_toDigits n positive)
  value := by rw [decimalNumber_eq, Nat.ofDigitChars_ten_toDigits]

variable {ds : List Char} {n : Nat}

namespace Spells

theorem whole (h : Spells ds n) : ds.takeWhile Char.isDigit = ds ∧ ds.dropWhile Char.isDigit = [] :=
  ⟨List.takeWhile_eq_self_iff.2 h.digits, List.dropWhile_eq_nil_iff.2 h.digits⟩

theorem isDigits (h : Spells ds n) : Json.isDigits ds = true := by
  simpa [Json.isDigits, h.nonempty] using h.digits

theorem not_superfluous (h : Spells ds n) :
    (ds.head? == some '0' && decide (ds.length > 1)) = false := by
  rw [Bool.and_eq_false_iff, beq_eq_false_iff_ne, decide_eq_false_iff_not]
  by_cases zero : ds.head? = some '0'
  · rw [h.leading zero]
    decide
  · exact .inl zero

theorem number? (h : Spells ds n) : Json.number? ds = some (.integer n) := by
  have unsigned : ds.head? ≠ some '-' := fun sign =>
    absurd (h.digits '-' (List.mem_of_mem_head? sign)) (by decide)
  have plain : ds ≠ ['-', '0'] := fun same => unsigned (same ▸ rfl)
  simp [Json.number?, unsigned, plain, h.whole, h.isDigits, h.not_superfluous, h.value,
    isNumberTail, isExponent]

theorem number?_neg (h : Spells ds n) (positive : 0 < n) :
    Json.number? ('-' :: ds) = some (.integer (-n)) := by
  have plain : ds ≠ ['0'] := by
    rintro rfl
    exact absurd h.value (Nat.ne_of_lt positive)
  simp [Json.number?, plain, h.whole, h.isDigits, h.not_superfluous, h.value,
    isNumberTail, isExponent]

end Spells

/-- An integer is read back from its spelling. -/
theorem number?_toString (n : Int) : number? (toString n).toList = some (.integer n) := by
  rw [Int.toString_eq_repr, Int.repr_eq_if]
  split
  · rename_i natural
    rw [Nat.toList_repr, (spells_toDigits n.toNat).number?, Int.toNat_of_nonneg natural]
  · rename_i negative
    have positive : 0 < (-n).toNat := by omega
    have sign : "-".toList = ['-'] := rfl
    rw [String.toList_append, Nat.toList_repr, sign, List.cons_append, List.nil_append,
      (spells_toDigits (-n).toNat).number?_neg positive, Int.toNat_of_nonneg (by omega), Int.neg_neg]

/-! ### Tokens -/

/-- What follows a number does not continue it. -/
def Ends (rest : List Char) : Prop := ∀ c ∈ rest.head?, isNumberChar c = false

theorem tokens_gap (gap : isGap c = true) : tokens (c :: rest) = tokens rest := by
  rw [tokens, if_pos gap]

theorem tokens_gaps {gaps : List Char} (blank : ∀ c ∈ gaps, isGap c = true) :
    tokens (gaps ++ rest) = tokens rest := by
  induction gaps with
  | nil => rfl
  | cons c gaps ih =>
    obtain ⟨first, others⟩ := List.forall_mem_cons.1 blank
    rw [List.cons_append, tokens_gap first, ih others]

theorem tokens_next {t : Token} {after : List Char} (gap : isGap c = false)
    (next : Token.next c rest = some (t, after)) :
    tokens (c :: rest) = (tokens after).map (t :: ·) := by
  rw [tokens, if_neg (by simp [gap])]
  split
  · rename_i none
    cases none.symm.trans next
  · rename_i some
    cases some.symm.trans next
    rfl

/-- A text is one token, and stands for itself. -/
theorem tokens_quoted (s : String) (rest : List Char) :
    tokens (quoted s ++ rest) = (tokens rest).map (.text (some s) :: ·) := by
  rw [quoted, List.cons_append, List.append_assoc]
  refine tokens_next (by decide) ?_
  simp [Token.next, textUnits_written, charsOfUnits_toNat]

theorem not_gap_of_number (h : isNumberChar c = true) : isGap c = false := by
  rw [isGap]
  simp only [Bool.or_eq_false_iff, beq_eq_false_iff_ne]
  refine ⟨⟨⟨?_, ?_⟩, ?_⟩, ?_⟩ <;> exact fun gap => absurd (gap ▸ h) (by decide)

theorem next_of_number (h : isNumberChar c = true) :
    Token.next c rest = (number? (c :: rest.takeWhile isNumberChar)).map
      fun d => (.scalar d, rest.dropWhile isNumberChar) := by
  unfold Token.next
  split
  case h_8 =>
    simp only [h]
    cases number? (c :: rest.takeWhile isNumberChar) with
    | none => rfl
    | some d => rfl
  all_goals exact absurd h (by decide)

/-- A number is one token, unless what follows continues it. -/
theorem tokens_number {d : Datum} : ∀ {cs : List Char}, (∀ c ∈ cs, isNumberChar c = true) →
    number? cs = some d → Ends rest → tokens (cs ++ rest) = (tokens rest).map (.scalar d :: ·)
  | [], _, number, _ => by cases number
  | c :: cs, chars, number, ends => by
    obtain ⟨first, others⟩ := List.forall_mem_cons.1 chars
    have stop : rest.takeWhile isNumberChar = [] ∧ rest.dropWhile isNumberChar = rest := by
      cases rest with
      | nil => exact ⟨rfl, rfl⟩
      | cons e rest => simp [ends e rfl]
    rw [List.cons_append]
    refine tokens_next (not_gap_of_number first) ?_
    rw [next_of_number first, List.takeWhile_append_of_pos others, stop.1, List.append_nil, number,
      List.dropWhile_append_of_pos others, stop.2, Option.map_some]

theorem isNumberChar_toString (n : Int) : ∀ c ∈ (toString n).toList, isNumberChar c = true := by
  have digit {c : Char} {m : Nat} (hc : c ∈ m.repr.toList) : isNumberChar c = true := by
    rw [Nat.toList_repr] at hc
    simp [isNumberChar, (spells_toDigits m).digits c hc]
  intro c hc
  rw [Int.toString_eq_repr, Int.repr_eq_if] at hc
  split at hc
  · exact digit hc
  · rw [String.toList_append, List.mem_append] at hc
    rcases hc with sign | hc
    · rw [show "-".toList = ['-'] from rfl, List.mem_singleton] at sign
      rw [sign]
      decide
    · exact digit hc

theorem tokens_integer (n : Int) (ends : Ends rest) :
    tokens ((toString n).toList ++ rest) = (tokens rest).map (.scalar (.integer n) :: ·) :=
  tokens_number (isNumberChar_toString n) (number?_toString n) ends

theorem tokens_word {word : List Char} {d : Datum} (h : (word, d) ∈ words) :
    tokens (word ++ rest) = (tokens rest).map (.scalar d :: ·) := by
  simp only [words, List.mem_cons, List.not_mem_nil, or_false] at h
  rcases h with ⟨⟨⟩⟩ | ⟨⟨⟩⟩ | ⟨⟨⟩⟩
  · exact tokens_next (by decide) rfl
  · exact tokens_next (by decide) rfl
  · exact tokens_next (by decide) rfl

end Introspect.Json
