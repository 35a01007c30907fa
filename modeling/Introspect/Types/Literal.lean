import Introspect.Json.Token

/-! Text literals in expressions of generated code.

    A literal stands between double quotes, where a quote after a backslash does not end it.
    `literals` finds the literals of an expression as they are written, and `value?` reads what one
    of them stands for: a backslash starts an escape, and before a line break it drops the blanks up
    to the next character. A carriage return that ends a line together with a line feed is no part
    of the literal, and any other one is an error. -/

namespace Introspect.Literal

/-! ### Finding literals -/

/-- Splits what follows an opening quote at the closing one: the literal as it is written, and what
    comes after it. -/
def split : List Char → Option (List Char × List Char)
  | [] => none
  | '"' :: rest => some ([], rest)
  | '\\' :: c :: rest => (split rest).map fun r => ('\\' :: c :: r.1, r.2)
  | c :: rest => (split rest).map fun r => (c :: r.1, r.2)

theorem split_length_lt {s written after : List Char} (h : split s = some (written, after)) :
    after.length < s.length := by
  fun_induction split s generalizing written after with
  | case1 => simp at h
  | case2 rest => simp_all
  | case3 c rest ih =>
    obtain ⟨r, hr, he⟩ := Option.map_eq_some_iff.1 h
    have := ih hr
    simp_all; omega
  | case4 c rest _ _ ih =>
    obtain ⟨r, hr, he⟩ := Option.map_eq_some_iff.1 h
    have := ih hr
    simp_all; omega

/-- The literals of an expression, as they are written; `none` if the last one is not closed. -/
def literals : List Char → Option (List (List Char))
  | [] => some []
  | c :: rest =>
    if c = '"' then
      match _h : split rest with
      | some (written, after) => (literals after).map (written :: ·)
      | none => none
    else literals rest
termination_by s => s.length
decreasing_by
  · have := split_length_lt _h
    simp only [List.length_cons]; omega
  · simp

/-! ### Reading a literal -/

/-- The character that a letter after a backslash stands for. -/
def simpleEscape? : Char → Option Char
  | 'n' => some '\n'
  | 'r' => some '\r'
  | 't' => some '\t'
  | '0' => some '\x00'
  | '\\' => some '\\'
  | '\'' => some '\''
  | '"' => some '"'
  | _ => none

/-- The character of ASCII whose code two digits spell. -/
def charOfPair? (h₁ h₂ : Char) : Option Char :=
  (Json.hexNumber? [h₁, h₂]).bind fun code => if code < 128 then some (Char.ofNat code) else none

/-- The character whose code one to six digits spell. -/
def charOfBraces? (code digits : Nat) : Option Char :=
  if 1 ≤ digits ∧ digits ≤ 6 ∧ code.isValidChar then some (Char.ofNat code) else none

/-- Where a reading stands: among the characters of the literal, among blanks that are dropped, or
    in the braces of an escape, after so many digits that spell `code`. -/
inductive Place
  | text
  | blanks
  | braces (code digits : Nat)

/-- Whether the character is dropped after a line break with a backslash. -/
def isDropped (c : Char) : Bool := c == ' ' || c == '\t' || c == '\n' || c == '\r'

/-- Reads a literal, whose lines end with line feeds, from a place on. The digits in braces may be
    grouped by underscores. -/
def valueFrom : Place → List Char → Option (List Char)
  | .braces _ _, [] => none
  | _, [] => some []
  | .braces code digits, c :: rest =>
    if c = '}' then do
      let char ← charOfBraces? code digits
      (valueFrom .text rest).map (char :: ·)
    else if c = '_' ∧ 1 ≤ digits then valueFrom (.braces code digits) rest
    else do
      let digit ← Json.hexValue? c
      valueFrom (.braces (code * 16 + digit) (digits + 1)) rest
  | _, '\\' :: '\n' :: rest => valueFrom .blanks rest
  | _, '\\' :: 'u' :: '{' :: rest => valueFrom (.braces 0 0) rest
  | _, '\\' :: 'x' :: h₁ :: h₂ :: rest => do
    let char ← charOfPair? h₁ h₂
    (valueFrom .text rest).map (char :: ·)
  | _, '\\' :: e :: rest => do
    let char ← simpleEscape? e
    (valueFrom .text rest).map (char :: ·)
  | place, c :: rest =>
    if c = '\\' then none
    else match place, isDropped c with
      | .blanks, true => valueFrom .blanks rest
      | _, _ => if c = '\r' then none else (valueFrom .text rest).map (c :: ·)

/-- The text with line feeds alone as line breaks. -/
def withLineFeeds : List Char → List Char
  | [] => []
  | '\r' :: '\n' :: rest => '\n' :: withLineFeeds rest
  | c :: rest => c :: withLineFeeds rest

/-- The text that a literal stands for; `none` if it has an escape without a meaning, or a carriage
    return that neither ends a line nor is dropped. -/
def value? (written : List Char) : Option (List Char) := valueFrom .text (withLineFeeds written)

end Introspect.Literal
