import Introspect.Document.Basic

/-! The tokens of a JSON text.

    Between tokens stand blanks only: space, tab, line feed and carriage return. A text token is
    decoded here; its escapes name UTF-16 units, which must pair up for the text to be one of
    Unicode. A number is the longest run of characters that numbers are made of, and must then have
    the form of a number as a whole. -/

namespace Introspect.Json

/-- A token; `text none` is a text that holds one half of a surrogate pair. -/
inductive Token
  | openList | closeList | openRecord | closeRecord | comma | colon
  | text (s : Option String)
  | scalar (d : Datum)

/-- Whether the character may stand between two tokens. -/
def isGap (c : Char) : Bool := c == ' ' || c == '\t' || c == '\n' || c == '\r'

/-- The value of a hexadecimal digit of either case. -/
def hexValue? (c : Char) : Option Nat :=
  if c.isDigit then some (c.toNat - '0'.toNat)
  else if 'a' ≤ c ∧ c ≤ 'f' then some (c.toNat - 'a'.toNat + 10)
  else if 'A' ≤ c ∧ c ≤ 'F' then some (c.toNat - 'A'.toNat + 10)
  else none

/-- The number that hexadecimal digits spell. -/
def hexNumber? (digits : List Char) : Option Nat :=
  digits.foldlM (fun n c => (hexValue? c).map (n * 16 + ·)) 0

/-- The character that a letter after a backslash stands for. -/
def simpleEscape? : Char → Option Char
  | '"' => some '"'
  | '\\' => some '\\'
  | '/' => some '/'
  | 'b' => some '\x08'
  | 'f' => some '\x0c'
  | 'n' => some '\n'
  | 'r' => some '\r'
  | 't' => some '\t'
  | _ => none

/-- Reads a text after its opening quote: its units, where a character that is written as itself is
    one unit, and what follows the closing quote. -/
def textUnits : List Char → Option (List Nat × List Char)
  | '"' :: rest => some ([], rest)
  | '\\' :: 'u' :: a :: b :: c :: d :: rest => do
    let unit ← hexNumber? [a, b, c, d]
    let (units, after) ← textUnits rest
    some (unit :: units, after)
  | '\\' :: e :: rest => do
    let c ← simpleEscape? e
    let (units, after) ← textUnits rest
    some (c.toNat :: units, after)
  | c :: rest =>
    if c.toNat < 0x20 then none
    else do
      let (units, after) ← textUnits rest
      some (c.toNat :: units, after)
  | [] => none

/-- Whether a unit is the first half of a surrogate pair. -/
def isLeading (u : Nat) : Bool := 0xD800 ≤ u && u < 0xDC00

/-- Whether a unit is the second half of a surrogate pair. -/
def isTrailing (u : Nat) : Bool := 0xDC00 ≤ u && u < 0xE000

/-- The characters that units stand for; `none` if a half of a pair stands alone. -/
def charsOfUnits : List Nat → Option (List Char)
  | [] => some []
  | [u] => if isLeading u || isTrailing u then none else some [Char.ofNat u]
  | u :: v :: rest =>
    if isLeading u then
      if isTrailing v then
        (charsOfUnits rest).map
          (Char.ofNat (0x10000 + (u - 0xD800) * 0x400 + (v - 0xDC00)) :: ·)
      else none
    else if isTrailing u then none
    else (charsOfUnits (v :: rest)).map (Char.ofNat u :: ·)

/-- Whether numbers are made of the character. -/
def isNumberChar (c : Char) : Bool :=
  c.isDigit || c == '-' || c == '+' || c == '.' || c == 'e' || c == 'E'

/-- Whether the characters are decimal digits, at least one. -/
def isDigits (cs : List Char) : Bool := !cs.isEmpty && cs.all Char.isDigit

/-- Whether the characters are the exponent of a number: nothing, or `e`, a sign if any, digits. -/
def isExponent : List Char → Bool
  | [] => true
  | e :: '+' :: digits => (e == 'e' || e == 'E') && isDigits digits
  | e :: '-' :: digits => (e == 'e' || e == 'E') && isDigits digits
  | e :: digits => (e == 'e' || e == 'E') && isDigits digits

/-- Whether the characters may follow the whole digits of a number: a fraction and an exponent. -/
def isNumberTail : List Char → Bool
  | '.' :: rest =>
    isDigits (rest.takeWhile Char.isDigit) && isExponent (rest.dropWhile Char.isDigit)
  | rest => isExponent rest

/-- The number that decimal digits spell. -/
def decimalNumber (digits : List Char) : Nat :=
  digits.foldl (fun n c => n * 10 + (c.toNat - '0'.toNat)) 0

/-- The number with the given spelling. Whole digits do not start with a superfluous zero, and
    negative zero is no integer. -/
def number? (spelling : List Char) : Option Datum :=
  let unsigned := if spelling.head? == some '-' then spelling.drop 1 else spelling
  let whole := unsigned.takeWhile Char.isDigit
  let tail := unsigned.dropWhile Char.isDigit
  let superfluous := whole.head? == some '0' && whole.length > 1
  if !isDigits whole || superfluous || !isNumberTail tail then none
  else if !tail.isEmpty || spelling == ['-', '0'] then some (.decimal (.ofList spelling))
  else if spelling.head? == some '-' then some (.integer (-decimalNumber whole))
  else some (.integer (decimalNumber whole))

/-- The scalars that are written as a word. -/
def words : List (List Char × Datum) :=
  [(['n', 'u', 'l', 'l'], .null), (['t', 'r', 'u', 'e'], .bool true),
    (['f', 'a', 'l', 's', 'e'], .bool false)]

/-- Reads the token that starts with `c`, which is no blank, and continues in `rest`. -/
def Token.next (c : Char) (rest : List Char) : Option (Token × List Char) :=
  match c with
  | '[' => some (.openList, rest)
  | ']' => some (.closeList, rest)
  | '{' => some (.openRecord, rest)
  | '}' => some (.closeRecord, rest)
  | ',' => some (.comma, rest)
  | ':' => some (.colon, rest)
  | '"' => do
    let (units, after) ← textUnits rest
    some (.text ((charsOfUnits units).map String.ofList), after)
  | _ =>
    if isNumberChar c then do
      let d ← number? (c :: rest.takeWhile isNumberChar)
      some (.scalar d, rest.dropWhile isNumberChar)
    else do
      let (word, d) ← words.find? (·.1.isPrefixOf (c :: rest))
      some (.scalar d, rest.drop (word.length - 1))

theorem textUnits_length_le {s : List Char} {units : List Nat} {after : List Char}
    (h : textUnits s = some (units, after)) : after.length ≤ s.length := by
  fun_induction textUnits s generalizing units after <;>
    simp only [Option.bind_eq_bind, Option.bind_eq_some_iff, Option.some.injEq, Prod.mk.injEq,
      Prod.exists, reduceCtorEq] at h
  all_goals grind

theorem Token.next_length_le {c : Char} {rest after : List Char} {t : Token}
    (h : Token.next c rest = some (t, after)) : after.length ≤ rest.length := by
  unfold Token.next at h
  split at h
  case h_7 =>
    simp only [Option.bind_eq_bind, Option.bind_eq_some_iff, Option.some.injEq, Prod.mk.injEq,
      Prod.exists] at h
    obtain ⟨units, r, hr, _, rfl⟩ := h
    exact textUnits_length_le hr
  case h_8 =>
    split at h <;>
      simp only [Option.bind_eq_bind, Option.bind_eq_some_iff, Option.some.injEq, Prod.mk.injEq,
        Prod.exists] at h
    · obtain ⟨_, _, _, rfl⟩ := h
      exact (List.dropWhile_sublist _).length_le
    · obtain ⟨_, _, _, _, rfl⟩ := h
      simp
  all_goals simp_all

end Introspect.Json
