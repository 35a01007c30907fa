import Introspect.Toml.Decimal
import Introspect.Toml.Text

/-! Numbers, truth values, dates and times of day in TOML.

    Such a scalar is written without quotes, as one word or as several with blanks between them,
    such as a date and a time. Digits may be grouped by single underscores. A decimal number has no
    superfluous zero in front, and an integer in another base has no sign. The seconds of a time may
    be left out.

    A number may have a form but no value: an integer must fit 128 bits, with a sign or without, and
    any other number must be finite unless it is written as infinite. Nor is there a value if
    anything but digits comes after the first underscore of a decimal integer, which may be further
    words after tabs, or if nothing follows the mark of another base. -/

namespace Introspect.Toml

/-- The characters at which words end. -/
def wordEnds : List Char := ['=', ',', '[', ']', '{', '}', '#', ' ', '\t', '\r', '\n']

/-- Whether words go on with the character. -/
def isWordChar (c : Char) : Bool := !wordEnds.contains c

/-- Whether the character is a digit of a base up to sixteen. -/
def isDigitInBase (base : Nat) (c : Char) : Bool :=
  match Json.hexValue? c with
  | some v => v < base
  | none => false

/-- Whether every underscore stands between two digits; `digit` tells that one was read last. -/
def isGrouped (isDigit : Char → Bool) (digit : Bool) : List Char → Bool
  | [] => true
  | '_' :: rest =>
    digit && (rest.head?.map isDigit).getD false && isGrouped isDigit false rest
  | c :: rest => isGrouped isDigit (isDigit c) rest

/-- The characters without underscores. -/
def ungrouped (s : List Char) : List Char := s.filter (· ≠ '_')

/-- The sign of a number: `true` for a minus. -/
def sign? : List Char → Option Bool
  | '-' :: _ => some true
  | '+' :: _ => some false
  | _ => none

/-- A number without its sign. -/
def unsigned (s : List Char) : List Char := if (sign? s).isSome then s.drop 1 else s

/-- How many words of 128 bits there are. -/
def word128Count : Nat := Nat.pow 2 128

/-- An integer as a value, which must be a word with a sign or one without. -/
def ofInteger (n : Int) : Datum :=
  if -(word128Count / 2 : Nat) ≤ n ∧ n < word128Count then .integer n else .unreadable

/-- The number that decimal digits and a sign before them spell. -/
def signed (sign : Option Bool) (digits : List Char) : Int :=
  let n : Int := Json.decimalNumber digits
  if sign = some true then -n else n

/-- Reads the digits of an integer in another base. -/
def baseInteger? (base : Nat) (s : List Char) : Option Datum :=
  if (ungrouped s).all (isDigitInBase base) && isGrouped (isDigitInBase base) false s then
    match ungrouped s with
    | [] => some .unreadable
    | digits => some (ofInteger (digits.foldl (fun n c => n * base + (Json.hexValue? c).getD 0) 0))
  else none

/-- Whether the character sets what it stands in apart from integers. -/
def isForeignMark (c : Char) : Bool := c == '.' || c == 'e' || c == 'E' || c == ' '

/-- Whether a scalar has the form of a decimal integer: digits, and then whatever follows the first
    underscore, as long as all underscores stand between digits of base sixteen. -/
def isDecimalForm (s : List Char) : Bool :=
  let rest := (unsigned s).dropWhile Char.isDigit
  !(unsigned s).isEmpty && (rest.isEmpty || rest.head? == some '_') && !rest.any isForeignMark &&
    isGrouped (isDigitInBase 16) false (unsigned s)

/-- Reads a whole scalar as a decimal integer. -/
def decimalInteger? (s : List Char) : Option Datum :=
  let superfluous := (unsigned s).head? == some '0' && (unsigned s).length > 1
  if superfluous || !isDecimalForm s then none
  else if (ungrouped (unsigned s)).all Char.isDigit then
    some (ofInteger (signed (sign? s) (ungrouped (unsigned s))))
  else some .unreadable

/-- Reads a whole scalar as an integer. -/
def integer? : List Char → Option Datum
  | '0' :: 'x' :: digits => baseInteger? 16 digits
  | '0' :: 'o' :: digits => baseInteger? 8 digits
  | '0' :: 'b' :: digits => baseInteger? 2 digits
  | s => decimalInteger? s

/-- The digits at the start of the characters without the underscores among them; `none` if there
    are none. -/
def leadingDigits? (s : List Char) : Option (List Char) :=
  match ungrouped (s.takeWhile fun c => c.isDigit || c == '_') with
  | [] => none
  | digits => some digits

/-- What follows digits and underscores. -/
def afterDigits (s : List Char) : List Char := s.dropWhile fun c => c.isDigit || c == '_'

/-- Reads an exponent: `e`, a sign if any, and digits. -/
def exponent? : List Char → Option Int
  | e :: rest => do
    let digits ← leadingDigits? (unsigned rest)
    if (e == 'e' || e == 'E') && (afterDigits (unsigned rest)).isEmpty then
      some (signed (sign? rest) digits)
    else none
  | [] => none

/-- Reads a number without a sign that has a fraction or an exponent, wherever its underscores
    are. -/
def decimal? (s : List Char) : Option Decimal := do
  let whole ← leadingDigits? s
  if s.head? == some '0' && whole.length > 1 then none
  else match afterDigits s with
    | '.' :: rest => do
      let fraction ← leadingDigits? rest
      let exponent ← match afterDigits rest with
        | [] => some 0
        | rest => exponent? rest
      return ⟨Json.decimalNumber (whole ++ fraction), exponent - fraction.length⟩
    | rest => return ⟨Json.decimalNumber whole, ← exponent? rest⟩

/-- Whether the characters are a word for no finite number. -/
def isNotFinite (s : List Char) : Bool := s == ['i', 'n', 'f'] || s == ['n', 'a', 'n']

/-- Reads a whole scalar as a number with a fraction or an exponent, or as no finite number. -/
def float? (s : List Char) : Option Datum :=
  if isNotFinite (unsigned s) then some (.decimal (.ofList s))
  else if isGrouped Char.isDigit false (unsigned s) then
    (decimal? (unsigned s)).map fun d =>
      if d.isInfinite then .unreadable else .decimal (.ofList s)
  else none

/-! ### Dates and times -/

/-- The number that the given count of digits spell, and what follows. -/
def fixedDigits? (count : Nat) (s : List Char) : Option (Nat × List Char) :=
  let digits := s.take count
  if digits.length == count && digits.all Char.isDigit then
    some (Json.decimalNumber digits, s.drop count)
  else none

/-- The days of a month, in a year that may be a leap year. -/
def daysIn (year month : Nat) : Nat :=
  if month = 2 then
    (if year % 4 = 0 ∧ (year % 100 ≠ 0 ∨ year % 400 = 0) then 29 else 28)
  else if month = 4 ∨ month = 6 ∨ month = 9 ∨ month = 11 then 30
  else 31

/-- Takes a character off. -/
def skipChar? (c : Char) : List Char → Option (List Char)
  | d :: rest => if c = d then some rest else none
  | [] => none

/-- Takes a date off. -/
def date? (s : List Char) : Option (List Char) := do
  let (year, s) ← fixedDigits? 4 s
  let (month, s) ← fixedDigits? 2 (← skipChar? '-' s)
  let (day, s) ← fixedDigits? 2 (← skipChar? '-' s)
  if 1 ≤ month ∧ month ≤ 12 ∧ 1 ≤ day ∧ day ≤ daysIn year month then some s else none

/-- Takes a fraction of a second off, if there is one. -/
def fraction? : List Char → Option (List Char)
  | '.' :: rest =>
    if (rest.takeWhile Char.isDigit).isEmpty then none else some (rest.dropWhile Char.isDigit)
  | s => some s

/-- Takes a time of day off. -/
def time? (s : List Char) : Option (List Char) := do
  let (hour, s) ← fixedDigits? 2 s
  let (minute, s) ← fixedDigits? 2 (← skipChar? ':' s)
  if 23 < hour ∨ 59 < minute then none
  else match s with
    | ':' :: s => do
      let (second, s) ← fixedDigits? 2 s
      if 60 < second then none else fraction? s
    | s => some s

/-- Whether the characters are an offset from universal time, or nothing. -/
def isOffset : List Char → Bool
  | [] | ['Z'] | ['z'] => true
  | c :: s =>
    (c == '+' || c == '-') &&
      match fixedDigits? 2 s with
      | some (hours, ':' :: s) =>
        match fixedDigits? 2 s with
        | some (minutes, []) => hours ≤ 23 && minutes ≤ 59
        | _ => false
      | _ => false

/-- Whether a whole scalar is a date, a time of day, or both. -/
def isMoment (s : List Char) : Bool :=
  time? s == some [] ||
    match date? s with
    | some [] => true
    | some (c :: rest) =>
      (c == 'T' || c == 't' || c == ' ') && ((time? rest).map isOffset).getD false
    | none => false

/-- The scalar with the given spelling. -/
def spelled? (s : List Char) : Option Datum :=
  if s == ['t', 'r', 'u', 'e'] then some (.bool true)
  else if s == ['f', 'a', 'l', 's', 'e'] then some (.bool false)
  else if isMoment s then some .moment
  else (float? s).or (integer? s)

/-- Whether a word comes next, after blanks if any. -/
def wordFollows (s : List Char) : Bool :=
  match skipSpaces s with
  | c :: _ => isWordChar c && c != '"' && c != '\''
  | [] => false

/-- Splits off the words at the start, with the blanks between them. -/
def words : List Char → List Char × List Char
  | [] => ([], [])
  | c :: rest =>
    if isWordChar c || (isSpace c && wordFollows rest) then
      let (text, after) := words rest
      (c :: text, after)
    else ([], c :: rest)

/-- Reads a scalar without quotes. -/
def scalar? (s : List Char) : Option (Datum × List Char) :=
  let (text, after) := words s
  (spelled? text).map (·, after)

end Introspect.Toml
