import Introspect.Document.Basic

/-! Writing a document as JSON.

    A text is written between quotes; a quote, a backslash and the control characters are escaped,
    the latter by their letters where they have one, and everything else stands as it is. The
    members of a list or record are written one after another, with the gaps that a layout asks
    for. A value without a form in JSON is written `null`. -/

namespace Introspect.Json

/-- The blanks between tokens: `line depth` before a member and before the end of a list or record
    at that depth, `afterColon` between a name and its value. -/
structure Layout where
  line : Nat → List Char
  afterColon : List Char

namespace Layout

/-- No blanks at all. -/
def compact : Layout := ⟨fun _ => [], []⟩

/-- A line for each member, indented by two spaces for each level. -/
def indented : Layout := ⟨fun depth => '\n' :: List.replicate (2 * depth) ' ', [' ']⟩

end Layout

/-- A hexadecimal digit in lower case. -/
def hexDigit (n : Nat) : Char := if n < 10 then Char.ofNat (48 + n) else Char.ofNat (87 + n)

/-- A character as it stands in a text. -/
def escaped (c : Char) : List Char :=
  if c = '"' then ['\\', '"']
  else if c = '\\' then ['\\', '\\']
  else if c = '\x08' then ['\\', 'b']
  else if c = '\x0c' then ['\\', 'f']
  else if c = '\n' then ['\\', 'n']
  else if c = '\r' then ['\\', 'r']
  else if c = '\t' then ['\\', 't']
  else if c.toNat < 0x20 then
    ['\\', 'u', '0', '0', hexDigit (c.toNat / 16), hexDigit (c.toNat % 16)]
  else [c]

/-- A text between quotes. -/
def quoted (s : String) : List Char := '"' :: (s.toList.flatMap escaped ++ ['"'])

mutual

/-- Writes a value at a depth. -/
def write (l : Layout) (depth : Nat) : Datum → List Char
  | .null => ['n', 'u', 'l', 'l']
  | .bool true => ['t', 'r', 'u', 'e']
  | .bool false => ['f', 'a', 'l', 's', 'e']
  | .integer n => (toString n).toList
  | .decimal spelling => spelling.toList
  | .text s => quoted s
  | .unreadable => ['n', 'u', 'l', 'l']
  | .moment => ['n', 'u', 'l', 'l']
  | .garbled => ['n', 'u', 'l', 'l']
  | .list [] => ['[', ']']
  | .list (d :: ds) =>
    '[' :: l.line (depth + 1) ++ write l (depth + 1) d ++ writeItems l (depth + 1) ds
      ++ l.line depth ++ [']']
  | .record [] => ['{', '}']
  | .record ((k, d) :: fields) =>
    '{' :: l.line (depth + 1) ++ quoted k ++ ':' :: l.afterColon ++ write l (depth + 1) d
      ++ writeFields l (depth + 1) fields ++ l.line depth ++ ['}']

/-- Writes the items after the first. -/
def writeItems (l : Layout) (depth : Nat) : List Datum → List Char
  | [] => []
  | d :: ds => ',' :: l.line depth ++ write l depth d ++ writeItems l depth ds

/-- Writes the fields after the first. -/
def writeFields (l : Layout) (depth : Nat) : List (String × Datum) → List Char
  | [] => []
  | (k, d) :: fields =>
    ',' :: l.line depth ++ quoted k ++ ':' :: l.afterColon ++ write l depth d
      ++ writeFields l depth fields

end

/-- The document on one line. -/
def compactText (d : Datum) : String := .ofList (write .compact 0 d)

/-- The document with a line for each member. -/
def indentedText (d : Datum) : String := .ofList (write .indented 0 d)

end Introspect.Json
