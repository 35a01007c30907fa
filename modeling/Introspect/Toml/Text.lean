import Introspect.Json.Token

/-! The smallest pieces of a TOML text: blanks, comments, quoted texts and keys.

    A quoted text stands on one line or on several, and is either literal or has escapes. A text on
    several lines drops a line break right after its opening quotes, may end in up to two quotes of
    its own, and if it has escapes a backslash at the end of a line drops all blanks up to the next
    character. Apart from line breaks and tabs no control character may stand anywhere. -/

namespace Introspect.Toml

/-- Whether the character is a blank within a line. -/
def isSpace (c : Char) : Bool := c == ' ' || c == '\t'

/-- Skips the blanks within a line. -/
def skipSpaces (s : List Char) : List Char := s.dropWhile isSpace

/-- Whether the character may stand in a comment or a text. -/
def isPermitted (c : Char) : Bool := c == '\t' || (0x20 ≤ c.toNat && c.toNat != 0x7F)

/-- Takes off a line break. -/
def lineBreak? : List Char → Option (List Char)
  | '\n' :: rest => some rest
  | '\r' :: '\n' :: rest => some rest
  | _ => none

/-- Skips blanks, line breaks and comments; `comment` tells that a comment has begun. -/
def filler (comment : Bool) : List Char → Option (List Char)
  | [] => some []
  | c :: rest =>
    if c == '\n' then filler false rest
    else if c == '\r' && rest.head? == some '\n' then filler false rest
    else if comment then (if isPermitted c then filler true rest else none)
    else if isSpace c then filler false rest
    else if c == '#' then filler true rest
    else some (c :: rest)

/-- Skips a comment up to the end of its line. -/
def comment : List Char → Option (List Char)
  | [] => some []
  | c :: rest =>
    if c == '\n' || (c == '\r' && rest.head? == some '\n') then some (c :: rest)
    else if isPermitted c then comment rest
    else none

/-- Skips the rest of a line, on which only a comment may stand. -/
def lineEnd (s : List Char) : Option (List Char) :=
  let toBreak := match skipSpaces s with
    | '#' :: rest => comment rest
    | rest => some rest
  toBreak.bind fun
    | [] => some []
    | rest => lineBreak? rest

/-! ### Quoted texts -/

/-- The four forms of a quoted text. -/
structure TextForm where
  quote : Char
  lines : Bool
  escapes : Bool

/-- The character with the given hexadecimal code, unless it is half of a surrogate pair. -/
def charOfHex? (digits : List Char) : Option Char :=
  (Json.hexNumber? digits).bind fun n => if n.isValidChar then some (Char.ofNat n) else none

/-- The character that a letter after a backslash stands for. -/
def simpleEscape? : Char → Option Char
  | 'b' => some '\x08'
  | 't' => some '\t'
  | 'n' => some '\n'
  | 'f' => some '\x0c'
  | 'r' => some '\r'
  | 'e' => some '\x1b'
  | '"' => some '"'
  | '\\' => some '\\'
  | _ => none

/-- Puts a character before a text that was read. -/
def prepend (c : Option Char) (tail : Option (List Char × List Char)) :
    Option (List Char × List Char) := do
  let c ← c
  let (text, rest) ← tail
  return (c :: text, rest)

/-- Reads a text after its opening quotes; `trim` tells that blanks are being dropped. -/
def textBody (f : TextForm) (trim : Bool) : List Char → Option (List Char × List Char)
  | [] => none
  | c :: rest =>
    if trim && (isSpace c || c == '\n' || (c == '\r' && rest.head? == some '\n')) then
      textBody f true rest
    else if c == f.quote then
      if f.lines then
        let run := 1 + (rest.takeWhile (· == f.quote)).length
        if run < 3 then prepend (some c) (textBody f false rest)
        else
          let own := min (run - 3) 2
          some (List.replicate own c, rest.drop (own + 2))
      else some ([], rest)
    else if c == '\\' && f.escapes then
      if f.lines && (lineBreak? (skipSpaces rest)).isSome then textBody f true rest
      else match rest with
        | 'x' :: h₁ :: h₂ :: rest => prepend (charOfHex? [h₁, h₂]) (textBody f false rest)
        | 'u' :: h₁ :: h₂ :: h₃ :: h₄ :: rest =>
          prepend (charOfHex? [h₁, h₂, h₃, h₄]) (textBody f false rest)
        | 'U' :: h₁ :: h₂ :: h₃ :: h₄ :: h₅ :: h₆ :: h₇ :: h₈ :: rest =>
          prepend (charOfHex? [h₁, h₂, h₃, h₄, h₅, h₆, h₇, h₈]) (textBody f false rest)
        | e :: rest => prepend (simpleEscape? e) (textBody f false rest)
        | [] => none
    else if c == '\n' || (c == '\r' && rest.head? == some '\n') then
      if f.lines then prepend (some c) (textBody f false rest) else none
    else if isPermitted c then prepend (some c) (textBody f false rest)
    else none

/-- A text that was read, as a string. -/
def asString (r : List Char × List Char) : String × List Char := (.ofList r.1, r.2)

/-- Drops a line break right after opening quotes. -/
def dropFirstBreak (s : List Char) : List Char := (lineBreak? s).getD s

/-- Reads a quoted text on one line. -/
def lineText? : List Char → Option (String × List Char)
  | '"' :: rest => (textBody ⟨'"', false, true⟩ false rest).map asString
  | '\'' :: rest => (textBody ⟨'\'', false, false⟩ false rest).map asString
  | _ => none

/-- Reads a quoted text of any form. -/
def quotedText? : List Char → Option (String × List Char)
  | '"' :: '"' :: '"' :: rest =>
    (textBody ⟨'"', true, true⟩ false (dropFirstBreak rest)).map asString
  | '\'' :: '\'' :: '\'' :: rest =>
    (textBody ⟨'\'', true, false⟩ false (dropFirstBreak rest)).map asString
  | s => lineText? s

/-! ### Keys -/

/-- Whether keys without quotes are made of the character. -/
def isBareKeyChar (c : Char) : Bool := c.isAlphanum || c == '_' || c == '-'

/-- Reads one part of a key. -/
def keyPart? (s : List Char) : Option (String × List Char) :=
  match s.takeWhile isBareKeyChar with
  | [] => lineText? s
  | bare => some (.ofList bare, s.dropWhile isBareKeyChar)

/-- Reads the parts of a key, up to a number of them, with dots between them and the blanks around
    them. -/
def keyParts : Nat → List Char → Option (List String × List Char)
  | 0, _ => none
  | bound + 1, s => do
    let (part, rest) ← keyPart? (skipSpaces s)
    match skipSpaces rest with
    | '.' :: rest =>
      let (parts, rest) ← keyParts bound rest
      return (part :: parts, rest)
    | rest => return ([part], rest)

/-- How many parts a key may have. -/
def maxKeyParts : Nat := 80

/-- Reads a key: its parts, of which there is at least one. -/
def key (s : List Char) : Option (List String × List Char) := keyParts maxKeyParts s

end Introspect.Toml
