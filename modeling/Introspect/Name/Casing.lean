import Introspect.Text.LetterCase
import Introspect.Text.Numeral

/-! Pascal and camel case of a name.

    A name is read once from left to right. Letters and numerals are kept in order and everything
    else only separates words; the first letter of a word is written in upper case and the others in
    lower case, where the two cases are those of ASCII. A word starts after a separator, after a
    numeral, and at an upper-case letter that follows a lower-case one. Pascal and camel case are
    the same reading and differ in whether a word starts at the very beginning. -/

namespace Introspect.Name

open Introspect.Text

/-- Where a reading stands: `wordStart` if the next letter begins a word, `started` once something
    was written, and `previous` the last character written in lower case. -/
structure Position where
  wordStart : Bool
  previous : Char
  started : Bool

/-- Whether a letter at this position begins a word. -/
def Position.capital (p : Position) (c : Char) : Bool :=
  p.wordStart || (isLower p.previous && isUpper c)

/-- Writes the words of a name, from a position on. -/
def cased : Position → List Char → List Char
  | _, [] => []
  | p, c :: rest =>
    if !isAlphanumeric c then
      cased { p with wordStart := p.wordStart || p.started } rest
    else if isNumeral c then
      c :: cased { p with wordStart := true, started := true } rest
    else if p.capital c then
      c.toUpper :: cased { p with wordStart := false, started := true } rest
    else
      c.toLower :: cased ⟨false, c, true⟩ rest

/-- Pascal case: the first letter begins a word. -/
def pascalCase (name : List Char) : List Char := cased ⟨true, ' ', false⟩ name

/-- Camel case: the first letter continues a word. -/
def camelCase (name : List Char) : List Char := cased ⟨false, ' ', false⟩ name

end Introspect.Name
