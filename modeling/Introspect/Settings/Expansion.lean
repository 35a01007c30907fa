import Introspect.Host.Environment
import Introspect.Text.Numeral

/-! References to variables inside a text.

    A text is a sequence of segments. A dollar sign and a name refer to a variable; the name stands
    in braces, where a brace missing at the very end of the text is forgiven, or it is the longest
    run of letters, numerals and underscores. A dollar sign that neither follows is itself. The
    value of a variable is put in as it is; the first reference to a variable that is not set is an
    error. -/

namespace Introspect

open Text (isAlphanumeric)

/-- A piece of a text. -/
inductive Segment
  | literal (c : Char)
  | braced (name : List Char)
  | unclosed (name : List Char)
  | bare (name : List Char)
  | dollar
deriving DecidableEq, Repr

namespace Segment

/-- Whether names without braces are made of the character. -/
def isNameChar (c : Char) : Bool := isAlphanumeric c || c == '_'

/-- The characters of a segment. -/
def chars : Segment → List Char
  | literal c => [c]
  | braced name => '$' :: '{' :: (name ++ ['}'])
  | unclosed name => '$' :: '{' :: name
  | bare name => '$' :: name
  | dollar => ['$']

/-- The variable to which a segment refers. -/
def reference? : Segment → Option String
  | braced name | unclosed name | bare name => some (.ofList name)
  | literal _ | dollar => none

/-- The first segment of a text that starts with `c`, and what follows it. -/
def next (c : Char) (rest : List Char) : Segment × List Char :=
  if c ≠ '$' then (literal c, rest)
  else match rest with
    | '{' :: rest =>
      match rest.dropWhile (· ≠ '}') with
      | _ :: after => (braced (rest.takeWhile (· ≠ '}')), after)
      | [] => (unclosed rest, [])
    | rest =>
      match rest.takeWhile isNameChar with
      | [] => (dollar, rest)
      | name => (bare name, rest.dropWhile isNameChar)

theorem next_length_le (c : Char) (rest : List Char) : (next c rest).2.length ≤ rest.length := by
  unfold next
  split
  · simp
  · split
    · rename_i rest
      have drop := (List.dropWhile_sublist (· ≠ '}') (l := rest)).length_le
      split
      · simp_all; omega
      · simp
    · split
      · simp
      · exact (List.dropWhile_sublist _).length_le

/-- The segments of a text. -/
def ofText : List Char → List Segment
  | [] => []
  | c :: rest => (next c rest).1 :: ofText (next c rest).2
termination_by s => s.length
decreasing_by
  have := next_length_le c rest
  simp only [List.length_cons]; omega

/-- The value of a segment; an error names the variable that is not set. -/
def value (env : Environment) (s : Segment) : Except String (List Char) :=
  match s.reference? with
  | none => .ok s.chars
  | some name =>
    match env name with
    | some v => .ok v.toList
    | none => .error name

end Segment

/-- The names of the variables to which a text refers, in their order. -/
def references (text : String) : List String :=
  (Segment.ofText text.toList).filterMap Segment.reference?

/-- The text with the values of all variables to which it refers; an error names the first variable
    that is not set. -/
def expand (env : Environment) (text : String) : Except String String :=
  ((Segment.ofText text.toList).mapM (Segment.value env)).map fun parts => .ofList parts.flatten

end Introspect
