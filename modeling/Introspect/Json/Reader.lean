import Introspect.Json.Token

/-! Reading a JSON text.

    The text is cut into tokens, and the tokens are read from left to right with a stack of the
    lists and records that are still open, so depth is not limited. A text that is one JSON value
    between blanks has exactly one reading; commas stand between members only. -/

namespace Introspect.Json

/-- Cuts a text into its tokens. -/
def tokens : List Char → Option (List Token)
  | [] => some []
  | c :: rest =>
    if isGap c then tokens rest
    else match _h : Token.next c rest with
      | none => none
      | some (t, after) => (tokens after).map (t :: ·)
termination_by s => s.length
decreasing_by
  · simp
  · have := Token.next_length_le (by assumption)
    simp only [List.length_cons]; omega

/-- An open list or record: its members so far, the last one first. `sound` tells that every name of
    the record is a text of Unicode, and `key` is the name whose value is being read. -/
inductive Frame
  | list (items : List Datum)
  | record (fields : List (String × Datum)) (sound : Bool) (key : String)

/-- What must come next, and the frames around it. -/
inductive State
  /-- A value. -/
  | value (stack : List Frame)
  /-- A value, or the end of the list that was just opened. -/
  | firstItem (stack : List Frame)
  /-- A name of the record whose fields are given. -/
  | key (fields : List (String × Datum)) (sound : Bool) (stack : List Frame)
  /-- A name, or the end of the record that was just opened. -/
  | firstKey (stack : List Frame)
  /-- The colon after a name. -/
  | colon (fields : List (String × Datum)) (sound : Bool) (key : String) (stack : List Frame)
  /-- What follows the complete value `d`: a comma, or the end of what it stands in. -/
  | complete (d : Datum) (stack : List Frame)

/-- A record from its fields, the last one first. -/
def closedRecord (fields : List (String × Datum)) (sound : Bool) : Datum :=
  if sound then .record fields.reverse else .garbled

namespace State

/-- Starts a value with its first token. -/
def start (stack : List Frame) : Token → Option State
  | .openList => some (firstItem stack)
  | .openRecord => some (firstKey stack)
  | .text (some s) => some (complete (.text s) stack)
  | .text none => some (complete .garbled stack)
  | .scalar d => some (complete d stack)
  | _ => none

/-- Reads the name of a field. -/
def name (fields : List (String × Datum)) (sound : Bool) (stack : List Frame) :
    Token → Option State
  | .text (some s) => some (colon fields sound s stack)
  | .text none => some (colon fields false "" stack)
  | _ => none

/-- Reads one token. -/
def step : State → Token → Option State
  | value stack, t => start stack t
  | firstItem stack, .closeList => some (complete (.list []) stack)
  | firstItem stack, t => start (.list [] :: stack) t
  | key fields sound stack, t => name fields sound stack t
  | firstKey stack, .closeRecord => some (complete (.record []) stack)
  | firstKey stack, t => name [] true stack t
  | colon fields sound k stack, .colon => some (value (.record fields sound k :: stack))
  | colon _ _ _ _, _ => none
  | complete d (.list items :: stack), .comma => some (value (.list (d :: items) :: stack))
  | complete d (.list items :: stack), .closeList =>
    some (complete (.list (d :: items).reverse) stack)
  | complete d (.record fields sound k :: stack), .comma =>
    some (key ((k, d) :: fields) sound stack)
  | complete d (.record fields sound k :: stack), .closeRecord =>
    some (complete (closedRecord ((k, d) :: fields) sound) stack)
  | complete _ _, _ => none

/-- The value that was read, if nothing is open any more. -/
def result? : State → Option Datum
  | complete d [] => some d
  | _ => none

end State

/-- Reads the tokens of one value. -/
def ofTokens (ts : List Token) : Option Datum :=
  (ts.foldlM State.step (State.value [])).bind State.result?

/-- Reads a JSON text; `none` if it is not one value. -/
def read (text : String) : Option Datum := (tokens text.toList).bind ofTokens

end Introspect.Json
