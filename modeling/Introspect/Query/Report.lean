/-! What resolving definitions has to report: errors, which refuse them, and warnings, which do not.

    Each error names the definition that it is about. All errors of a run are reported together, one
    a line. Warnings are kept beside what a step gives, and come up in the order of the steps. -/

namespace Introspect

/-- The part of a definition in which a column is named. -/
inductive SpecPart
  | filter | sort
deriving DecidableEq, Repr

/-- The part as a word. -/
def SpecPart.name : SpecPart → String
  | filter => "filter"
  | sort => "sort"

/-- Why a definition is refused. -/
inductive ResolveError
  | unknownTable (query table : String)
  | unknownColumn (query table : String) (part : SpecPart) (spec : String)
  | unknownComparison (query spec word : String)
  | unknownMode (query mode : String)
  | duplicateQuery (query : String)
deriving DecidableEq, Repr

namespace ResolveError

/-- The name of the definition that the error is about. -/
def query : ResolveError → String
  | unknownTable q _ | unknownColumn q _ _ _ | unknownComparison q _ _ | unknownMode q _
  | duplicateQuery q => q

/-- The error in words. -/
def message : ResolveError → String
  | unknownTable q table => s!"query '{q}': unknown table '{table}'"
  | unknownColumn q table part spec =>
    s!"query '{q}': {part.name} '{spec}' matches no column of table '{table}'"
  | unknownComparison q spec word => s!"query '{q}': unknown operator '{word}' in filter '{spec}'"
  | unknownMode q mode =>
    s!"query '{q}': unknown return mode '{mode}' (expected one, many or paged)"
  | duplicateQuery q => s!"query '{q}' is defined more than once"

/-- The errors of a run in words: their number, and a line for each. -/
def report (errors : List ResolveError) : String :=
  errors.foldl (fun text e => text ++ "\n  " ++ e.message)
    s!"{errors.length} invalid query definition(s)"

end ResolveError

/-- A choice that may not be what was meant. -/
inductive Warning
  /-- A sort names the end of a column's name only. -/
  | suffixMatch (query spec column : String)
  /-- One row is asked for, and a filter is for a range. -/
  | onePrecedence (query : String)
  /-- A table has no primary key, so its lookup query has no filter. -/
  | noPrimaryKey (table : String)
deriving DecidableEq, Repr

namespace Warning

/-- The warning in words. -/
def message : Warning → String
  | suffixMatch _ _ _ => "sort matched by suffix"
  | onePrecedence _ =>
    "declared return = \"one\" but a range filter may match many rows; one takes precedence"
  | noPrimaryKey _ => "table has no primary key; lookup query has no filters"

/-- What the warning is about, by name. -/
def subjects : Warning → List (String × String)
  | suffixMatch q spec column => [("query", q), ("spec", spec), ("column", column)]
  | onePrecedence q => [("query", q)]
  | noPrimaryKey t => [("table", t)]

end Warning

/-- What a step gives, and the warnings that came up in it. -/
structure Logged (α : Type) where
  value : α
  warnings : List Warning

namespace Logged

variable {α β : Type}

instance : Monad Logged where
  pure a := ⟨a, []⟩
  bind x f := ⟨(f x.value).value, x.warnings ++ (f x.value).warnings⟩

/-- The step in which a warning comes up. -/
def warn (w : Warning) : Logged Unit := ⟨(), [w]⟩

@[simp] theorem value_pure (a : α) : (pure a : Logged α).value = a := rfl

@[simp] theorem warnings_pure (a : α) : (pure a : Logged α).warnings = [] := rfl

@[simp] theorem value_bind (x : Logged α) (f : α → Logged β) :
    (x >>= f).value = (f x.value).value := rfl

@[simp] theorem warnings_bind (x : Logged α) (f : α → Logged β) :
    (x >>= f).warnings = x.warnings ++ (f x.value).warnings := rfl

@[simp] theorem warnings_warn (w : Warning) : (warn w).warnings = [w] := rfl

instance : LawfulMonad Logged := .mk' Logged
  (fun x => congrArg (Logged.mk x.value) (List.append_nil _))
  (fun _ _ => rfl)
  (fun _ _ _ => congrArg (Logged.mk _) (List.append_assoc _ _ _))

theorem value_mapM (f : α → Logged β) : ∀ xs : List α,
    (xs.mapM f).value = xs.map fun x => (f x).value
  | [] => rfl
  | x :: xs => by
    rw [List.mapM_cons, List.map_cons, ← value_mapM f xs]
    rfl

theorem warnings_mapM (f : α → Logged β) : ∀ xs : List α,
    (xs.mapM f).warnings = xs.flatMap fun x => (f x).warnings
  | [] => rfl
  | x :: xs => by
    rw [List.mapM_cons, List.flatMap_cons, ← warnings_mapM f xs]
    exact congrArg ((f x).warnings ++ ·) (List.append_nil _)

end Logged

end Introspect
