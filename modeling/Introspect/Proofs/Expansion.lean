import Mathlib
import Introspect.Proofs.Outcome
import Introspect.Proofs.Spec
import Introspect.Settings.Basic

/-! Expansion: the segments of a text, and what is put in for them.

    Of each kind of segment it is said what it is made of and what may follow it
    (`Segment.Fits`). A text falls into such segments in one way only, and that is how it is scanned
    (`splits_iff`): the first segment can be told from the text, since a name in braces goes up to
    the first closing brace and any other name up to the first character that is none of a name's.

    What becomes of the text is then told of its segments alone (`Segment.filled`). Values are put in
    as they are, so a dollar sign in a value refers to nothing, and no other variable matters. -/

namespace Introspect

variable {c : Char} {name rest text : List Char} {segments : List Segment} {env env' : Environment}

namespace Segment

/-! ### The grammar -/

/-- What a segment is made of, and what may follow it. -/
def Fits (rest : List Char) : Segment → Prop
  | literal c => c ≠ '$'
  | braced name => '}' ∉ name
  | unclosed name => '}' ∉ name ∧ rest = []
  | bare name => name ≠ [] ∧ (∀ c ∈ name, isNameChar c = true) ∧
      ∀ c ∈ rest.head?, isNameChar c = false
  | dollar => ∀ c ∈ rest.head?, c ≠ '{' ∧ isNameChar c = false

/-- Segments into which a text falls, one after the other. -/
inductive Splits : List Char → List Segment → Prop
  | nil : Splits [] []
  | cons {s : Segment} {rest : List Char} {segments : List Segment} (fits : s.Fits rest)
      (more : Splits rest segments) : Splits (s.chars ++ rest) (s :: segments)

/-- What is put in for a segment: the value of its variable, or else its own characters. -/
def inserted (env : Environment) (s : Segment) : String :=
  match s.reference? with
  | none => .ofList s.chars
  | some name => (env name).getD ""

/-- What becomes of segments: what is put in for them, one after the other, unless some variable is
    not set, of which the first is an error. -/
def filled (env : Environment) (segments : List Segment) : Except String String :=
  match (segments.filterMap reference?).find? (env · = none) with
  | none => .ok (String.join (segments.map (inserted env)))
  | some name => .error name

/-! ### The first segment -/

theorem next_braced (free : '}' ∉ name) (rest : List Char) :
    next '$' ('{' :: (name ++ '}' :: rest)) = (braced name, rest) := by
  obtain ⟨taken, left⟩ := span_free free ('}' :: rest) (by simp)
  rw [next, if_neg (by simp)]
  simp only [taken, left]

theorem next_unclosed (free : '}' ∉ name) : next '$' ('{' :: name) = (unclosed name, []) := by
  obtain ⟨-, left⟩ := span_free free [] (by simp)
  rw [List.append_nil] at left
  rw [next, if_neg (by simp)]
  simp only [left]

/-- Without a brace the name is the run of its characters; there is none if the run is empty. -/
theorem next_run (inside : ∀ c ∈ name, isNameChar c = true)
    (boundary : ∀ c ∈ rest.head?, isNameChar c = false) (unbraced : (name ++ rest).head? ≠ some '{') :
    next '$' (name ++ rest) = (if name = [] then dollar else bare name, rest) := by
  obtain ⟨taken, left⟩ := span_run inside boundary
  have apart : ∀ after, name ++ rest = '{' :: after → False := by
    intro after same
    exact unbraced (same ▸ rfl)
  rw [next, if_neg (by simp)]
  · rw [taken, left]
    cases name with
    | nil => rfl
    | cons c name => rfl
  · exact apart

/-- What fits is what is scanned first. -/
theorem next_chars {s : Segment} (fits : s.Fits rest) :
    ∃ c tail, s.chars ++ rest = c :: tail ∧ next c tail = (s, rest) := by
  cases s with
  | literal c => exact ⟨c, rest, rfl, if_pos fits⟩
  | braced name =>
    refine ⟨'$', '{' :: (name ++ '}' :: rest), ?_, next_braced fits rest⟩
    simp [chars]
  | unclosed name =>
    obtain ⟨free, rfl⟩ := fits
    refine ⟨'$', '{' :: name, ?_, next_unclosed free⟩
    simp [chars]
  | bare name =>
    obtain ⟨some, inside, boundary⟩ := fits
    refine ⟨'$', name ++ rest, rfl, ?_⟩
    obtain ⟨first, name, rfl⟩ := List.exists_cons_of_ne_nil some
    rw [next_run inside boundary, if_neg some]
    -- a brace is no character of a name
    intro brace
    obtain rfl : first = '{' := Option.some.inj brace
    exact absurd (inside '{' List.mem_cons_self) (by decide)
  | dollar =>
    refine ⟨'$', rest, rfl, ?_⟩
    refine @next_run [] rest (by simp) (fun c hc => (fits c hc).2) fun brace => ?_
    exact (fits '{' brace).1 rfl

theorem head?_dropWhile (p : Char → Bool) (text : List Char) :
    ∀ c ∈ (text.dropWhile p).head?, p c = false := by
  intro c hc
  have first := List.head?_dropWhile_not p text
  rw [Option.mem_def.1 hc] at first
  simpa using first

/-- In front of every text that is not empty a segment fits. -/
theorem exists_fits (c : Char) (rest : List Char) :
    ∃ (s : Segment) (after : List Char), s.chars ++ after = c :: rest ∧ s.Fits after := by
  by_cases sign : c = '$'
  · subst sign
    by_cases brace : rest.head? = some '{'
    · obtain ⟨tail, rfl⟩ := List.head?_eq_some_iff.1 brace
      by_cases closed : '}' ∈ tail
      · obtain ⟨name, after, rfl, free⟩ := List.eq_append_cons_of_mem closed
        exact ⟨braced name, after, by simp [chars], free⟩
      · exact ⟨unclosed tail, [], by simp [chars], closed, rfl⟩
    · have boundary := head?_dropWhile isNameChar rest
      cases run : rest.takeWhile isNameChar with
      | nil =>
        have whole : rest.dropWhile isNameChar = rest := by
          have parts := List.takeWhile_append_dropWhile (p := isNameChar) (l := rest)
          rwa [run] at parts
        rw [whole] at boundary
        exact ⟨dollar, rest, rfl, fun c hc => ⟨fun same => brace (same ▸ hc), boundary c hc⟩⟩
      | cons first name =>
        refine ⟨bare (first :: name), rest.dropWhile isNameChar, ?_, by simp, ?_, boundary⟩
        · rw [← run]
          exact congrArg ('$' :: ·) List.takeWhile_append_dropWhile
        · rw [← run]
          exact fun c hc => List.mem_takeWhile_imp hc
  · exact ⟨literal c, rest, rfl, sign⟩

/-! ### All segments -/

theorem ofText_nil : ofText [] = [] := by rw [ofText]

theorem ofText_append {s : Segment} (fits : s.Fits rest) :
    ofText (s.chars ++ rest) = s :: ofText rest := by
  obtain ⟨c, tail, parts, first⟩ := next_chars fits
  rw [parts, ofText, first]

theorem Splits.eq_ofText (h : Splits text segments) : segments = ofText text := by
  induction h with
  | nil => exact ofText_nil.symm
  | cons fits _ ih => rw [ofText_append fits, ih]

theorem chars_ne_nil (s : Segment) : s.chars ≠ [] := by cases s <;> simp [chars]

theorem splits_ofText (text : List Char) : Splits text (ofText text) := by
  induction hn : text.length using Nat.strong_induction_on generalizing text with
  | _ n ih =>
    cases text with
    | nil =>
      rw [ofText_nil]
      exact .nil
    | cons c rest =>
      obtain ⟨s, after, parts, fits⟩ := exists_fits c rest
      have shorter : after.length < n := by
        have some := List.length_pos_iff.2 s.chars_ne_nil
        rw [← hn, ← parts, List.length_append]
        omega
      rw [← parts, ofText_append fits]
      exact .cons fits (ih _ shorter after rfl)

/-- A text falls into segments in one way only. -/
theorem splits_iff : Splits text segments ↔ segments = ofText text :=
  ⟨Splits.eq_ofText, fun same => same ▸ splits_ofText text⟩

/-! ### What is put in -/

theorem value_own {s : Segment} (own : s.reference? = none) :
    s.value env = .ok (s.inserted env).toList := by
  simp [value, inserted, own]

theorem value_set {s : Segment} {n v : String} (refers : s.reference? = some n)
    (found : env n = some v) : s.value env = .ok (s.inserted env).toList := by
  simp [value, inserted, refers, found]

theorem value_unset {s : Segment} {n : String} (refers : s.reference? = some n)
    (missing : env n = none) : s.value env = .error n := by
  simp [value, refers, missing]

/-- Reading the values stops at the first variable that is not set. -/
theorem mapM_value (env : Environment) (segments : List Segment) :
    segments.mapM (value env) =
      match (segments.filterMap reference?).find? (env · = none) with
      | none => .ok (segments.map fun s => (s.inserted env).toList)
      | some name => .error name := by
  induction segments with
  | nil => rfl
  | cons s segments ih =>
    rw [List.mapM_cons, ih]
    cases refers : s.reference? with
    | none =>
      rw [value_own refers, List.filterMap_cons_none refers]
      cases (segments.filterMap reference?).find? (env · = none) with
      | none => rfl
      | some name => rfl
    | some n =>
      rw [List.filterMap_cons_some refers, List.find?_cons]
      cases found : env n with
      | none =>
        rw [value_unset refers found]
        rfl
      | some v =>
        rw [value_set refers found]
        cases (segments.filterMap reference?).find? (env · = none) with
        | none => rfl
        | some name => rfl

theorem filled_congr (same : ∀ n ∈ segments.filterMap reference?, env n = env' n) :
    filled env segments = filled env' segments := by
  have missing : (segments.filterMap reference?).find? (env · = none) =
      (segments.filterMap reference?).find? (env' · = none) :=
    List.find?_congr fun n hn => by rw [same n hn]
  have put : segments.map (inserted env) = segments.map (inserted env') := by
    refine List.map_congr_left fun s hs => ?_
    cases refers : s.reference? with
    | none => simp [inserted, refers]
    | some n =>
      have read := same n (List.mem_filterMap.2 ⟨s, hs, refers⟩)
      simp [inserted, refers, read]
  rw [filled, filled, missing, put]

end Segment

open Segment

theorem expand_eq (env : Environment) (text : String) :
    expand env text = filled env (ofText text.toList) := by
  rw [expand, mapM_value, filled]
  cases ((ofText text.toList).filterMap reference?).find? (env · = none) with
  | some name => rfl
  | none =>
    refine congrArg Except.ok ?_
    rw [← String.toList_inj, String.toList_ofList, String.toList_join, List.flatMap_map]
    rfl

/-- EXPANDED: a text falls into segments in one way only, and its expansion is what becomes of them:
    their own characters and the values of the variables to which they refer, or else the first of
    these that is not set. Only those variables matter. -/
theorem expand_follows (text : String) :
    (∃! segments, Splits text.toList segments) ∧
    ∀ segments, Splits text.toList segments →
      (∀ env, expand env text = filled env segments ∧
        ∀ bound, (Connection.mk (some text) bound).resolvedUrl env =
          (filled env segments).mapError .missingVariable) ∧
      ∀ env env' : Environment, (∀ n ∈ segments.filterMap reference?, env n = env' n) →
        expand env text = expand env' text := by
  refine ⟨⟨ofText text.toList, splits_ofText _, fun _ h => h.eq_ofText⟩, ?_⟩
  intro segments splits
  obtain rfl := splits.eq_ofText
  refine ⟨fun env => ⟨expand_eq env text, fun bound => ?_⟩, fun env env' same => ?_⟩
  · rw [← expand_eq]
    rfl
  · rw [expand_eq, expand_eq, filled_congr same]

/-- A text with segments of every kind. -/
def address : String := "$user:$\x7bpass\x7d@$host_1$$/$\x7bdb"

/-- Its segments. -/
def addressSegments : List Segment :=
  [bare ['u', 's', 'e', 'r'], literal ':', braced ['p', 'a', 's', 's'], literal '@',
    bare ['h', 'o', 's', 't', '_', '1'], dollar, dollar, literal '/', unclosed ['d', 'b']]

/-- Variables for it, of which one has a value with a reference in it. -/
def addressVariables : Environment :=
  .ofList [("user", "$\x7bpass\x7d"), ("pass", "a$b"), ("host_1", ""), ("db", "ü")]

/-- The same variables among others, with none for what is in no segment. -/
def moreVariables : Environment := .ofList [("host", "elsewhere"), ("b", "c")]

theorem expand_follows_address :
    Splits address.toList addressSegments ∧
    expand addressVariables address = .ok "$\x7bpass\x7d:a$b@$$/ü" ∧
    expand moreVariables address = .error "user" ∧
    (∀ n ∈ addressSegments.filterMap reference?,
      addressVariables n = addressVariables.orElse moreVariables n) ∧
    expand addressVariables address = expand (addressVariables.orElse moreVariables) address := by
  have splits : Splits address.toList addressSegments := splits_iff.2 (by cbv)
  obtain ⟨-, follows⟩ := expand_follows address
  obtain ⟨expansion, only⟩ := follows _ splits
  have same : ∀ n ∈ addressSegments.filterMap reference?,
      addressVariables n = addressVariables.orElse moreVariables n := by decide
  refine ⟨splits, ?_, ?_, same, only _ _ same⟩
  · rw [(expansion _).1]
    cbv
  · rw [(expansion _).1]
    cbv

end Introspect
