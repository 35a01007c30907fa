import Introspect.Proofs.Toml
import Mathlib.Data.Option.Basic
import Mathlib.Logic.Relation

/-! Fields of TOML texts: the value of one of them changes nothing else.

    Two tables that have everything in common but one value stay so whatever statement is read
    (`statement_differ`), since statements go by names and never look at a value that is complete. So
    if reading comes in two texts to different values of a field, with the same read before and the
    same to follow, either both texts are in error or their documents differ in that field only
    (`read_differ`). Such a value can be any text without quotes and control characters, for between
    single quotes it is read as it stands (`quotedText?_literal`). -/

namespace Introspect.Toml

variable {name k : String} {v v' d : Datum} {es es' : Entries} {path : List String}
  {f : Option Node → Option Node}

/-! ### Outcomes side by side -/

section

variable {α β γ δ : Type} {R : α → β → Prop} {S : γ → δ → Prop}

theorem rel_bind {x : Option α} {y : Option β} {f : α → Option γ} {g : β → Option δ}
    (h : Option.Rel R x y) (step : ∀ a b, R a b → Option.Rel S (f a) (g b)) :
    Option.Rel S (x.bind f) (y.bind g) := by
  cases h with
  | none => exact .none
  | some related => exact step _ _ related

theorem rel_bind_same {x : Option α} {f : α → Option γ} {g : α → Option δ}
    (step : ∀ a, Option.Rel S (f a) (g a)) : Option.Rel S (x.bind f) (x.bind g) := by
  cases x with
  | none => exact .none
  | some a => exact step a

theorem rel_map {x : Option α} {y : Option β} {f : α → γ} {g : β → δ}
    (h : Option.Rel R x y) (step : ∀ a b, R a b → S (f a) (g b)) :
    Option.Rel S (x.map f) (y.map g) := by
  cases h with
  | none => exact .none
  | some related => exact .some (step _ _ related)

end

/-! ### Tables that differ in one value -/

namespace Entries

/-- Tables that have everything in common but a value under a name. -/
inductive Differ (name : String) (v v' : Datum) : Entries → Entries → Prop
  | mk (before after : Entries) :
      Differ name v v' (before ++ (name, .value v) :: after) (before ++ (name, .value v') :: after)

theorem Differ.cons (e : String × Node) (h : Differ name v v' es es') :
    Differ name v v' (e :: es) (e :: es') := by
  obtain ⟨before, after⟩ := h
  exact .mk (e :: before) after

/-- A change that is not made to a value does not tell such tables apart. -/
theorem update_differ (refuses : ∀ d, f (some (.value d)) = none) (h : Differ name v v' es es') :
    Option.Rel (Differ name v v') (update k f es) (update k f es') := by
  obtain ⟨before, after⟩ := h
  induction before with
  | nil =>
    rw [List.nil_append, List.nil_append, update, update]
    by_cases same : name = k
    · rw [if_pos same, if_pos same, refuses, refuses]
      exact .none
    · rw [if_neg same, if_neg same]
      cases update k f after with
      | none => exact .none
      | some es => exact .some (.mk [] es)
  | cons e before ih =>
    rw [List.cons_append, List.cons_append, update, update]
    by_cases same : e.1 = k
    · rw [if_pos same, if_pos same]
      cases f (some e.2) with
      | none => exact .none
      | some n => exact .some (.mk ((k, n) :: before) after)
    · rw [if_neg same, if_neg same]
      exact rel_map ih fun _ _ h => h.cons e

theorem within_value (g : Entries → Option Entries) (d : Datum) : within g (some (.value d)) = none :=
  rfl

theorem inside_differ {g : Entries → Option Entries}
    (step : ∀ {es es'}, Differ name v v' es es' → Option.Rel (Differ name v v') (g es) (g es'))
    (h : Differ name v v' es es') :
    Option.Rel (Differ name v v') (inside path g es) (inside path g es') := by
  cases path with
  | nil => exact step h
  | cons k ks => exact update_differ (within_value _) h

theorem open?_differ (refuses : ∀ d, f (some (.value d)) = none) (h : Differ name v v' es es') :
    Option.Rel (Differ name v v') (open? f path es) (open? f path es') := by
  rw [open?, open?]
  cases path.getLast? with
  | none => exact .none
  | some k => exact inside_differ (update_differ refuses) h

theorem assign_differ (h : Differ name v v' es es') :
    Option.Rel (Differ name v v') (assign d path es) (assign d path es') := by
  match path with
  | [] => exact .none
  | [k] => exact update_differ (fun _ => rfl) h
  | k :: _ :: _ => exact update_differ (fun _ => rfl) h

/-- A name that is new comes last. -/
theorem update_new (new : k ∉ es.map (·.1)) :
    update k f es = (f none).map fun n => es ++ [(k, n)] := by
  induction es with
  | nil => rfl
  | cons e es ih =>
    rw [List.map_cons, List.mem_cons, not_or] at new
    rw [update, if_neg (Ne.symm new.1), ih new.2]
    cases f none with
    | none => rfl
    | some n => rfl

/-- A name that has a value cannot be given another. -/
theorem update_old (old : k ∈ es.map (·.1)) (refuses : ∀ n, f (some n) = none) :
    update k f es = none := by
  induction es with
  | nil => cases old
  | cons e es ih =>
    rw [update]
    by_cases same : e.1 = k
    · rw [if_pos same, refuses]
      rfl
    · rw [List.map_cons, List.mem_cons, or_iff_right (Ne.symm same)] at old
      rw [if_neg same, ih old]
      rfl

/-- Two values for a name make tables that differ in that value, if the name is free. -/
theorem assign_two (es : Entries) :
    Option.Rel (Differ name v v') (assign v [name] es) (assign v' [name] es) := by
  by_cases old : name ∈ es.map (·.1)
  · rw [assign, assign, update_old old fun _ => rfl, update_old old fun _ => rfl]
    exact .none
  · rw [assign, assign, update_new old, update_new old]
    exact .some (.mk es [])

end Entries

/-! ### Statements -/

namespace Draft

variable {e e' : Draft} {s s' rest line : List Char} {n : ℕ}

/-- Drafts that have everything in common but a value of the document. -/
structure Differ (name : String) (v v' : Datum) (e e' : Draft) : Prop where
  root : Entries.Differ name v v' e.root e'.root
  current : e.current = e'.current

/-- A statement is read alike whatever the value is, and does not change it. -/
theorem statement_differ (h : Differ name v v' e e') :
    Option.Rel (fun p q => Differ name v v' p.1 q.1 ∧ p.2 = q.2) (e.statement s) (e'.statement s) := by
  obtain ⟨root, current⟩ := e
  obtain ⟨root', current'⟩ := e'
  obtain ⟨differ, rfl⟩ := h
  -- what is left to do in each case, once the tables of the document are known
  have ends : ∀ {es es' : Entries} (path : List String) (rest : List Char),
      Entries.Differ name v v' es es' →
      Option.Rel (fun p q => Differ name v v' p.1 q.1 ∧ p.2 = q.2)
        ((lineEnd rest).bind fun rest => some (⟨es, path⟩, rest))
        ((lineEnd rest).bind fun rest => some (⟨es', path⟩, rest)) :=
    fun _ _ differ => rel_bind_same fun _ => .some ⟨⟨differ, rfl⟩, rfl⟩
  unfold statement
  split
  · refine rel_bind_same fun ⟨path, _⟩ => rel_bind_same fun _ => rel_bind_same fun _ => ?_
    exact rel_bind (Entries.open?_differ (fun _ => rfl) differ) fun _ _ => ends path _
  · refine rel_bind_same fun ⟨path, _⟩ => rel_bind_same fun _ => ?_
    exact rel_bind (Entries.open?_differ (fun _ => rfl) differ) fun _ _ => ends path _
  · refine rel_bind_same fun ⟨⟨path, _⟩, _⟩ => ?_
    exact rel_bind (Entries.inside_differ Entries.assign_differ differ) fun _ _ => ends _ _

theorem statements_differ (h : Differ name v v' e e') :
    Option.Rel (Differ name v v') (statements n e s) (statements n e' s) := by
  induction n generalizing e e' s with
  | zero => exact .none
  | succ n ih =>
    rw [statements, statements]
    refine rel_bind_same fun line => ?_
    cases line with
    | nil => exact .some h
    | cons c tail =>
      refine rel_bind (statement_differ h) ?_
      rintro ⟨e, rest⟩ ⟨e', rest'⟩ ⟨differ, rfl⟩
      exact ih differ

/-! ### Reading to the end -/

/-- Reads all statements of a text. -/
def finish (e : Draft) (s : List Char) : Option Draft := statements (s.length + 1) e s

/-- One statement is read, with the blanks and the comments before it. -/
def Reads (p q : Draft × List Char) : Prop :=
  ∃ line, filler false p.2 = some line ∧ line ≠ [] ∧ p.1.statement line = some q

theorem finish_of_statement (skipped : filler false s = some line) (some : line ≠ []) :
    e.finish s = (e.statement line).bind fun r => r.1.finish r.2 := by
  rw [finish, statements, skipped]
  obtain ⟨c, tail, rfl⟩ := List.exists_cons_of_ne_nil some
  change (e.statement (c :: tail)).bind _ = (e.statement (c :: tail)).bind _
  refine Option.bind_congr fun r read => ?_
  have fewer : r.2.length < (c :: tail).length := statement_length read
  have left := filler_length skipped
  exact statements_congr (by omega) (Nat.lt_succ_self _)

theorem finish_of_reads {p q : Draft × List Char} (h : Relation.ReflTransGen Reads p q) :
    p.1.finish p.2 = q.1.finish q.2 := by
  induction h using Relation.ReflTransGen.head_induction_on with
  | refl => rfl
  | head first _ ih =>
    obtain ⟨line, skipped, some, read⟩ := first
    rw [finish_of_statement skipped some, read]
    exact ih

end Draft

/-! ### A field of the document -/

/-- Documents that have everything in common but the value of a field. -/
inductive FieldDiffers (name : String) (v v' : Datum) : Datum → Datum → Prop
  | mk (before after : List (String × Datum)) :
      FieldDiffers name v v' (.record (before ++ (name, v) :: after))
        (.record (before ++ (name, v') :: after))

/-- Where reading starts. -/
def start (text : String) : List Char :=
  match text.toList with
  | '\uFEFF' :: rest => rest
  | s => s

/-- Reading a text comes to a line above all headers that gives a field a text: `e` is the draft
    before it, and `rest` follows the text. -/
inductive Writes (name v : String) (e : Draft) (rest : List Char) (text : String) : Prop
  | mk {s line afterName afterSign : List Char}
      (before : Relation.ReflTransGen Draft.Reads (⟨[], []⟩, start text) (e, s))
      (above : e.current = []) (skipped : filler false s = some line)
      (named : key line = some ([name], afterName))
      (sign : skipChar? '=' (skipSpaces afterName) = some afterSign)
      (value : quotedText? (skipSpaces afterSign) = some (v, rest))

theorem read_eq_finish (text : String) :
    read text = (Draft.finish ⟨[], []⟩ (start text)).map fun e => .record (entriesToFields e.root) := by
  rw [Option.map_eq_bind]
  rfl

theorem entriesToFields_append (es es' : Entries) :
    entriesToFields (es ++ es') = entriesToFields es ++ entriesToFields es' := by
  induction es with
  | nil => rfl
  | cons e es ih => rw [List.cons_append, entriesToFields, entriesToFields, ih, List.cons_append]

/-- Tables that differ in one value make documents that differ in one field. -/
theorem Entries.Differ.document (h : Entries.Differ name v v' es es') :
    FieldDiffers name v v' (.record (entriesToFields es)) (.record (entriesToFields es')) := by
  obtain ⟨before, after⟩ := h
  rw [entriesToFields_append, entriesToFields_append]
  exact .mk _ _

theorem key_bracket (s : List Char) : key ('[' :: s) = none := rfl

theorem line_of_named {line : List Char} {r : List String × List Char} (named : key line = some r) :
    line ≠ [] := by
  rintro rfl
  cases named

theorem value_quoted {depth : ℕ} {s rest : List Char} {text : String}
    (h : quotedText? s = some (text, rest)) : value depth s = some (.text text, rest) := by
  rw [value.eq_def]
  split
  · cases h
  · cases h
  · rw [h]

/-- A line that gives a field a text is an assignment to the current table. -/
theorem Draft.statement_named {e : Draft} {line afterName afterSign rest : List Char} {text : String}
    (named : key line = some ([name], afterName))
    (sign : skipChar? '=' (skipSpaces afterName) = some afterSign)
    (value : quotedText? (skipSpaces afterSign) = some (text, rest)) :
    e.statement line = (e.root.inside e.current (Entries.assign (.text text) [name])).bind fun root =>
      (lineEnd rest).bind fun rest => some (⟨root, e.current⟩, rest) := by
  have read : assignment (some ∘ skipSpaces) (Toml.value maxDepth) line =
      some (([name], .text text), rest) := by
    rw [assignment, named]
    change (skipChar? '=' (skipSpaces afterName)).bind _ = _
    rw [sign]
    change (Toml.value maxDepth (skipSpaces afterSign)).bind _ = _
    rw [value_quoted value]
    rfl
  unfold statement
  split
  · cases (key_bracket _).symm.trans named
  · cases (key_bracket _).symm.trans named
  · rw [read]
    rfl

/-- A statement that gives a field a text, as a step. -/
theorem Draft.Reads.named {e : Draft} {s line afterName afterSign rest next : List Char}
    {text : String} {root : Entries} (skipped : filler false s = some line)
    (named : key line = some ([name], afterName))
    (sign : skipChar? '=' (skipSpaces afterName) = some afterSign)
    (value : quotedText? (skipSpaces afterSign) = some (text, rest))
    (assigned : e.root.inside e.current (Entries.assign (.text text) [name]) = some root)
    (ends : lineEnd rest = some next) : Draft.Reads (e, s) (⟨root, e.current⟩, next) := by
  refine ⟨line, skipped, line_of_named named, ?_⟩
  rw [Draft.statement_named named sign value, assigned, ends]
  rfl

/-- What a text that gives a field a text is read as. -/
theorem Writes.read_eq {text v : String} {e : Draft} {rest : List Char}
    (h : Writes name v e rest text) : read text =
      ((Entries.assign (.text v) [name] e.root).bind fun root => (lineEnd rest).bind fun rest =>
        Draft.finish ⟨root, []⟩ rest).map fun e => .record (entriesToFields e.root) := by
  obtain ⟨before, above, skipped, named, sign, value⟩ := h
  rw [read_eq_finish, Draft.finish_of_reads before,
    Draft.finish_of_statement skipped (line_of_named named),
    Draft.statement_named named sign value, above, Option.bind_assoc]
  simp only [Option.bind_assoc, Option.bind_some]
  rfl

/-- Two texts that give a field two values, with the same before and the same behind, are both in
    error or differ in that field only. -/
theorem read_differ {a b ta tb : String} {e : Draft} {rest : List Char}
    (ha : Writes name a e rest ta) (hb : Writes name b e rest tb) :
    Option.Rel (FieldDiffers name (.text a) (.text b)) (read ta) (read tb) := by
  rw [ha.read_eq, hb.read_eq]
  refine rel_map (R := Draft.Differ name (.text a) (.text b)) ?_ fun _ _ h => h.root.document
  refine rel_bind (Entries.assign_two e.root) fun root root' differ => ?_
  exact rel_bind_same fun rest => Draft.statements_differ ⟨differ, rfl⟩

/-! ### Texts between single quotes -/

/-- A text that can stand between single quotes. -/
def Literal (v : String) : Prop := ∀ c ∈ v.toList, isPermitted c = true ∧ c ≠ '\''

instance (v : String) : Decidable (Literal v) := List.decidableBAll _ v.toList

theorem textBody_plain {f : TextForm} {c : Char} {rest : List Char} (permitted : isPermitted c = true)
    (quote : c ≠ f.quote) (escapes : f.escapes = false) :
    textBody f false (c :: rest) = prepend (some c) (textBody f false rest) := by
  have feed : c ≠ '\n' := by
    rintro rfl
    cases permitted
  have back : c ≠ '\r' := by
    rintro rfl
    cases permitted
  rw [textBody.eq_def]
  simp [quote, escapes, feed, back, permitted]

theorem textBody_literal {cs rest : List Char}
    (plain : ∀ c ∈ cs, isPermitted c = true ∧ c ≠ '\'') :
    textBody ⟨'\'', false, false⟩ false (cs ++ '\'' :: rest) = some (cs, rest) := by
  induction cs with
  | nil =>
    rw [List.nil_append, textBody.eq_def]
    rfl
  | cons c cs ih =>
    obtain ⟨⟨permitted, quote⟩, others⟩ := List.forall_mem_cons.1 plain
    rw [List.cons_append, textBody_plain permitted quote rfl, ih others]
    rfl

/-- A text is read from between its quotes, unless one more quote follows: three of them would start
    another form. -/
theorem quotedText?_literal {v : String} (plain : Literal v) {c : Char} (other : c ≠ '\'')
    (rest : List Char) :
    quotedText? ('\'' :: (v.toList ++ '\'' :: c :: rest)) = some (v, c :: rest) := by
  have single : ∀ tail, v.toList ++ '\'' :: c :: rest ≠ '\'' :: '\'' :: tail := by
    intro tail same
    cases text : v.toList with
    | nil =>
      rw [text] at same
      injection same with _ same
      injection same with same
      exact other same
    | cons d ds =>
      rw [text] at same
      injection same with same
      exact (plain d (by simp [text])).2 same
  have line : lineText? ('\'' :: (v.toList ++ '\'' :: c :: rest)) = some (v, c :: rest) := by
    rw [lineText?, textBody_literal plain]
    simp [asString]
  rw [quotedText?]
  · exact line
  · rintro _ ⟨⟩
  · intro tail same
    injection same with _ same
    exact single tail same

end Introspect.Toml
