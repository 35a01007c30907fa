import Introspect.Proofs.Token

/-! The JSON reader: what was written is read back.

    The reader goes through the text of a value from a state that expects one (`Expects`), and
    leaves with this value complete, whatever stands around it and follows it (`Reads`). A list or
    record carries this from its members to itself: the members that were read so far wait in a
    frame, the last one first, and the closing bracket turns them around. So a document is read back
    from its text in any layout (`read_write`).

    Whatever the text, no number without a value is read (`readable_read`), since no token holds one
    and no step makes one. -/

namespace Introspect

namespace Json

/-- The layout puts nothing but blanks between the tokens. -/
structure Layout.Blank (l : Layout) : Prop where
  line : ∀ depth, ∀ c ∈ l.line depth, isGap c = true
  afterColon : ∀ c ∈ l.afterColon, isGap c = true

theorem Layout.blank_compact : Layout.compact.Blank where
  line _ _ hc := by cases hc
  afterColon _ hc := by cases hc

theorem Layout.blank_indented : Layout.indented.Blank where
  line depth c hc := by
    rcases List.mem_cons.1 hc with rfl | hc
    · decide
    · rw [List.eq_of_mem_replicate hc]
      decide
  afterColon c hc := by
    rw [List.mem_singleton.1 hc]
    decide

end Json

open Json

/-- Data with a form of its own in JSON. -/
inductive Datum.Plain : Datum → Prop
  | null : Plain .null
  | bool (b : Bool) : Plain (.bool b)
  | integer (n : Int) : Plain (.integer n)
  | decimal {spelling : String} (chars : ∀ c ∈ spelling.toList, isNumberChar c = true)
      (number : number? spelling.toList = some (.decimal spelling)) : Plain (.decimal spelling)
  | text (s : String) : Plain (.text s)
  | list {items : List Datum} (plain : ∀ d ∈ items, Plain d) : Plain (.list items)
  | record {fields : List (String × Datum)} (plain : ∀ f ∈ fields, Plain f.2) :
      Plain (.record fields)

namespace Json

variable {l : Layout} {st : State} {stack : List Frame} {cs rest gaps : List Char} {c : Char}
  {t : Token} {d : Datum} {k : String}

/-! ### Scans -/

/-- The state of the reader after the given characters. -/
def scan (st : State) (cs : List Char) : Option State :=
  (tokens cs).bind (·.foldlM State.step st)

theorem read_eq_scan (text : String) :
    read text = (scan (.value []) text.toList).bind State.result? := by
  rw [read, scan, Option.bind_assoc]
  rfl

theorem scan_token (h : tokens cs = (tokens rest).map (t :: ·)) :
    scan st cs = (st.step t).bind (scan · rest) := by
  rw [scan, h]
  cases found : tokens rest with
  | none => simp [scan, found]
  | some ts => simp [scan, found, List.foldlM_cons]

theorem scan_next {after : List Char} {st' : State} (gap : isGap c = false)
    (next : Token.next c rest = some (t, after)) (step : st.step t = some st') :
    scan st (c :: rest) = scan st' after := by
  rw [scan_token (tokens_next gap next), step, Option.bind_some]

theorem scan_gaps (blank : ∀ c ∈ gaps, isGap c = true) : scan st (gaps ++ rest) = scan st rest := by
  rw [scan, tokens_gaps blank, scan]

/-! ### Values -/

/-- The state waits for a value, to be put on the stack. -/
def Expects (st : State) (stack : List Frame) : Prop :=
  ∀ t, t ≠ .closeList → st.step t = State.start stack t

theorem expects_value (stack : List Frame) : Expects (.value stack) stack := fun _ _ => rfl

theorem expects_firstItem (stack : List Frame) :
    Expects (.firstItem stack) (.list [] :: stack) := by
  intro t other
  cases t with
  | closeList => exact absurd rfl other
  | _ => rfl

/-- What is written of the value is read as the value. -/
def Reads (l : Layout) (d : Datum) : Prop :=
  ∀ {depth : Nat} {st : State} {stack : List Frame} {rest : List Char}, Expects st stack →
    Ends rest → scan st (write l depth d ++ rest) = scan (.complete d stack) rest

/-- A scalar or a text is read if it is written as one token. -/
theorem reads_of_token (t : Token)
    (token : ∀ {depth rest}, Ends rest →
      tokens (write l depth d ++ rest) = (tokens rest).map (t :: ·))
    (other : t ≠ .closeList) (start : ∀ stack, State.start stack t = some (.complete d stack)) :
    Reads l d := by
  intro depth st stack rest expects ends
  rw [scan_token (token ends), expects t other, start, Option.bind_some]

theorem scan_openList (expects : Expects st stack) :
    scan st ('[' :: rest) = scan (.firstItem stack) rest :=
  scan_next (by decide) rfl (expects .openList (by simp))

theorem scan_openRecord (expects : Expects st stack) :
    scan st ('{' :: rest) = scan (.firstKey stack) rest :=
  scan_next (by decide) rfl (expects .openRecord (by simp))

/-! ### Ends -/

theorem ends_cons (other : isNumberChar c = false) : Ends (c :: rest) := by
  rintro _ ⟨⟩
  exact other

theorem ends_gaps (blank : ∀ c ∈ gaps, isGap c = true) (ends : Ends rest) :
    Ends (gaps ++ rest) := by
  cases gaps with
  | nil => exact ends
  | cons c gaps =>
    refine ends_cons (Bool.eq_false_iff.2 fun number => ?_)
    exact absurd (blank c List.mem_cons_self) (by simp [not_gap_of_number number])

theorem ends_writeItems {depth : Nat} {ds : List Datum} (ends : Ends rest) :
    Ends (writeItems l depth ds ++ rest) := by
  cases ds with
  | nil => exact ends
  | cons d ds => exact ends_cons (by decide)

theorem ends_writeFields {depth : Nat} {fields : List (String × Datum)} (ends : Ends rest) :
    Ends (writeFields l depth fields ++ rest) := by
  cases fields with
  | nil => exact ends
  | cons f fields => exact ends_cons (by decide)

/-! ### Members -/

/-- Behind an item that is complete, the items after it are read up to the end of their list. -/
theorem scan_writeItems (blank : l.Blank) {depth above : Nat} (ends : Ends rest) :
    ∀ {ds done : List Datum} {d : Datum}, (∀ e ∈ ds, Reads l e) →
      scan (.complete d (.list done :: stack))
          (writeItems l depth ds ++ (l.line above ++ ']' :: rest)) =
        scan (.complete (.list (done.reverse ++ d :: ds)) stack) rest
  | [], done, d, _ => by
    rw [writeItems, List.nil_append, scan_gaps (blank.line above),
      scan_next (by decide) rfl rfl, List.reverse_cons]
  | e :: ds, done, d, reads => by
    obtain ⟨first, others⟩ := List.forall_mem_cons.1 reads
    have closed : Ends (l.line above ++ ']' :: rest) :=
      ends_gaps (blank.line above) (ends_cons (by decide))
    simp only [writeItems, List.cons_append, List.append_assoc]
    rw [scan_next (by decide) rfl rfl, scan_gaps (blank.line depth),
      first (expects_value _) (ends_writeItems closed), scan_writeItems blank ends others]
    simp

/-- The name of a field is read with its colon, so that its value comes next. -/
theorem scan_name (blank : l.Blank) {fields : List (String × Datum)}
    (names : st.step (.text (some k)) = some (.colon fields true k stack)) :
    scan st (quoted k ++ (':' :: (l.afterColon ++ rest))) =
      scan (.value (.record fields true k :: stack)) rest := by
  rw [scan_token (tokens_quoted k _), names, Option.bind_some, scan_next (by decide) rfl rfl,
    scan_gaps blank.afterColon]

/-- Behind a field that is complete, the fields after it are read up to the end of their record. -/
theorem scan_writeFields (blank : l.Blank) {depth above : Nat} (ends : Ends rest) :
    ∀ {fields done : List (String × Datum)} {k : String} {d : Datum},
      (∀ f ∈ fields, Reads l f.2) →
      scan (.complete d (.record done true k :: stack))
          (writeFields l depth fields ++ (l.line above ++ '}' :: rest)) =
        scan (.complete (.record (done.reverse ++ (k, d) :: fields)) stack) rest
  | [], done, k, d, _ => by
    rw [writeFields, List.nil_append, scan_gaps (blank.line above),
      scan_next (by decide) rfl rfl, closedRecord, if_pos rfl, List.reverse_cons]
  | (k', e) :: fields, done, k, d, reads => by
    obtain ⟨first, others⟩ := List.forall_mem_cons.1 reads
    have closed : Ends (l.line above ++ '}' :: rest) :=
      ends_gaps (blank.line above) (ends_cons (by decide))
    simp only [writeFields, List.cons_append, List.append_assoc]
    rw [scan_next (by decide) rfl rfl, scan_gaps (blank.line depth), scan_name blank rfl,
      first (expects_value _) (ends_writeFields closed), scan_writeFields blank ends others]
    simp

theorem reads_list (blank : l.Blank) {items : List Datum} (reads : ∀ d ∈ items, Reads l d) :
    Reads l (.list items) := by
  intro depth st stack rest expects ends
  cases items with
  | nil => exact (scan_openList expects).trans (scan_next (by decide) rfl rfl)
  | cons d ds =>
    obtain ⟨first, others⟩ := List.forall_mem_cons.1 reads
    have closed : Ends (l.line depth ++ ']' :: rest) :=
      ends_gaps (blank.line depth) (ends_cons (by decide))
    simp only [write, List.cons_append, List.append_assoc, List.nil_append]
    rw [scan_openList expects, scan_gaps (blank.line _), first (expects_firstItem _)
      (ends_writeItems closed), scan_writeItems blank ends others]
    rfl

theorem reads_record (blank : l.Blank) {fields : List (String × Datum)}
    (reads : ∀ f ∈ fields, Reads l f.2) : Reads l (.record fields) := by
  intro depth st stack rest expects ends
  cases fields with
  | nil => exact (scan_openRecord expects).trans (scan_next (by decide) rfl rfl)
  | cons f fields =>
    obtain ⟨first, others⟩ := List.forall_mem_cons.1 reads
    have closed : Ends (l.line depth ++ '}' :: rest) :=
      ends_gaps (blank.line depth) (ends_cons (by decide))
    simp only [write, List.cons_append, List.append_assoc, List.nil_append]
    rw [scan_openRecord expects, scan_gaps (blank.line _), scan_name blank rfl,
      first (expects_value _) (ends_writeFields closed), scan_writeFields blank ends others]
    rfl

/-! ### Documents -/

theorem reads_of_plain (blank : l.Blank) (plain : d.Plain) : Reads l d := by
  induction plain with
  | null =>
    refine reads_of_token (.scalar .null) (fun _ => ?_) (by simp) fun _ => rfl
    rw [write]
    exact tokens_word (by simp [words])
  | bool b =>
    refine reads_of_token (.scalar (.bool b)) (fun _ => ?_) (by simp) fun _ => rfl
    cases b with
    | true =>
      rw [write]
      exact tokens_word (by simp [words])
    | false =>
      rw [write]
      exact tokens_word (by simp [words])
  | integer n =>
    refine reads_of_token (.scalar (.integer n)) (fun ends => ?_) (by simp) fun _ => rfl
    rw [write, tokens_integer n ends]
  | decimal chars number =>
    refine reads_of_token (.scalar (.decimal _)) (fun ends => ?_) (by simp) fun _ => rfl
    rw [write, tokens_number chars number ends]
  | text s =>
    refine reads_of_token (.text (some s)) (fun _ => ?_) (by simp) fun _ => rfl
    rw [write, tokens_quoted]
  | list _ ih => exact reads_list blank ih
  | record _ ih => exact reads_record blank ih

/-- A document is read back from its text, whatever the layout and the blanks behind it. -/
theorem read_write_gaps (blank : l.Blank) (plain : d.Plain) (behind : ∀ c ∈ gaps, isGap c = true) :
    read (.ofList (write l 0 d ++ gaps)) = some d := by
  have ends : Ends gaps := List.append_nil gaps ▸ ends_gaps behind (nofun : Ends [])
  have value : scan (.value []) (write l 0 d ++ gaps) = scan (.complete d []) gaps :=
    reads_of_plain blank plain (expects_value []) ends
  have done : scan (.complete d []) gaps = some (.complete d []) := by
    rw [← List.append_nil gaps, scan_gaps behind, scan, tokens]
    rfl
  rw [read_eq_scan, String.toList_ofList, value, done]
  rfl

theorem read_write (blank : l.Blank) (plain : d.Plain) :
    read (.ofList (write l 0 d)) = some d := by
  simpa using read_write_gaps blank plain (List.forall_mem_nil _)

/-- A document is read back from lines of text. -/
theorem read_lines (plain : d.Plain) : read (indentedText d ++ "\n") = some d := by
  have newline : ∀ c ∈ ['\n'], isGap c = true := by simp [isGap]
  rw [indentedText, ← read_write_gaps Layout.blank_indented plain newline, String.ofList_append]

/-! ### Readable documents -/

theorem areReadable_iff {items : List Datum} :
    Datum.areReadable items = true ↔ ∀ d ∈ items, d.isReadable = true := by
  induction items with
  | nil => simp [Datum.areReadable]
  | cons d ds ih => simp [Datum.areReadable, ih]

theorem haveReadable_iff {fields : List (String × Datum)} :
    Datum.haveReadable fields = true ↔ ∀ f ∈ fields, f.2.isReadable = true := by
  induction fields with
  | nil => simp [Datum.haveReadable]
  | cons f fields ih => simp [Datum.haveReadable, ih]

/-- No number without a value stands in the token. -/
def Token.Readable : Token → Prop
  | .scalar d => d.isReadable = true
  | _ => True

theorem readable_number {cs : List Char} (h : number? cs = some d) : d.isReadable = true := by
  unfold number? at h
  extract_lets unsigned whole tail superfluous at h
  split at h
  · cases h
  split at h
  · cases h
    rfl
  split at h
  · cases h
    rfl
  · cases h
    rfl

theorem readable_word {word : List Char} (h : (word, d) ∈ words) : d.isReadable = true := by
  simp only [words, List.mem_cons, List.not_mem_nil, or_false] at h
  rcases h with ⟨⟨⟩⟩ | ⟨⟨⟩⟩ | ⟨⟨⟩⟩ <;> rfl

theorem readable_next {after : List Char} (h : Token.next c rest = some (t, after)) :
    t.Readable := by
  unfold Token.next at h
  split at h
  case h_8 =>
    split at h
    · obtain ⟨d, number, same⟩ := Option.bind_eq_some_iff.1 h
      cases same
      exact readable_number number
    · obtain ⟨⟨word, d⟩, found, same⟩ := Option.bind_eq_some_iff.1 h
      cases same
      exact readable_word (List.mem_of_find?_eq_some found)
  case h_7 =>
    obtain ⟨_, _, same⟩ := Option.bind_eq_some_iff.1 h
    cases same
    trivial
  all_goals
    cases h
    trivial

theorem readable_tokens {ts : List Token} (h : tokens cs = some ts) : ∀ t ∈ ts, t.Readable := by
  fun_induction tokens cs generalizing ts with
  | case1 =>
    cases h
    exact nofun
  | case2 c rest gap ih => exact ih h
  | case3 => cases h
  | case4 c rest gap t after next ih =>
    obtain ⟨others, found, rfl⟩ := Option.map_eq_some_iff.1 h
    exact List.forall_mem_cons.2 ⟨readable_next next, ih found⟩

/-- No number without a value stands in the members that a frame has so far. -/
def Frame.Readable : Frame → Prop
  | .list items => ∀ d ∈ items, d.isReadable = true
  | .record fields _ _ => ∀ f ∈ fields, f.2.isReadable = true

/-- No number without a value was read so far. -/
def State.Readable : State → Prop
  | .value stack | .firstItem stack | .firstKey stack => ∀ f ∈ stack, f.Readable
  | .key fields _ stack | .colon fields _ _ stack =>
    (∀ f ∈ fields, f.2.isReadable = true) ∧ ∀ f ∈ stack, f.Readable
  | .complete d stack => d.isReadable = true ∧ ∀ f ∈ stack, f.Readable

theorem readable_start {st' : State} (token : t.Readable) (frames : ∀ f ∈ stack, f.Readable)
    (h : State.start stack t = some st') : st'.Readable := by
  unfold State.start at h
  split at h
  case h_6 => cases h
  case h_5 =>
    cases h
    exact ⟨token, frames⟩
  case h_1 | h_2 =>
    cases h
    exact frames
  case h_3 | h_4 =>
    cases h
    exact ⟨rfl, frames⟩

theorem readable_name {fields : List (String × Datum)} {sound : Bool} {st' : State}
    (values : ∀ f ∈ fields, f.2.isReadable = true) (frames : ∀ f ∈ stack, f.Readable)
    (h : State.name fields sound stack t = some st') : st'.Readable := by
  unfold State.name at h
  split at h
  · cases h
    exact ⟨values, frames⟩
  · cases h
    exact ⟨values, frames⟩
  · cases h

theorem readable_closedRecord {fields : List (String × Datum)} {sound : Bool}
    (values : ∀ f ∈ fields, f.2.isReadable = true) :
    (closedRecord fields sound).isReadable = true := by
  rw [closedRecord]
  split
  · exact haveReadable_iff.2 fun f hf => values f (List.mem_reverse.1 hf)
  · rfl

theorem readable_items {items : List Datum}
    (h : (State.complete d (.list items :: stack)).Readable) :
    (∀ e ∈ d :: items, e.isReadable = true) ∧ ∀ f ∈ stack, f.Readable := by
  obtain ⟨value, frames⟩ := h
  obtain ⟨items, others⟩ := List.forall_mem_cons.1 frames
  exact ⟨List.forall_mem_cons.2 ⟨value, items⟩, others⟩

theorem readable_fields {fields : List (String × Datum)} {sound : Bool}
    (h : (State.complete d (.record fields sound k :: stack)).Readable) :
    (∀ f ∈ (k, d) :: fields, f.2.isReadable = true) ∧ ∀ f ∈ stack, f.Readable := by
  obtain ⟨value, frames⟩ := h
  obtain ⟨fields, others⟩ := List.forall_mem_cons.1 frames
  exact ⟨List.forall_mem_cons.2 ⟨value, fields⟩, others⟩

theorem readable_step {st' : State} (state : st.Readable) (token : t.Readable)
    (h : st.step t = some st') : st'.Readable := by
  unfold State.step at h
  split at h
  · exact readable_start token state h
  · cases h
    exact ⟨rfl, state⟩
  · have opened : (Frame.list []).Readable := List.forall_mem_nil _
    exact readable_start token (List.forall_mem_cons.2 ⟨opened, state⟩) h
  · exact readable_name state.1 state.2 h
  · cases h
    exact ⟨rfl, state⟩
  · exact readable_name (List.forall_mem_nil _) state h
  · cases h
    exact List.forall_mem_cons.2 state
  · cases h
  · cases h
    exact List.forall_mem_cons.2 (readable_items state)
  · cases h
    obtain ⟨items, frames⟩ := readable_items state
    exact ⟨areReadable_iff.2 fun e he => items e (List.mem_reverse.1 he), frames⟩
  · cases h
    exact readable_fields state
  · cases h
    obtain ⟨fields, frames⟩ := readable_fields state
    exact ⟨readable_closedRecord fields, frames⟩
  · cases h

theorem readable_steps {ts : List Token} (tokens : ∀ t ∈ ts, t.Readable) :
    ∀ {st st' : State}, st.Readable → ts.foldlM State.step st = some st' → st'.Readable := by
  induction ts with
  | nil =>
    rintro st _ state ⟨⟩
    exact state
  | cons t ts ih =>
    intro st st' state h
    obtain ⟨first, others⟩ := List.forall_mem_cons.1 tokens
    rw [List.foldlM_cons] at h
    obtain ⟨next, step, rest⟩ := Option.bind_eq_some_iff.1 h
    exact ih others (readable_step state first step) rest

/-- Nothing that is read from a text holds a number without a value. -/
theorem readable_read {text : String} (h : read text = some d) : d.isReadable = true := by
  obtain ⟨ts, cut, h⟩ := Option.bind_eq_some_iff.1 h
  obtain ⟨st, run, result⟩ := Option.bind_eq_some_iff.1 h
  have start : (State.value []).Readable := List.forall_mem_nil _
  have state := readable_steps (readable_tokens cut) start run
  unfold State.result? at result
  split at result
  · cases result
    exact state.1
  · cases result

end Json

end Introspect
