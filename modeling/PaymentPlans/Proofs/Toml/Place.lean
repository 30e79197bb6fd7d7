/-
# A place in a document

One entry of a table in a list of tables is left open.  The statements of a document do not look
at a string or a moment that stands there: either the document is refused whatever the value is,
or its table has the value at one place and is otherwise the same.
-/
import Mathlib.Tactic.Lemma
import PaymentPlans.Toml.Table

namespace PaymentPlans.Toml

/-! ## An open entry -/

/-- A table in which one entry is open: those before it, which have other names, and those behind
it. -/
structure Cell (name : String) where
  before : Entries
  behind : Entries
  fresh : ∀ entry ∈ before, entry.1 ≠ name

namespace Cell

variable {name other : String}

/-- The table with a value in its open entry. -/
def fill (c : Cell name) (value : Value) : Entries := c.before ++ (name, value) :: c.behind

lemma lookup_fill_self (c : Cell name) (value : Value) : (c.fill value).lookup name = some value := by
  obtain ⟨before, behind, fresh⟩ := c
  induction before with
  | nil => exact List.lookup_cons_self
  | cons entry before ih =>
    rw [List.forall_mem_cons] at fresh
    have hne : (name == entry.1) = false := beq_eq_false_iff_ne.2 (Ne.symm fresh.1)
    rw [fill, List.cons_append, List.lookup_cons, hne]
    exact ih fresh.2

lemma lookup_fill_of_ne (h : other ≠ name) (c : Cell name) (value : Value) :
    (c.fill value).lookup other = (c.before ++ c.behind).lookup other := by
  have hne : (other == name) = false := beq_eq_false_iff_ne.2 h
  rw [fill, List.lookup_append, List.lookup_append, List.lookup_cons, hne]

lemma set_fill_self (c : Cell name) (value new : Value) :
    Entries.set name new (c.fill value) = c.fill new := by
  obtain ⟨before, behind, fresh⟩ := c
  induction before with
  | nil => exact if_pos rfl
  | cons entry before ih =>
    rw [List.forall_mem_cons] at fresh
    rw [fill, List.cons_append, Entries.set, if_neg fresh.1]
    exact congrArg _ (ih fresh.2)

/-- An entry of another name is put where the open entry stays open. -/
lemma exists_set_fill (h : other ≠ name) (c : Cell name) (new : Value) :
    ∃ d : Cell name, ∀ value, Entries.set other new (c.fill value) = d.fill value := by
  obtain ⟨before, behind, fresh⟩ := c
  induction before with
  | nil =>
    refine ⟨⟨[], Entries.set other new behind, nofun⟩, fun value => ?_⟩
    exact if_neg (Ne.symm h)
  | cons entry before ih =>
    rw [List.forall_mem_cons] at fresh
    by_cases hentry : entry.1 = other
    · refine ⟨⟨(entry.1, new) :: before, behind, List.forall_mem_cons.2 fresh⟩, fun value => ?_⟩
      exact if_pos hentry
    · obtain ⟨d, hd⟩ := ih fresh.2
      refine ⟨⟨entry :: d.before, d.behind, List.forall_mem_cons.2 ⟨fresh.1, d.fresh⟩⟩,
        fun value => ?_⟩
      rw [fill, List.cons_append, Entries.set, if_neg hentry]
      exact congrArg _ (hd value)

lemma exists_setLast_fill (h : other ≠ name) (c : Cell name) (new : Value) :
    ∃ d : Cell name, ∀ value, (c.fill value).setLast other new = d.fill value := by
  refine ⟨⟨c.before.filter (·.1 ≠ other), c.behind.filter (·.1 ≠ other) ++ [(other, new)],
    fun entry hentry => c.fresh entry (List.mem_filter.1 hentry).1⟩, fun value => ?_⟩
  have hopen : (decide ((name, value).1 ≠ other)) = true := decide_eq_true (Ne.symm h)
  rw [Entries.setLast, fill, List.filter_append, List.filter_cons, if_pos hopen, fill,
    List.append_assoc, List.cons_append]

end Cell

/-- What is put under a name may be put there as any other value. -/
lemma exists_set_eq_fill (name : String) (entries : Entries) :
    ∃ c : Cell name, ∀ value, entries.set name value = c.fill value := by
  induction entries with
  | nil => exact ⟨⟨[], [], nofun⟩, fun _ => rfl⟩
  | cons entry entries ih =>
    by_cases hentry : entry.1 = name
    · refine ⟨⟨[], entries, nofun⟩, fun value => ?_⟩
      rw [Entries.set, if_pos hentry, hentry]
      rfl
    · obtain ⟨c, hc⟩ := ih
      refine ⟨⟨entry :: c.before, c.behind, List.forall_mem_cons.2 ⟨hentry, c.fresh⟩⟩,
        fun value => ?_⟩
      rw [Entries.set, if_neg hentry, hc value]
      rfl

/-! ## Changes of a table -/

/-- A change of a table. -/
abbrev Change := Origin → Entries → Option (Origin × Entries)

/-- What becomes of the value under a name when the table at the end of a path that starts there
is changed. -/
def reach (byDots : Bool) (change : Change) (path : List String) (found : Option Value) :
    Option Value :=
  let through (o : Origin) (es : Entries) : Option Value :=
    (descend byDots change path o es).map fun (o, es) => .table o es
  match found with
  | none => through (if byDots then .dotted else .implied) []
  | some (.table .closed _) => none
  | some (.table .headed es) => if byDots then none else through .headed es
  | some (.table o es) => through o es
  | some (.tables items) =>
    match items.getLast? with
    | some (.table o es) => (through o es).map fun last => .tables (items.dropLast ++ [last])
    | _ => none
  | some _ => none

/-- What becomes of the value under a name when a list of tables under it grows. -/
def grow : Option Value → Option Value
  | none => some (.tables [.table .headed []])
  | some (.tables items) => some (.tables (items ++ [.table .headed []]))
  | some _ => none

/-- What becomes of the value under a name when a table under it gets its header. -/
def head : Option Value → Option Value
  | none => some (.table .headed [])
  | some (.table .implied es) => some (.table .headed es)
  | some _ => none

/-- A change that only looks at what stands under one name, and puts another value there. -/
def ActsAt (name : String) (react : Origin → Option Value → Option Value)
    (put : Value → Entries → Entries) (change : Change) : Prop :=
  ∀ origin entries, change origin entries =
    (react origin (entries.lookup name)).map fun new => (origin, put new entries)

/-- The way through a table leads through what stands under the first name of the path. -/
lemma actsAt_descend (byDots : Bool) (change : Change) (name : String) (path : List String) :
    ActsAt name (fun _ => reach byDots change path) (Entries.set name)
      (descend byDots change (name :: path)) := by
  intro origin entries
  have hbind : ∀ child : Option Value, (do return (origin, entries.set name (← child))) =
      child.map fun child => (origin, entries.set name child) := by
    rintro (_ | child) <;> rfl
  rw [descend]
  generalize entries.lookup name = found
  unfold reach
  rcases found with _ | value
  · exact hbind _
  cases value with
  | tables items =>
    dsimp only
    generalize items.getLast? = last
    rcases last with _ | last
    · rfl
    cases last with
    | table o es => exact hbind _
    | _ => rfl
  | table o es =>
    cases o with
    | headed => cases byDots with
      | true => rfl
      | false => exact hbind _
    | closed => rfl
    | implied => exact hbind _
    | dotted => exact hbind _
  | _ => rfl

lemma actsAt_putValue (byDots : Bool) (name : String) (value : Value) :
    ActsAt name (fun origin found =>
      if byDots = (origin == .dotted) ∧ found.isNone then some value else none)
      (Entries.set name) (putValue byDots name value) := by
  intro origin entries
  dsimp only [putValue]
  split <;> rfl

lemma actsAt_openTable (name : String) :
    ActsAt name (fun _ => head) (fun new entries => entries.setLast name new) (openTable name) := by
  intro origin entries
  rw [openTable]
  generalize entries.lookup name = found
  rcases found with _ | value
  · rfl
  cases value with
  | table o es => cases o <;> rfl
  | _ => rfl

lemma actsAt_openListed (name : String) :
    ActsAt name (fun _ => grow) (Entries.set name) (openListed name) := by
  intro origin entries
  rw [openListed]
  generalize entries.lookup name = found
  rcases found with _ | value
  · rfl
  cases value <;> rfl

/-- Through a list of tables a path leads to the last of them. -/
lemma reach_tables_table (byDots : Bool) (change : Change) (path : List String)
    (items : List Value) (origin : Origin) (entries : Entries) :
    reach byDots change path (some (.tables (items ++ [.table origin entries]))) =
      (descend byDots change path origin entries).map fun (o, es) =>
        .tables (items ++ [.table o es]) := by
  simp only [reach, List.getLast?_concat, List.dropLast_concat, Option.map_map]
  rfl

/-- The other tables of a list do not matter to a path. -/
lemma exists_reach_tables (byDots : Bool) (change : Change) (path : List String) (last : Value) :
    ∃ turned : Option Value, ∀ items, reach byDots change path (some (.tables (items ++ [last]))) =
      turned.map fun last => .tables (items ++ [last]) := by
  cases last with
  | table o es =>
    refine ⟨(descend byDots change path o es).map fun (o, es) => .table o es, fun items => ?_⟩
    rw [reach_tables_table, Option.map_map]
    rfl
  | _ =>
    refine ⟨none, fun items => ?_⟩
    simp only [reach, List.getLast?_concat, Option.map_none]

/-! ## Changes around an open entry -/

/-- A string or a moment. -/
inductive Value.IsPlain : Value → Prop where
  | text (s : String) : IsPlain (.text s)
  | moment (m : Moment) : IsPlain (.moment m)

/-- A change of tables with an open entry that is the same whatever string or moment stands there:
it is refused, or it gives such a table again. -/
def Steps {ι : Type} (fill : ι → Value → Entries) (change : Change) : Prop :=
  ∀ i origin, (∀ value, value.IsPlain → change origin (fill i value) = none) ∨
    ∃ j, ∀ value, value.IsPlain → change origin (fill i value) = some (origin, fill j value)

section Steps

variable {name field list : String} {react : Origin → Option Value → Option Value}
  {put : Value → Entries → Entries} {change : Change}

/-- A change at another name does not look at the open entry. -/
lemma ActsAt.away (h : ActsAt name react put change) (c : Cell field) (hne : name ≠ field)
    (hput : ∀ new, ∃ d : Cell field, ∀ value, put new (c.fill value) = d.fill value)
    (origin : Origin) :
    (∀ value, change origin (c.fill value) = none) ∨
      ∃ d : Cell field, ∀ value, change origin (c.fill value) = some (origin, d.fill value) := by
  rcases hreact : react origin ((c.before ++ c.behind).lookup name) with _ | new
  · refine .inl fun value => ?_
    rw [h, c.lookup_fill_of_ne hne, hreact, Option.map_none]
  · obtain ⟨d, hd⟩ := hput new
    refine .inr ⟨d, fun value => ?_⟩
    rw [h, c.lookup_fill_of_ne hne, hreact, Option.map_some, hd]

/-- A change is refused where a string or a moment stands, and other entries do not matter. -/
lemma ActsAt.steps_cell (h : ActsAt name react put change)
    (hput : name ≠ field → ∀ (c : Cell field) new,
      ∃ d : Cell field, ∀ value, put new (c.fill value) = d.fill value)
    (hplain : ∀ origin value, value.IsPlain → react origin (some value) = none) :
    Steps (@Cell.fill field) change := by
  intro c origin
  by_cases hne : name = field
  · subst hne
    refine .inl fun value hvalue => ?_
    rw [h, c.lookup_fill_self, hplain origin value hvalue, Option.map_none]
  · exact (h.away c hne (hput hne c) origin).imp (fun hnone value _ => hnone value)
      fun ⟨d, hd⟩ => ⟨d, fun value _ => hd value⟩

lemma steps_cell_putValue (byDots : Bool) (name : String) (value : Value) :
    Steps (@Cell.fill field) (putValue byDots name value) :=
  (actsAt_putValue byDots name value).steps_cell (fun hne c => c.exists_set_fill hne)
    fun _ _ _ => if_neg fun h => nomatch h.2

lemma steps_cell_openTable (name : String) : Steps (@Cell.fill field) (openTable name) :=
  (actsAt_openTable name).steps_cell (fun hne c => c.exists_setLast_fill hne) fun _ _ h => by
    cases h <;> rfl

lemma steps_cell_openListed (name : String) : Steps (@Cell.fill field) (openListed name) :=
  (actsAt_openListed name).steps_cell (fun hne c => c.exists_set_fill hne) fun _ _ h => by
    cases h <;> rfl

lemma Steps.cell_descend (h : Steps (@Cell.fill field) change) (byDots : Bool) :
    ∀ path, Steps (@Cell.fill field) (descend byDots change path)
  | [] => h
  | name :: path => (actsAt_descend byDots change name path).steps_cell
      (fun hne c => c.exists_set_fill hne) fun _ _ h => by cases h <;> rfl

end Steps

/-! ## An open entry in a list of tables -/

/-- A list of tables in one of which an entry is open. -/
structure Listed (field : String) where
  /-- Whether the list is written between brackets; its tables have headers else. -/
  bracketed : Bool
  /-- The tables before that one. -/
  before : List Value
  origin : Origin
  cell : Cell field
  /-- The tables behind it. -/
  behind : List Value

/-- The list with a value in the open entry. -/
def Listed.fill {field : String} (l : Listed field) (value : Value) : Value :=
  let items := l.before ++ .table l.origin (l.cell.fill value) :: l.behind
  if l.bracketed then .list items else .tables items

/-- A table with such a list under a name. -/
structure Place (list field : String) where
  outer : Cell list
  listed : Listed field

/-- The table with a value in the open entry. -/
def Place.fill {list field : String} (p : Place list field) (value : Value) : Entries :=
  p.outer.fill (p.listed.fill value)

section Place

variable {name field list : String} {react : Origin → Option Value → Option Value}
  {put : Value → Entries → Entries} {change : Change}

/-- A change of the list itself is the same whatever string or moment stands in the open entry;
other entries do not matter. -/
lemma ActsAt.steps_place (h : ActsAt name react put change)
    (hput : name ≠ list → ∀ (c : Cell list) new,
      ∃ d : Cell list, ∀ value, put new (c.fill value) = d.fill value)
    (hlisted : ∀ origin (l : Listed field),
      (∀ value, value.IsPlain → react origin (some (l.fill value)) = none) ∨
        put = Entries.set name ∧ ∃ m : Listed field, ∀ value, value.IsPlain →
          react origin (some (l.fill value)) = some (m.fill value)) :
    Steps (@Place.fill list field) change := by
  intro p origin
  by_cases hne : name = list
  · subst hne
    refine (hlisted origin p.listed).imp (fun hnone value hvalue => ?_) fun ⟨hset, m, hm⟩ => ?_
    · rw [h, Place.fill, p.outer.lookup_fill_self, hnone value hvalue, Option.map_none]
    · refine ⟨⟨p.outer, m⟩, fun value hvalue => ?_⟩
      rw [h, Place.fill, p.outer.lookup_fill_self, hm value hvalue, Option.map_some, hset,
        p.outer.set_fill_self]
      rfl
  · exact (h.away p.outer hne (hput hne p.outer) origin).imp
      (fun hnone value _ => hnone (p.listed.fill value))
      fun ⟨d, hd⟩ => ⟨⟨d, p.listed⟩, fun value _ => hd (p.listed.fill value)⟩

lemma steps_place_putValue (byDots : Bool) (name : String) (value : Value) :
    Steps (@Place.fill list field) (putValue byDots name value) :=
  (actsAt_putValue byDots name value).steps_place (fun hne c => c.exists_set_fill hne)
    fun _ _ => .inl fun _ _ => if_neg fun h => nomatch h.2

lemma steps_place_openTable (name : String) : Steps (@Place.fill list field) (openTable name) :=
  (actsAt_openTable name).steps_place (fun hne c => c.exists_setLast_fill hne)
    fun _ l => .inl fun _ _ => by
      obtain ⟨_ | _, before, origin, cell, behind⟩ := l <;> rfl

lemma steps_place_openListed (name : String) :
    Steps (@Place.fill list field) (openListed name) := by
  refine (actsAt_openListed name).steps_place (fun hne c => c.exists_set_fill hne) fun _ l => ?_
  obtain ⟨_ | _, before, origin, cell, behind⟩ := l
  · refine .inr ⟨rfl, ⟨false, before, origin, cell, behind ++ [.table .headed []]⟩, fun _ _ => ?_⟩
    simp only [Listed.fill, Bool.false_eq_true, if_false, grow, List.append_assoc, List.cons_append]
  · exact .inl fun _ _ => rfl

/-- A path through the list leads to the last of its tables. -/
lemma Steps.place_descend (hcell : Steps (@Cell.fill field) change)
    (hplace : Steps (@Place.fill list field) change) (byDots : Bool) :
    ∀ path, Steps (@Place.fill list field) (descend byDots change path)
  | [] => hplace
  | name :: path => by
    refine (actsAt_descend byDots change name path).steps_place (fun hne c => c.exists_set_fill hne)
      fun _ l => ?_
    obtain ⟨_ | _, before, origin, cell, behind⟩ := l
    -- No path leads through a list between brackets.
    case true => exact .inl fun _ _ => rfl
    have hfill : ∀ (cell : Cell field) (behind : List Value) (value : Value),
        Listed.fill ⟨false, before, origin, cell, behind⟩ value =
          .tables (before ++ .table origin (cell.fill value) :: behind) := fun _ _ _ => rfl
    rcases behind.eq_nil_or_concat with rfl | ⟨behind', last, hbehind⟩
    · -- The open entry is in the table that the path leads through.
      refine (hcell.cell_descend byDots path cell origin).imp (fun hnone value hvalue => ?_)
        fun ⟨d, hd⟩ => ⟨rfl, ⟨false, before, origin, d, []⟩, fun value hvalue => ?_⟩
      · rw [hfill, reach_tables_table, hnone value hvalue, Option.map_none]
      · rw [hfill, reach_tables_table, hd value hvalue, Option.map_some]
        rfl
    · -- It is in a table before that one.
      rw [List.concat_eq_append] at hbehind
      obtain ⟨turned, hturned⟩ := exists_reach_tables byDots change path last
      have hlast : ∀ value last, Listed.fill ⟨false, before, origin, cell, behind' ++ [last]⟩ value =
          .tables ((before ++ .table origin (cell.fill value) :: behind') ++ [last]) := by
        intro value last
        rw [hfill, List.append_assoc, List.cons_append]
      rcases turned with _ | new
      · refine .inl fun value _ => ?_
        rw [hbehind, hlast, hturned, Option.map_none]
      · refine .inr ⟨rfl, ⟨false, before, origin, cell, behind' ++ [new]⟩, fun value _ => ?_⟩
        rw [hbehind, hlast, hturned, Option.map_some, hlast]

lemma steps_place_putEntry (key : Key) (value : Value) :
    Steps (@Place.fill list field) (putEntry key value) :=
  (steps_cell_putValue _ _ _).place_descend (steps_place_putValue _ _ _) _ _

end Place

/-! ## Statements around an open entry -/

variable {list field : String}

/-- A statement is refused whatever string or moment stands in the open entry, or it leaves the
entry open. -/
lemma add_place (p : Place list field) (current : List String) (statement : Statement) :
    (∀ value, value.IsPlain → Draft.add ⟨p.fill value, current⟩ statement = none) ∨
      ∃ (q : Place list field) (current' : List String), ∀ value, value.IsPlain →
        Draft.add ⟨p.fill value, current⟩ statement = some ⟨q.fill value, current'⟩ := by
  -- Each statement changes the whole table once, and may change where entries go.
  have hstep : ∀ {change : Change} (current' : List String),
      Steps (@Place.fill list field) change →
      (∀ value, value.IsPlain → (change .headed (p.fill value)).map (fun (_, entries) =>
        (⟨entries, current'⟩ : Draft)) = none) ∨
      ∃ q : Place list field, ∀ value, value.IsPlain →
        (change .headed (p.fill value)).map (fun (_, entries) => (⟨entries, current'⟩ : Draft)) =
          some ⟨q.fill value, current'⟩ := by
    intro change current' hchange
    refine (hchange p .headed).imp (fun hnone value hvalue => ?_)
      fun ⟨q, hq⟩ => ⟨q, fun value hvalue => ?_⟩
    · rw [hnone value hvalue, Option.map_none]
    · rw [hq value hvalue, Option.map_some]
  cases statement with
  | entry key value =>
    refine (hstep current (Steps.place_descend ?_ (steps_place_putEntry key value) false current)).imp
      id fun ⟨q, hq⟩ => ⟨q, _, hq⟩
    exact (steps_cell_putValue _ _ _).cell_descend _ _
  | header key =>
    exact (hstep _ (Steps.place_descend (steps_cell_openTable _) (steps_place_openTable _) false
      key.path)).imp id fun ⟨q, hq⟩ => ⟨q, _, hq⟩
  | listHeader key =>
    exact (hstep _ (Steps.place_descend (steps_cell_openListed _) (steps_place_openListed _) false
      key.path)).imp id fun ⟨q, hq⟩ => ⟨q, _, hq⟩

/-- Statements behind an open entry leave it open, or are refused whatever stands there. -/
lemma foldlM_add_place (statements : List Statement) (p : Place list field)
    (current : List String) :
    (∀ value, value.IsPlain → statements.foldlM Draft.add ⟨p.fill value, current⟩ = none) ∨
      ∃ (q : Place list field) (current' : List String), ∀ value, value.IsPlain →
        statements.foldlM Draft.add ⟨p.fill value, current⟩ = some ⟨q.fill value, current'⟩ := by
  induction statements generalizing p current with
  | nil => exact .inr ⟨p, current, fun _ _ => rfl⟩
  | cons statement statements ih =>
    rcases add_place p current statement with hnone | ⟨q, current', hadd⟩
    · refine .inl fun value hvalue => ?_
      rw [List.foldlM_cons, hnone value hvalue]
      rfl
    · refine (ih q current').imp (fun hnone value hvalue => ?_)
        fun ⟨r, current'', hr⟩ => ⟨r, current'', fun value hvalue => ?_⟩
      · rw [List.foldlM_cons, hadd value hvalue]
        exact hnone value hvalue
      · rw [List.foldlM_cons, hadd value hvalue]
        exact hr value hvalue

/-- Whether a statement is an entry. -/
def Statement.IsEntry : Statement → Prop
  | entry _ _ => True
  | _ => False

instance : DecidablePred Statement.IsEntry
  | .entry _ _ => isTrue trivial
  | .header _ => isFalse id
  | .listHeader _ => isFalse id

/-- One more table of a list comes last under its name. -/
lemma openListed_eq (list : String) (origin : Origin) (entries : Entries) :
    openListed list origin entries = none ∨ ∃ (c : Cell list) (items : List Value),
      openListed list origin entries =
        some (origin, c.fill (.tables (items ++ [.table .headed []]))) := by
  obtain ⟨c, hc⟩ := exists_set_eq_fill list entries
  rw [actsAt_openListed]
  generalize entries.lookup list = found
  rcases found with _ | value
  · exact .inr ⟨c, [], congrArg (fun es => some (origin, es)) (hc _)⟩
  cases value with
  | tables items => exact .inr ⟨c, items, congrArg (fun es => some (origin, es)) (hc _)⟩
  | _ => exact .inl rfl

section Entry

variable (c : Cell list) (items : List Value) (origin : Origin) (entries : Entries)

/-- An entry behind the header of a listed table goes into that table. -/
lemma add_entry (key : Key) (value : Value) :
    Draft.add ⟨c.fill (.tables (items ++ [.table origin entries])), [list]⟩ (.entry key value) =
      (putEntry key value origin entries).map fun (o, es) =>
        ⟨c.fill (.tables (items ++ [.table o es])), [list]⟩ := by
  rw [Draft.add, actsAt_descend, c.lookup_fill_self]
  simp only [reach_tables_table, descend]
  rcases putEntry key value origin entries with _ | ⟨o, es⟩
  · rfl
  · simp only [Option.map_some, c.set_fill_self]

/-- The value of an entry does not matter. -/
lemma add_open_entry (field : String) :
    (∀ value, Draft.add ⟨c.fill (.tables (items ++ [.table origin entries])), [list]⟩
      (.entry ⟨[], field⟩ value) = none) ∨
    ∃ p : Place list field, ∀ value,
      Draft.add ⟨c.fill (.tables (items ++ [.table origin entries])), [list]⟩
        (.entry ⟨[], field⟩ value) = some ⟨p.fill value, [list]⟩ := by
  have hput : ∀ value, putEntry ⟨[], field⟩ value origin entries =
      putValue false field value origin entries := fun _ => rfl
  obtain ⟨d, hd⟩ := exists_set_eq_fill field entries
  by_cases hfree : false = (origin == .dotted) ∧ (entries.lookup field).isNone
  · refine .inr ⟨⟨c, false, items, origin, d, []⟩, fun value => ?_⟩
    rw [add_entry, hput, putValue, if_pos hfree, hd]
    rfl
  · refine .inl fun value => ?_
    rw [add_entry, hput, putValue, if_neg hfree]
    rfl

/-- More entries go into the same table. -/
lemma foldlM_add_entries {statements : List Statement} (h : ∀ s ∈ statements, s.IsEntry)
    {draft : Draft} (hdraft : statements.foldlM Draft.add
      ⟨c.fill (.tables (items ++ [.table origin entries])), [list]⟩ = some draft) :
    ∃ origin entries, draft = ⟨c.fill (.tables (items ++ [.table origin entries])), [list]⟩ := by
  induction statements generalizing origin entries with
  | nil => exact ⟨origin, entries, (Option.some.inj hdraft).symm⟩
  | cons statement statements ih =>
    rw [List.forall_mem_cons] at h
    cases statement with
    | entry key value =>
      rw [List.foldlM_cons, add_entry] at hdraft
      rcases hput : putEntry key value origin entries with _ | ⟨o, es⟩
      · rw [hput] at hdraft
        exact nomatch hdraft
      · rw [hput] at hdraft
        exact ih o es h.2 hdraft
    | header _ => exact h.1.elim
    | listHeader _ => exact h.1.elim

end Entry

/-! ## Documents with an open entry -/

/-- **A value behind the header of a listed table is left open**: whatever string or moment it is,
the document is refused, or it is the same table but for this value. -/
lemma document?_open (before : List Statement) {entries : List Statement}
    (hentries : ∀ s ∈ entries, s.IsEntry) (behind : List Statement) (list field : String) :
    (∀ value, value.IsPlain → document? (before ++ .listHeader ⟨[], list⟩ :: (entries ++
      .entry ⟨[], field⟩ value :: behind)) = none) ∨
    ∃ p : Place list field, ∀ value, value.IsPlain → document? (before ++ .listHeader ⟨[], list⟩ ::
      (entries ++ .entry ⟨[], field⟩ value :: behind)) = some (p.fill value) := by
  simp only [document?, List.foldlM_append, List.foldlM_cons]
  rcases before.foldlM Draft.add {} with _ | draft
  · exact .inl fun _ _ => rfl
  have hheader : draft.add (.listHeader ⟨[], list⟩) =
      (openListed list .headed draft.entries).map fun (_, entries) => ⟨entries, [list]⟩ := rfl
  rcases openListed_eq list .headed draft.entries with hnone | ⟨c, items, hopen⟩
  · refine .inl fun _ _ => ?_
    simp only [Option.bind_eq_bind, Option.bind_some, hheader, hnone]
    rfl
  simp only [Option.bind_eq_bind, Option.bind_some, hheader, hopen, Option.map_some]
  rcases hfold : entries.foldlM Draft.add
    ⟨c.fill (.tables (items ++ [.table .headed []])), [list]⟩ with _ | filled
  · simp only [hfold]
    exact .inl fun _ _ => rfl
  obtain ⟨origin, es, rfl⟩ := foldlM_add_entries c items .headed [] hentries hfold
  simp only [hfold, Option.bind_some]
  rcases add_open_entry c items origin es field with hnone | ⟨p, hp⟩
  · refine .inl fun value _ => ?_
    rw [hnone value]
    rfl
  refine (foldlM_add_place behind p [list]).imp (fun hnone value hvalue => ?_)
    fun ⟨q, _, hq⟩ => ⟨q, fun value hvalue => ?_⟩
  · rw [hp, Option.bind_some, hnone value hvalue]
    rfl
  · rw [hp, Option.bind_some, hq value hvalue]
    rfl

/-- Puts a member into a table between braces. -/
def putMember (table : Origin × Entries) (member : Key × Value) : Option (Origin × Entries) :=
  putEntry member.1 member.2 table.1 table.2

lemma inlineTable?_eq (members : List (Key × Value)) :
    inlineTable? members = (members.foldlM putMember (.headed, [])).map Prod.snd := rfl

/-- Members behind an open entry leave it open, or are refused whatever stands there. -/
lemma foldlM_putMember_cell (members : List (Key × Value)) (c : Cell field) (origin : Origin) :
    (∀ value, value.IsPlain → members.foldlM putMember (origin, c.fill value) = none) ∨
      ∃ d : Cell field, ∀ value, value.IsPlain →
        members.foldlM putMember (origin, c.fill value) = some (origin, d.fill value) := by
  induction members generalizing c with
  | nil => exact .inr ⟨c, fun _ _ => rfl⟩
  | cons member members ih =>
    have hmember : Steps (@Cell.fill field) (putEntry member.1 member.2) :=
      (steps_cell_putValue _ _ _).cell_descend _ _
    rcases hmember c origin with hnone | ⟨d, hd⟩
    · refine .inl fun value hvalue => ?_
      rw [List.foldlM_cons, putMember, hnone value hvalue]
      rfl
    · refine (ih d).imp (fun hnone value hvalue => ?_) fun ⟨e, he⟩ => ⟨e, fun value hvalue => ?_⟩
      · rw [List.foldlM_cons, putMember, hd value hvalue]
        exact hnone value hvalue
      · rw [List.foldlM_cons, putMember, hd value hvalue]
        exact he value hvalue

/-- A value between the braces of a table is left open. -/
lemma inlineTable?_open (before behind : List (Key × Value)) (field : String) :
    (∀ value, value.IsPlain →
      inlineTable? (before ++ (⟨[], field⟩, value) :: behind) = none) ∨
    ∃ c : Cell field, ∀ value, value.IsPlain →
      inlineTable? (before ++ (⟨[], field⟩, value) :: behind) = some (c.fill value) := by
  have hput : ∀ value origin entries, putMember (origin, entries) (⟨[], field⟩, value) =
      putValue false field value origin entries := fun _ _ _ => rfl
  simp only [inlineTable?_eq, List.foldlM_append, List.foldlM_cons]
  rcases before.foldlM putMember (.headed, []) with _ | ⟨origin, entries⟩
  · exact .inl fun _ _ => rfl
  simp only [Option.bind_eq_bind, Option.bind_some, hput, putValue]
  by_cases hfree : false = (origin == .dotted) ∧ (entries.lookup field).isNone
  · obtain ⟨c, hc⟩ := exists_set_eq_fill field entries
    simp only [if_pos hfree, Option.bind_some, hc]
    refine (foldlM_putMember_cell behind c origin).imp (fun hnone value hvalue => ?_)
      fun ⟨d, hd⟩ => ⟨d, fun value hvalue => ?_⟩
    · rw [hnone value hvalue, Option.map_none]
    · rw [hd value hvalue, Option.map_some]
  · simp only [if_neg hfree]
    exact .inl fun _ _ => rfl

/-- Entries in front of all headers go into the whole table. -/
lemma current_foldlM_add {statements : List Statement} (h : ∀ s ∈ statements, s.IsEntry)
    {draft filled : Draft} (hfold : statements.foldlM Draft.add draft = some filled) :
    filled.current = draft.current := by
  induction statements generalizing draft with
  | nil => rw [Option.some.inj hfold]
  | cons statement statements ih =>
    rw [List.forall_mem_cons] at h
    rw [List.foldlM_cons] at hfold
    obtain ⟨next, hnext, hfold⟩ := Option.bind_eq_some_iff.1 hfold
    rw [ih h.2 hfold]
    cases statement with
    | entry key value =>
      obtain ⟨_, -, rfl⟩ := Option.map_eq_some_iff.1 hnext
      rfl
    | header _ => exact h.1.elim
    | listHeader _ => exact h.1.elim

/-- **A value of one table in a list between brackets is left open.** -/
lemma document?_open_list {before : List Statement} (hbefore : ∀ s ∈ before, s.IsEntry)
    (first : List Value) (origin : Origin) {field : String} (c : Cell field) (others : List Value)
    (behind : List Statement) (list : String) :
    (∀ value, value.IsPlain → document? (before ++ .entry ⟨[], list⟩
      (.list (first ++ .table origin (c.fill value) :: others)) :: behind) = none) ∨
    ∃ p : Place list field, ∀ value, value.IsPlain → document? (before ++ .entry ⟨[], list⟩
      (.list (first ++ .table origin (c.fill value) :: others)) :: behind) = some (p.fill value) := by
  simp only [document?, List.foldlM_append, List.foldlM_cons]
  rcases hfold : before.foldlM Draft.add {} with _ | ⟨entries, current⟩
  · exact .inl fun _ _ => rfl
  obtain rfl : current = [] := current_foldlM_add hbefore hfold
  have hadd : ∀ v, Draft.add ⟨entries, []⟩ (.entry ⟨[], list⟩ v) =
      (putValue false list v .headed entries).map fun (_, entries) => ⟨entries, []⟩ := fun _ => rfl
  simp only [Option.bind_eq_bind, Option.bind_some, hadd, putValue]
  by_cases hfree : false = (Origin.headed == .dotted) ∧ (entries.lookup list).isNone
  · obtain ⟨outer, houter⟩ := exists_set_eq_fill list entries
    let p : Place list field := ⟨outer, true, first, origin, c, others⟩
    have hplace : ∀ value, outer.fill (.list (first ++ .table origin (c.fill value) :: others)) =
        p.fill value := fun _ => rfl
    simp only [if_pos hfree, Option.map_some, Option.bind_some, houter, hplace]
    refine (foldlM_add_place behind p []).imp (fun hnone value hvalue => ?_)
      fun ⟨q, _, hq⟩ => ⟨q, fun value hvalue => ?_⟩
    · rw [hnone value hvalue, Option.map_none]
    · rw [hq value hvalue, Option.map_some]
  · simp only [if_neg hfree]
    exact .inl fun _ _ => rfl

end PaymentPlans.Toml
