import Mathlib.Data.List.Basic

/-!
# Delimited text

Tables as text: a separator between fields, a line end between records, and quotes around the
fields in which a reserved symbol stands, with the quotes inside doubled.  The alphabet is
arbitrary.

The reader goes through the text symbol by symbol and is strict: a reserved symbol in a field
without quotes, or anything but a delimiter behind a closing quote, is an error.  What it has
read so far is a `Reading`, and every part of the writer has its run lemma; together they give
the round trip `read_write`.
-/

namespace Foundations

namespace Delimited

variable {α : Type*}

/-- The reserved symbols. -/
structure Dialect (α : Type*) where
  quote : α
  separator : α
  lineEnd : α
  /-- Further symbols that only a quoted field may hold. -/
  others : List α
  quote_ne_separator : quote ≠ separator
  quote_ne_lineEnd : quote ≠ lineEnd
  separator_ne_lineEnd : separator ≠ lineEnd

/-- A record is a list of fields. -/
abbrev Record (α : Type*) := List (List α)

namespace Dialect

variable (d : Dialect α)

/-- The symbols that ask for quotes. -/
def reserved : List α := d.quote :: d.separator :: d.lineEnd :: d.others

variable {d}

theorem separator_mem_reserved : d.separator ∈ d.reserved :=
  List.mem_cons_of_mem _ List.mem_cons_self

theorem lineEnd_mem_reserved : d.lineEnd ∈ d.reserved :=
  List.mem_cons_of_mem _ (List.mem_cons_of_mem _ List.mem_cons_self)

/-! ## The writer -/

variable (d) [DecidableEq α]

/-- A text with its quotes doubled. -/
def double (text : List α) : List α :=
  text.flatMap fun c => if c = d.quote then [d.quote, d.quote] else [c]

/-- A field as text. -/
def writeField (field : List α) : List α :=
  if ∃ c ∈ field, c ∈ d.reserved then [d.quote] ++ d.double field ++ [d.quote] else field

/-- A record as text. -/
def writeRecord (record : Record α) : List α :=
  [d.separator].intercalate (record.map d.writeField)

/-- Records as text. -/
def write (records : List (Record α)) : List α :=
  [d.lineEnd].intercalate (records.map d.writeRecord)

end Dialect

/-! ## The reader -/

/-- Where the reader stands in a field, with what it has read of it. -/
inductive Place (α : Type*)
  | start
  | plain (field : List α)
  | quoted (field : List α)
  | quoteSeen (field : List α)

/-- The field, when it may end here. -/
def Place.ended : Place α → Option (List α)
  | .start => some []
  | .plain field => some field
  | .quoted _ => none
  | .quoteSeen field => some field

/-- What the reader has read. -/
structure Reading (α : Type*) where
  place : Place α
  fields : List (List α)
  records : List (Record α)

namespace Reading

variable (d : Dialect α) (reading : Reading α)

/-- The reader at the start of a record. -/
def atRecord (records : List (Record α)) : Reading α where
  place := .start
  fields := []
  records := records

/-- The record that is open, when it may end here. -/
def openRecord : Option (Record α) := reading.place.ended.map fun field => reading.fields ++ [field]

/-- The end of the text; no record follows a last line end. -/
def finish : Option (List (Record α)) :=
  match reading.place, reading.fields with
  | .start, [] => some reading.records
  | _, _ => reading.openRecord.map fun record => reading.records ++ [record]

variable {reading} in
/-- The end of the text ends the open record, unless nothing stands on the last line. -/
theorem finish_of_openRecord {record : Record α} (hopen : reading.openRecord = some record)
    (hne : record ≠ [[]]) : reading.finish = some (reading.records ++ [record]) := by
  unfold finish
  split
  · rename_i hplace hfields
    rw [openRecord, hplace, hfields] at hopen
    exact absurd (Option.some.inj hopen).symm hne
  · rw [hopen]
    rfl

variable [DecidableEq α]

/-- A symbol that must be a delimiter. -/
def delimit (field : List α) (c : α) : Option (Reading α) :=
  if c = d.separator then
    some { reading with place := .start, fields := reading.fields ++ [field] }
  else if c = d.lineEnd then some (atRecord (reading.records ++ [reading.fields ++ [field]]))
  else none

/-- A symbol in a field without quotes. -/
def plainStep (field : List α) (c : α) : Option (Reading α) :=
  if c ∈ d.reserved then reading.delimit d field c
  else some { reading with place := .plain (field ++ [c]) }

/-- The next symbol. -/
def step (c : α) : Option (Reading α) :=
  match reading.place with
  | .start =>
      if c = d.quote then some { reading with place := .quoted [] } else reading.plainStep d [] c
  | .plain field => reading.plainStep d field c
  | .quoted field =>
      if c = d.quote then some { reading with place := .quoteSeen field }
      else some { reading with place := .quoted (field ++ [c]) }
  | .quoteSeen field =>
      if c = d.quote then some { reading with place := .quoted (field ++ [c]) }
      else reading.delimit d field c

/-- A text, from some point of the reading on. -/
def run (text : List α) : Option (Reading α) :=
  text.foldlM (fun reading c => reading.step d c) reading

end Reading

/-- The records of a text. -/
def Dialect.read [DecidableEq α] (d : Dialect α) (text : List α) : Option (List (Record α)) :=
  ((Reading.atRecord []).run d text).bind Reading.finish

/-! ## Runs -/

namespace Reading

variable [DecidableEq α] {d : Dialect α} {reading : Reading α}

@[simp] theorem run_nil : reading.run d [] = some reading := rfl

@[simp] theorem run_cons (c : α) (text : List α) :
    reading.run d (c :: text) = (reading.step d c).bind fun next => next.run d text :=
  List.foldlM_cons ..

theorem run_append (text text' : List α) :
    reading.run d (text ++ text') = (reading.run d text).bind fun next => next.run d text' :=
  List.foldlM_append ..

/-- A delimiter that comes where the field may end. -/
theorem step_of_ended {field : List α} (hended : reading.place.ended = some field) {c : α}
    (hc : c = d.separator ∨ c = d.lineEnd) : reading.step d c = reading.delimit d field c := by
  have hquote : c ≠ d.quote := by
    rcases hc with rfl | rfl
    · exact d.quote_ne_separator.symm
    · exact d.quote_ne_lineEnd.symm
  have hreserved : c ∈ d.reserved := by
    rcases hc with rfl | rfl
    · exact d.separator_mem_reserved
    · exact d.lineEnd_mem_reserved
  unfold step
  cases hplace : reading.place with
  | start =>
      rw [hplace] at hended
      obtain rfl := Option.some.inj hended
      dsimp only
      rw [if_neg hquote, plainStep, if_pos hreserved]
  | plain read =>
      rw [hplace] at hended
      obtain rfl := Option.some.inj hended
      dsimp only
      rw [plainStep, if_pos hreserved]
  | quoted read =>
      rw [hplace] at hended
      cases hended
  | quoteSeen read =>
      rw [hplace] at hended
      obtain rfl := Option.some.inj hended
      dsimp only
      rw [if_neg hquote]

theorem step_separator {record : Record α} (hopen : reading.openRecord = some record) :
    reading.step d d.separator = some { reading with place := .start, fields := record } := by
  obtain ⟨field, hended, rfl⟩ := Option.map_eq_some_iff.mp hopen
  rw [step_of_ended hended (Or.inl rfl), delimit, if_pos rfl]

theorem step_lineEnd {record : Record α} (hopen : reading.openRecord = some record) :
    reading.step d d.lineEnd = some (atRecord (reading.records ++ [record])) := by
  obtain ⟨field, hended, rfl⟩ := Option.map_eq_some_iff.mp hopen
  rw [step_of_ended hended (Or.inr rfl), delimit, if_neg d.separator_ne_lineEnd.symm, if_pos rfl]

section

variable {fields : List (List α)} {done : List (Record α)} {field : List α} {c : α}

theorem step_start_quote :
    step d ⟨.start, fields, done⟩ d.quote = some ⟨.quoted [], fields, done⟩ :=
  if_pos rfl

theorem step_quoted_quote :
    step d ⟨.quoted field, fields, done⟩ d.quote = some ⟨.quoteSeen field, fields, done⟩ :=
  if_pos rfl

theorem step_quoteSeen_quote :
    step d ⟨.quoteSeen field, fields, done⟩ d.quote =
      some ⟨.quoted (field ++ [d.quote]), fields, done⟩ :=
  if_pos rfl

theorem step_quoted (hc : c ≠ d.quote) :
    step d ⟨.quoted field, fields, done⟩ c = some ⟨.quoted (field ++ [c]), fields, done⟩ :=
  if_neg hc

theorem step_plain (hc : c ∉ d.reserved) :
    step d ⟨.plain field, fields, done⟩ c = some ⟨.plain (field ++ [c]), fields, done⟩ :=
  if_neg hc

theorem step_start (hc : c ∉ d.reserved) :
    step d ⟨.start, fields, done⟩ c = some ⟨.plain [c], fields, done⟩ := by
  have hquote : c ≠ d.quote := fun h => hc (h ▸ List.mem_cons_self)
  exact (if_neg hquote).trans (if_neg hc)

/-- Text without reserved symbols is read as it stands. -/
theorem run_plain (field : List α) {text : List α} (htext : ∀ c ∈ text, c ∉ d.reserved) :
    run d ⟨.plain field, fields, done⟩ text = some ⟨.plain (field ++ text), fields, done⟩ := by
  induction text generalizing field with
  | nil => rw [run_nil, List.append_nil]
  | cons c text ih =>
      rw [run_cons, step_plain (htext c List.mem_cons_self), Option.bind_some,
        ih (field ++ [c]) fun c' hc' => htext c' (List.mem_cons_of_mem c hc'), List.append_assoc,
        List.singleton_append]

/-- Within quotes the doubled text is read as the text. -/
theorem run_double (field text : List α) :
    run d ⟨.quoted field, fields, done⟩ (d.double text) =
      some ⟨.quoted (field ++ text), fields, done⟩ := by
  induction text generalizing field with
  | nil => rw [Dialect.double, List.flatMap_nil, run_nil, List.append_nil]
  | cons c text ih =>
      have hrest := ih (field ++ [c])
      rw [List.append_assoc, List.singleton_append, Dialect.double] at hrest
      rw [Dialect.double, List.flatMap_cons, run_append]
      split_ifs with hquote
      · obtain rfl := hquote
        rw [run_cons, step_quoted_quote, Option.bind_some, run_cons, step_quoteSeen_quote,
          Option.bind_some, run_nil, Option.bind_some]
        exact hrest
      · rw [run_cons, step_quoted hquote, Option.bind_some, run_nil, Option.bind_some]
        exact hrest

/-- A written field is read up to a place where it may end. -/
theorem run_writeField (field : List α) :
    ∃ place : Place α, place.ended = some field ∧
      run d ⟨.start, fields, done⟩ (d.writeField field) = some ⟨place, fields, done⟩ := by
  rw [Dialect.writeField]
  split_ifs with hreserved
  · refine ⟨.quoteSeen field, rfl, ?_⟩
    rw [List.append_assoc, List.singleton_append, run_cons, step_start_quote, Option.bind_some,
      run_append, run_double, List.nil_append, Option.bind_some, run_cons, step_quoted_quote]
    rfl
  · push Not at hreserved
    cases field with
    | nil => exact ⟨.start, rfl, rfl⟩
    | cons c text =>
        refine ⟨.plain (c :: text), rfl, ?_⟩
        rw [run_cons, step_start (hreserved c List.mem_cons_self), Option.bind_some]
        exact run_plain [c] fun c' hc' => hreserved c' (List.mem_cons_of_mem c hc')

end

/-- A written record is read up to where it may end. -/
theorem run_writeRecord (fields : List (List α)) (done : List (Record α)) {record : Record α}
    (hne : record ≠ []) :
    ∃ next : Reading α, run d ⟨.start, fields, done⟩ (d.writeRecord record) = some next ∧
      next.openRecord = some (fields ++ record) ∧ next.records = done := by
  induction record generalizing fields with
  | nil => exact absurd rfl hne
  | cons field record ih =>
      obtain ⟨place, hended, hrun⟩ := run_writeField (d := d) field
      have hopen : openRecord ⟨place, fields, done⟩ = some (fields ++ [field]) := by
        rw [openRecord, hended]
        rfl
      cases record with
      | nil =>
          refine ⟨⟨place, fields, done⟩, ?_, hopen, rfl⟩
          rw [Dialect.writeRecord, List.map_singleton, List.intercalate_singleton, hrun]
      | cons next record =>
          obtain ⟨last, hlast, hrecord, hdone⟩ :=
            ih (fields ++ [field]) (List.cons_ne_nil next record)
          refine ⟨last, ?_, ?_, hdone⟩
          · rw [Dialect.writeRecord, List.map_cons, List.map_cons, List.intercalate_cons_cons,
              List.append_assoc, run_append, hrun, Option.bind_some, List.singleton_append,
              run_cons, step_separator hopen, Option.bind_some, ← List.map_cons]
            exact hlast
          · rw [hrecord, List.append_assoc, List.singleton_append]

/-- Written records are read up to where the last one may end. -/
theorem run_write (done : List (Record α)) {records : List (Record α)} (hne : records ≠ [])
    (hrecords : ∀ record ∈ records, record ≠ []) :
    ∃ (next : Reading α) (last : Record α), (atRecord done).run d (d.write records) = some next ∧
      next.openRecord = some last ∧ next.records ++ [last] = done ++ records ∧
      last ∈ records.getLast? := by
  induction records generalizing done with
  | nil => exact absurd rfl hne
  | cons record records ih =>
      obtain ⟨next, hrun, hopen, hdone⟩ :=
        run_writeRecord (d := d) [] done (hrecords record List.mem_cons_self)
      rw [← atRecord] at hrun
      rw [List.nil_append] at hopen
      cases records with
      | nil =>
          refine ⟨next, record, ?_, hopen, ?_, rfl⟩
          · rw [Dialect.write, List.map_singleton, List.intercalate_singleton, hrun]
          · rw [hdone]
      | cons record' records =>
          obtain ⟨final, last, hrest, hlast, hall, hmem⟩ := ih (done ++ [record])
            (List.cons_ne_nil record' records)
            fun r hr => hrecords r (List.mem_cons_of_mem record hr)
          refine ⟨final, last, ?_, hlast, ?_, hmem⟩
          · rw [Dialect.write, List.map_cons, List.map_cons, List.intercalate_cons_cons,
              List.append_assoc, run_append, hrun, Option.bind_some, List.singleton_append,
              run_cons, step_lineEnd hopen, Option.bind_some, ← List.map_cons, hdone]
            exact hrest
          · rw [hall, List.append_assoc, List.singleton_append]

end Reading

/-! ## Round trips -/

/-- An empty part behind the others adds a separator. -/
theorem intercalate_append_nil (separator : α) {parts : List (List α)} (hne : parts ≠ []) :
    [separator].intercalate (parts ++ [[]]) = [separator].intercalate parts ++ [separator] := by
  induction parts with
  | nil => exact absurd rfl hne
  | cons part parts ih =>
      cases parts with
      | nil =>
          rw [List.singleton_append, List.intercalate_cons_cons, List.intercalate_singleton,
            List.intercalate_singleton, List.append_nil]
      | cons next parts =>
          rw [List.cons_append, List.cons_append, List.intercalate_cons_cons,
            List.intercalate_cons_cons, ← List.cons_append, ih (List.cons_ne_nil next parts)]
          simp only [List.append_assoc]

namespace Dialect

variable [DecidableEq α] (d : Dialect α) {records : List (Record α)}

/-- Records that do not end with an empty line are read back. -/
theorem read_write (hrecords : ∀ record ∈ records, record ≠ [])
    (hlast : [[]] ∉ records.getLast?) : d.read (d.write records) = some records := by
  by_cases hne : records = []
  · rw [hne]
    rfl
  · obtain ⟨next, last, hrun, hopen, hall, hmem⟩ := Reading.run_write [] hne hrecords
    have hempty : last ≠ [[]] := fun h => hlast (h ▸ hmem)
    rw [read, hrun, Option.bind_some, Reading.finish_of_openRecord hopen hempty, hall]
    rfl

/-- A last empty line is a line end and adds no record. -/
theorem read_write_blank_end (hne : records ≠ []) (hrecords : ∀ record ∈ records, record ≠ []) :
    d.read (d.write (records ++ [[[]]])) = some records := by
  have hwrite : d.write (records ++ [[[]]]) = d.write records ++ [d.lineEnd] := by
    rw [write, write, List.map_append, List.map_singleton]
    exact intercalate_append_nil d.lineEnd (List.map_eq_nil_iff.not.mpr hne)
  obtain ⟨next, last, hrun, hopen, hall, -⟩ := Reading.run_write [] hne hrecords
  rw [hwrite, read, Reading.run_append, hrun, Option.bind_some, Reading.run_cons,
    Reading.step_lineEnd hopen, hall]
  rfl

end Dialect

end Delimited

end Foundations
