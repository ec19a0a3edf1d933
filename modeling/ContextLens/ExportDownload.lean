import ContextLens.Foundations.DelimitedText
import Mathlib.Data.UInt

/-!
# The CSV export

`csvEscapeCell`, `joinCsvRow` and the section helper of `exportDownload.ts`.  Texts are lists
of UTF-16 code units, which is what the regular expressions and `replace` see of them.

The writer of the library in the dialect of RFC 4180 is what the code computes
(`csvEscapeCell_eq`), so its reader gives every cell back.  The export also has empty lines:
between sections they are records of one empty field, and the last one is a line end.
-/

namespace ContextLens

open Foundations Delimited

/-- A text, by its code units. -/
abbrev CodeUnits := List UInt16

/-- The code units of an ASCII text. -/
def asciiUnits (s : String) : CodeUnits := s.toList.map fun c => c.toNat.toUInt16

/-- A cell of an exported row; `ν` are the numbers. -/
inductive CsvCell (ν : Type*)
  | string (text : CodeUnits)
  | number (value : ν)
  | null
  | undefined

section

variable {ν : Type*} (numberText : ν → CodeUnits)

/-! ## The writer -/

/-- `csvEscapeCell` of a text: `s` with its quotes doubled and quotes around it, if `/[",\r\n]/`
matches. -/
def csvEscapeText (s : CodeUnits) : CodeUnits :=
  if s.any fun c => c = 34 || c = 44 || c = 13 || c = 10 then
    [34] ++ (s.flatMap fun c => if c = 34 then [34, 34] else [c]) ++ [34]
  else s

/-- `csvEscapeCell`. -/
def csvEscapeCell : CsvCell ν → CodeUnits
  | .null => []
  | .undefined => []
  | .string s => csvEscapeText s
  | .number value => csvEscapeText (numberText value)

/-- `joinCsvRow`. -/
def joinCsvRow (cells : List (CsvCell ν)) : CodeUnits :=
  [44].intercalate (cells.map (csvEscapeCell numberText))

/-- `lines.join('\n')`. -/
def joinLines (lines : List CodeUnits) : CodeUnits := [10].intercalate lines

/-- `pushMetricRows`. -/
def pushMetricRows (lines : List CodeUnits) (label : CodeUnits)
    (rows : List (CodeUnits × CsvCell ν)) : List CodeUnits :=
  lines ++ [joinCsvRow numberText [.string (asciiUnits "section"), .string label],
      joinCsvRow numberText [.string (asciiUnits "metric"), .string (asciiUnits "value")]] ++
    (rows.map fun row => joinCsvRow numberText [.string row.1, row.2]) ++ [[]]

/-! ## The dialect -/

/-- RFC 4180, with the line feed between records. -/
def rfc4180 : Dialect UInt16 where
  quote := 34
  separator := 44
  lineEnd := 10
  others := [13]
  quote_ne_separator := by decide
  quote_ne_lineEnd := by decide
  separator_ne_lineEnd := by decide

/-- `String(cell)`, and the empty text for what is absent. -/
def CsvCell.text : CsvCell ν → CodeUnits
  | .null => []
  | .undefined => []
  | .string s => s
  | .number value => numberText value

theorem csvEscapeText_eq (s : CodeUnits) : csvEscapeText s = rfc4180.writeField s := by
  have hreserved : (s.any fun c => c = 34 || c = 44 || c = 13 || c = 10) = true ↔
      ∃ c ∈ s, c ∈ rfc4180.reserved := by
    rw [List.any_eq_true]
    refine exists_congr fun c => and_congr_right fun _ => ?_
    simp only [Bool.or_eq_true, decide_eq_true_eq, Dialect.reserved, rfc4180, List.mem_cons,
      List.not_mem_nil, or_false]
    tauto
  unfold csvEscapeText Dialect.writeField
  simp only [hreserved]
  rfl

theorem csvEscapeCell_eq (cell : CsvCell ν) :
    csvEscapeCell numberText cell = rfc4180.writeField (cell.text numberText) := by
  cases cell with
  | string s => exact csvEscapeText_eq s
  | number value => exact csvEscapeText_eq (numberText value)
  | null => rfl
  | undefined => rfl

/-- The record that a row is read back as. -/
def csvRecord (cells : List (CsvCell ν)) : Record UInt16 :=
  cells.map fun cell => cell.text numberText

theorem joinCsvRow_eq (cells : List (CsvCell ν)) :
    joinCsvRow numberText cells = rfc4180.writeRecord (csvRecord numberText cells) := by
  rw [joinCsvRow, Dialect.writeRecord, csvRecord, List.map_map]
  exact congrArg _ (List.map_congr_left fun cell _ => csvEscapeCell_eq numberText cell)

theorem joinLines_joinCsvRow (rows : List (List (CsvCell ν))) :
    joinLines (rows.map (joinCsvRow numberText)) =
      rfc4180.write (rows.map (csvRecord numberText)) := by
  rw [joinLines, Dialect.write, List.map_map]
  exact congrArg _ (List.map_congr_left fun cells _ => joinCsvRow_eq numberText cells)

/-! ## Round trips -/

variable {rows : List (List (CsvCell ν))}

theorem csvRecord_ne_nil (hrows : ∀ row ∈ rows, row ≠ []) :
    ∀ record ∈ rows.map (csvRecord numberText), record ≠ [] := by
  intro record hrecord
  obtain ⟨row, hrow, rfl⟩ := List.mem_map.mp hrecord
  exact fun hnil => hrows row hrow (List.map_eq_nil_iff.mp hnil)

/-- The row of an empty line. -/
def emptyLine : List (CsvCell ν) := [.string []]

/-- An empty last line is a line end. -/
theorem read_blank_end (hne : rows ≠ []) (hrows : ∀ row ∈ rows, row ≠ []) :
    rfc4180.read (joinLines ((rows ++ [emptyLine]).map (joinCsvRow numberText))) =
      some (rows.map (csvRecord numberText)) := by
  rw [joinLines_joinCsvRow, List.map_append]
  exact rfc4180.read_write_blank_end (List.map_eq_nil_iff.not.mpr hne)
    (csvRecord_ne_nil numberText hrows)

/-- The rows of a section of metrics. -/
def metricSection (label : CodeUnits) (metrics : List (CodeUnits × CsvCell ν)) :
    List (List (CsvCell ν)) :=
  [.string (asciiUnits "section"), .string label] ::
    [.string (asciiUnits "metric"), .string (asciiUnits "value")] ::
      metrics.map fun metric => [.string metric.1, metric.2]

theorem pushMetricRows_eq (rows : List (List (CsvCell ν))) (label : CodeUnits)
    (metrics : List (CodeUnits × CsvCell ν)) :
    pushMetricRows numberText (rows.map (joinCsvRow numberText)) label metrics =
      (rows ++ metricSection label metrics ++ [emptyLine]).map (joinCsvRow numberText) := by
  rw [pushMetricRows, metricSection, List.map_append, List.map_append, List.map_cons, List.map_cons,
    List.map_map, List.append_assoc (rows.map _)]
  rfl

/-- A section behind other lines is read back with them. -/
theorem read_pushMetricRows (hrows : ∀ row ∈ rows, row ≠ []) (label : CodeUnits)
    (metrics : List (CodeUnits × CsvCell ν)) :
    rfc4180.read (joinLines
        (pushMetricRows numberText (rows.map (joinCsvRow numberText)) label metrics)) =
      some ((rows ++ metricSection label metrics).map (csvRecord numberText)) := by
  rw [pushMetricRows_eq]
  refine read_blank_end numberText (List.append_ne_nil_of_right_ne_nil _ (List.cons_ne_nil _ _)) ?_
  intro row hrow
  rcases List.mem_append.mp hrow with hrow | hrow
  · exact hrows row hrow
  · rcases List.mem_cons.mp hrow with rfl | hrow
    · exact List.cons_ne_nil _ _
    · rcases List.mem_cons.mp hrow with rfl | hrow
      · exact List.cons_ne_nil _ _
      · obtain ⟨metric, -, rfl⟩ := List.mem_map.mp hrow
        exact List.cons_ne_nil _ _

end

/-- **The export loses nothing**: rows of two cells or more are read back cell by cell. -/
theorem read_joinCsvRow_rows {ν : Type*} (numberText : ν → CodeUnits)
    (rows : List (List (CsvCell ν))) (hcells : ∀ row ∈ rows, 2 ≤ row.length) :
    rfc4180.read (joinLines (rows.map (joinCsvRow numberText))) =
      some (rows.map fun row => row.map fun cell => cell.text numberText) := by
  rw [joinLines_joinCsvRow]
  refine rfc4180.read_write (csvRecord_ne_nil numberText ?_) ?_
  · intro row hrow hnil
    have htwo := hcells row hrow
    rw [hnil] at htwo
    cases htwo
  · intro hlast
    rw [List.getLast?_map] at hlast
    obtain ⟨row, hrow, hrecord⟩ := Option.map_eq_some_iff.mp hlast
    have hlength := congrArg List.length hrecord
    rw [csvRecord, List.length_map] at hlength
    have htwo := hcells row (List.mem_of_getLast? hrow)
    rw [hlength] at htwo
    exact absurd htwo (by decide)

/-- Quotes, delimiters and line ends in cells, and absent cells. -/
theorem read_two_rows :
    let rows : List (List (CsvCell ℕ)) :=
      [[.string (asciiUnits "say \"hi\""), .null],
        [.number 12, .string (asciiUnits "a,b\r\n"), .undefined]]
    let numberText : ℕ → CodeUnits := fun n => asciiUnits (Nat.repr n)
    rfc4180.read (joinLines (rows.map (joinCsvRow numberText))) =
      some (rows.map fun row => row.map fun cell => cell.text numberText) :=
  read_joinCsvRow_rows _ _ (by decide)

end ContextLens
