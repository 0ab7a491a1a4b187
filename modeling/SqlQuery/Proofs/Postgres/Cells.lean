import SqlQuery.Postgres.Connection
import SqlQuery.Proofs.Postgres.Parameters

/-! # Written values are read back

A value is written in the format of a column type that holds values of its kind, and the cell is
read by the type of its column, wherever it stands in a row. So what is written is read as the same
value. The only values that are not written are integers beyond the range of a narrower type.
-/

namespace SqlQuery.Postgres

namespace ColumnType

/-- The types hold values of their own kind, and nulls. -/
inductive Holds : ColumnType → Value → Prop
  | null {type : ColumnType} (bindable : type ∈ boundTypes) : Holds type .null
  | bool (value : Bool) : Holds .bool (.bool value)
  | int {type : ColumnType} {width : Nat} (integer : (type, width) ∈ integerTypes) (n : Int64) :
    Holds type (.int n)
  | float (x : Binary64) : Holds .float8 (.float x)
  | text {type : ColumnType} (texts : type = .text ∨ type = .varchar) (text : String) :
    Holds type (.text text)

/-- The integers that a narrower type does not have. -/
inductive OutOfRange : ColumnType → Value → Prop
  | int2 {n : Int64} (beyond : n.toInt < -2 ^ 15 ∨ 2 ^ 15 ≤ n.toInt) : OutOfRange .int2 (.int n)
  | int4 {n : Int64} (beyond : n.toInt < -2 ^ 31 ∨ 2 ^ 31 ≤ n.toInt) : OutOfRange .int4 (.int n)

end ColumnType

/-! ## One cell -/

/-- A cell that is received as a value is read as this value. -/
theorem decode_of_received? {type : ColumnType} (bindable : type ∈ boundTypes)
    {bytes : List UInt8} {value : Value} (received : received? type bytes = some value) :
    decode type (some bytes) = value := by
  rw [decode_eq_received? bindable, received, Option.getD_some]

/-- An integer is written in so many bytes if it is in their range, and is then read back. -/
theorem narrow_cases {type : ColumnType} {width : Nat} (integer : (type, width) ∈ integerTypes)
    (bindable : type ∈ boundTypes) {bound : Int} (capacity_eq : (capacity width : Int) = 2 * bound)
    (n : Int64) :
    (∃ cause, narrow width n.toInt = .error cause) ∧ (n.toInt < -bound ∨ bound ≤ n.toInt) ∨
      (∃ cell, narrow width n.toInt = .ok cell ∧ decode type cell = .int n) ∧
        ¬ (n.toInt < -bound ∨ bound ≤ n.toInt) := by
  by_cases beyond : n.toInt < -bound ∨ bound ≤ n.toInt
  · exact .inl ⟨narrow_of_not_fits (by omega), beyond⟩
  · have written : narrow width n.toInt = .ok (some (integerBytes width n.toInt)) :=
      narrow_of_fits (by omega) (by omega)
    have received := received?_integerBytes integer (n := n) (by omega) (by omega)
    exact .inr ⟨⟨_, written, decode_of_received? bindable received⟩, beyond⟩

/-- A value that a type holds is written and read back, unless it is out of range. -/
theorem written_cases {type : ColumnType} {value : Value} (holds : type.Holds value) :
    (∃ cause, encode value type = .error cause) ∧ type.OutOfRange value ∨
      (∃ cell, encode value type = .ok cell ∧ decode type cell = value) ∧
        ¬ type.OutOfRange value := by
  cases holds with
  | null =>
    refine .inr ⟨⟨none, rfl, rfl⟩, ?_⟩
    rintro ⟨⟩
  | bool value =>
    refine .inr ⟨⟨_, rfl, decode_of_received? (by decide) (received?_bool value)⟩, ?_⟩
    rintro ⟨⟩
  | int integer n =>
    simp only [integerTypes, List.mem_cons, Prod.mk.injEq, List.not_mem_nil, or_false] at integer
    rcases integer with ⟨rfl, rfl⟩ | ⟨rfl, rfl⟩ | ⟨rfl, rfl⟩
    · have capacity_eq : (capacity 2 : Int) = 2 * 2 ^ 15 := rfl
      rcases narrow_cases (by decide : (.int2, 2) ∈ integerTypes) (by decide) capacity_eq n with
        ⟨failed, beyond⟩ | ⟨written, fits⟩
      · exact .inl ⟨failed, .int2 beyond⟩
      · refine .inr ⟨written, fun outside => ?_⟩
        cases outside with
        | int2 beyond => exact fits beyond
    · have capacity_eq : (capacity 4 : Int) = 2 * 2 ^ 31 := rfl
      rcases narrow_cases (by decide : (.int4, 4) ∈ integerTypes) (by decide) capacity_eq n with
        ⟨failed, beyond⟩ | ⟨written, fits⟩
      · exact .inl ⟨failed, .int4 beyond⟩
      · refine .inr ⟨written, fun outside => ?_⟩
        cases outside with
        | int4 beyond => exact fits beyond
    · have low := n.le_toInt
      have high := n.toInt_lt
      have capacity_eq : (capacity 8 : Int) = 2 ^ 64 := rfl
      have received := received?_integerBytes (by decide : (.int8, 8) ∈ integerTypes) (n := n)
        (by omega) (by omega)
      refine .inr ⟨⟨_, rfl, decode_of_received? (by decide) received⟩, ?_⟩
      rintro ⟨⟩
  | float x =>
    refine .inr ⟨⟨_, rfl, decode_of_received? (by decide) (received?_float8 x)⟩, ?_⟩
    rintro ⟨⟩
  | text texts text =>
    refine .inr ⟨⟨some (textBytes text), ?_, ?_⟩, ?_⟩
    · rfl
    · refine decode_of_received? ?_ (received?_textBytes texts text)
      rcases texts with rfl | rfl <;> decide
    · rintro ⟨⟩

/-! ## Cells of a reply -/

/-- A cell in a column of a type, at a place of a reply. -/
structure Reply.HasCell (reply : Reply) (row column : Nat) (type : ColumnType) (cell : Datum) :
    Prop where
  declared : (reply.columns[column]?).map (·.2) = some type
  sent : (reply.rows[row]?).bind (·[column]?) = some cell

/-- The value at a place of a result. -/
def cellValue? (result : ResultSet) (row column : Nat) : Option Value :=
  (result.rows[row]?).bind (·[column]?)

/-- A cell is read by the type of its own column, whatever the other columns are. -/
theorem cellValue?_result {reply : Reply} {row column : Nat} {type : ColumnType} {cell : Datum}
    (held : reply.HasCell row column type cell) :
    cellValue? reply.result row column = some (decode type cell) := by
  obtain ⟨declared, sent⟩ := held
  obtain ⟨⟨name, _⟩, named, rfl⟩ := Option.map_eq_some_iff.mp declared
  obtain ⟨cells, rowed, placed⟩ := Option.bind_eq_some_iff.mp sent
  have given : reply.columns.isEmpty = false := by
    rw [List.isEmpty_eq_false_iff]
    rintro none
    simp [none] at named
  rw [cellValue?, Reply.result, given]
  simp [rowed, List.getElem?_zip_eq_some, named, placed]

/-- A value is written in a type that holds its kind, unless it is an integer out of range. The cell
that was written is read as the value again, wherever it stands in a reply and whatever the other
cells are. -/
theorem cell_read_back {type : ColumnType} {value : Value} (holds : type.Holds value) :
    ((∃ cause, encode value type = .error cause) ↔ type.OutOfRange value) ∧
      (¬ type.OutOfRange value → ∃ cell, encode value type = .ok cell ∧
        ∀ reply row column, Reply.HasCell reply row column type cell →
          cellValue? reply.result row column = some value) := by
  rcases written_cases holds with ⟨failed, beyond⟩ | ⟨⟨cell, written, read⟩, fits⟩
  · exact ⟨iff_of_true failed beyond, fun fits => absurd beyond fits⟩
  · refine ⟨iff_of_false ?_ fits, fun _ => ⟨cell, written, ?_⟩⟩
    · rintro ⟨cause, failed⟩
      cases written.symm.trans failed
    · intro reply row column held
      rw [cellValue?_result held, read]

/-- The least integer of two bytes, beside a cell that cannot be read. -/
theorem cell_read_back_least :
    ColumnType.int2.Holds (.int (-32768)) ∧ ¬ ColumnType.int2.OutOfRange (.int (-32768)) ∧
      ∃ cell, encode (.int (-32768)) .int2 = .ok cell ∧
        cellValue? (Reply.result ⟨[], [("data", .other "json"), ("n", .int2)], [[some [0], cell]]⟩)
          0 1 = some (.int (-32768)) := by
  have holds : ColumnType.int2.Holds (.int (-32768)) :=
    .int (by decide : (.int2, 2) ∈ integerTypes) (-32768)
  have fits : ¬ ColumnType.int2.OutOfRange (.int (-32768)) := by
    rintro ⟨beyond⟩
    revert beyond
    decide
  obtain ⟨cell, written, read⟩ := (cell_read_back holds).2 fits
  exact ⟨holds, fits, cell, written, read _ 0 1 ⟨rfl, rfl⟩⟩

end SqlQuery.Postgres
