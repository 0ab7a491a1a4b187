import SqlQuery.Database.Row
import SqlQuery.Proofs.Data.Dictionary
import SqlQuery.Proofs.Expression.RoundTrip

/-! # A row by its column names

A row can be asked for the value of a name, turned into a JSON object with its members by name, or
written with its members in column order. All three know the same names, and what is written is read
back as the object. But of several columns with one name the look-up takes the first value, and the
object the last, so the two give the same value exactly if these two have the same JSON.
-/

namespace SqlQuery

variable {double? : Numeral → Option Binary64}

/-- Every value becomes JSON that a text can hold, if its number is given back. -/
theorem Value.faithful_toJson_of_restores {value : Value}
    (restored : ∀ x, value = float x → x.isFinite = true → Json.Restores double? x) :
    Json.Faithful double? value.toJson := by
  cases value with
  | null | bool | int | text =>
    refine faithful_toJson fun x same => ?_
    cases same
  | float x =>
    by_cases finite : x.isFinite = true
    · refine faithful_toJson fun y same => ?_
      obtain rfl := Value.float.inj same
      exact ⟨finite, restored x rfl finite⟩
    · rw [toJson, if_neg finite]
      exact .null

theorem Value.depth_toJson (value : Value) : value.toJson.depth = 0 := by
  cases value with
  | null | bool | int | text => rfl
  | float x =>
    rw [toJson]
    split <;> rfl

namespace Row

/-- The values of the columns with a name, in column order. -/
def valuesOf (row : Row) (column : String) : List Value :=
  (row.entries.filter fun entry => entry.1 = column).map (·.2)

variable (row : Row) (column : String)

/-! ## Looking up a name -/

/-- The look-up takes the first value of a name. -/
theorem get?_eq_head? : row.get? column = (row.valuesOf column).head? := by
  obtain ⟨columns, values⟩ := row
  rw [get?, valuesOf, entries]
  dsimp only
  induction columns generalizing values with
  | nil => rfl
  | cons name rest ih =>
    cases values with
    | nil => simp
    | cons value others =>
      rw [List.findIdx?_cons, List.zip_cons_cons, List.filter_cons]
      by_cases same : name = column
      · simp [same]
      · simp only [same, decide_false, Bool.false_eq_true, if_false]
        rw [← ih, Option.bind_map]
        rfl

/-- The object of a row takes the last value of a name. -/
theorem member?_toJson :
    row.toJson.member? column = (row.valuesOf column).getLast?.map Value.toJson := by
  rw [toJson, Json.member?, ← Dictionary.entryValue?_eq_lookup]
  change row.toDictionary.find? column = _
  rw [toDictionary, Dictionary.find?_ofList, List.filter_map, List.map_map, valuesOf,
    ← List.getLast?_map, List.map_map]
  rfl

/-! ## Reading the written row -/

/-- Whether both texts of a row are read as the object of the row. -/
def ReadsBack (double? : Numeral → Option Binary64) (row : Row) : Prop :=
  (Json.readBy? double? (Json.compact row.serialize)).bind (Json.dictionary? some) =
      some row.toDictionary ∧
    (Json.readBy? double? (Json.pretty row.serialize)).bind (Json.dictionary? some) =
      some row.toDictionary

theorem readsBack_of_restores (restored : ∀ x, Value.float x ∈ row.values →
    x.isFinite = true → Json.Restores double? x) : row.ReadsBack double? := by
  have faithful : Json.Faithful double? row.serialize := by
    refine .object fun member belongs => ?_
    obtain ⟨entry, present, rfl⟩ := List.mem_map.mp belongs
    refine Value.faithful_toJson_of_restores fun x same finite => ?_
    exact restored x (same ▸ (List.of_mem_zip present).2) finite
  have flat : row.serialize.depth ≤ 1 := by
    refine Nat.succ_le_succ (Json.membersDepth_le fun named belongs => ?_)
    obtain ⟨entry, -, rfl⟩ := List.mem_map.mp belongs
    exact Nat.le_of_eq entry.2.depth_toJson
  have shallow : row.serialize.depth ≤ Json.nestingLimit := Nat.le_trans flat (by decide)
  have decoded : Json.dictionary? some row.serialize = some row.toDictionary := by
    have members (entries : List (String × Json)) :
        (entries.mapM fun member => (some member.2).map fun value => (member.1, value)) =
          some entries :=
      (List.mapM_pure (f := id)).trans (congrArg some (List.map_id entries))
    rw [serialize, Json.dictionary?, members, Option.map_some, toDictionary]
  obtain ⟨line, lines⟩ := faithful.readBy?_eq shallow
  rw [ReadsBack, line, lines, Option.bind_some]
  exact ⟨decoded, decoded⟩

/-! ## All three -/

/-- The object of a row has the names that are found in the row, and what is written is read back as
that object by every rule that gives the numbers of the row back, such as taking the nearest double.
Object and look-up give the same value of a name exactly if its first value and its last have the
same JSON. -/
theorem views_by_name :
    (∀ column, (row.toJson.member? column).isSome = (row.get? column).isSome) ∧
      (∀ column, row.toJson.member? column = (row.get? column).map Value.toJson ↔
        ∀ first ∈ (row.valuesOf column).head?, ∀ last ∈ (row.valuesOf column).getLast?,
          first.toJson = last.toJson) ∧
      row.ReadsBack Numeral.nearest? ∧
      ∀ double? : Numeral → Option Binary64,
        (∀ x, Value.float x ∈ row.values → x.isFinite = true → Json.Restores double? x) →
          row.ReadsBack double? := by
  refine ⟨fun column => ?_, fun column => ?_, ?_, fun double? => row.readsBack_of_restores⟩
  · rw [member?_toJson, get?_eq_head?, Option.isSome_map]
    cases row.valuesOf column with
    | nil => rfl
    | cons first others => rw [List.getLast?_cons, List.head?_cons, Option.isSome_some,
        Option.isSome_some]
  · rw [member?_toJson, get?_eq_head?]
    cases row.valuesOf column with
    | nil => simp
    | cons first others => simp [List.getLast?_cons, eq_comm]
  · exact row.readsBack_of_restores fun x _ finite => Json.restores_nearest? finite

/-- Of two columns with one name the look-up takes the first and the object the second. -/
theorem repeated_name_differs :
    (Row.mk ["a", "a"] [.int 1, .int 2]).get? "a" = some (.int 1) ∧
      (Row.mk ["a", "a"] [.int 1, .int 2]).toJson.member? "a" = some (.integer 2) ∧
      (Row.mk ["a", "a"] [.int 1, .int 2]).toJson.member? "a" ≠
        ((Row.mk ["a", "a"] [.int 1, .int 2]).get? "a").map Value.toJson := by
  have found : (Row.mk ["a", "a"] [.int 1, .int 2]).get? "a" = some (.int 1) := by decide
  have member : (Row.mk ["a", "a"] [.int 1, .int 2]).toJson.member? "a" = some (.integer 2) := by
    rw [member?_toJson]
    rfl
  refine ⟨found, member, fun same => ?_⟩
  rw [found, member] at same
  have integers : (2 : Int) = 1 := Json.integer.inj (Option.some.inj same)
  exact absurd integers (by decide)

end Row

end SqlQuery
