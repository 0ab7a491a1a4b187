import SqlQuery.Config.Configuration
import SqlQuery.Config.QueryFile
import SqlQuery.Proofs.Expression.RoundTrip

/-! # Configurations and queries are read back from their texts

Query files and configurations are read back from the JSON that they are written as. A text of that
JSON gives back the JSON, so whatever is written as a text is read back from it, provided that its
doubles are finite and given back, and that its containers are not nested too deep.
-/

namespace SqlQuery

open Json (Faithful)

variable {double? : Numeral → Option Binary64}

/-! ## Query files -/

namespace QueryFile

variable {file : QueryFile}

/-- The values that stand in a query file. -/
def values (file : QueryFile) : List Value :=
  Expression.valuesOfAll file.conditions ++
    (Projection.valuesOfAll file.projection.toList ++
      Expression.valuesOfAll (file.orders.map Order.expression))

theorem forall_mem_values {held : Value → Prop} :
    (∀ value ∈ file.values, held value) ↔
      (∀ condition ∈ file.conditions, ∀ value ∈ condition.values, held value) ∧
      (∀ projection ∈ file.projection, ∀ value ∈ projection.values, held value) ∧
      ∀ order ∈ file.orders, ∀ value ∈ order.expression.values, held value := by
  rw [values, List.forall_mem_append, List.forall_mem_append, Expression.forall_mem_valuesOfAll,
    Projection.forall_mem_valuesOfAll, Expression.forall_mem_valuesOfAll, List.forall_mem_map]
  simp only [Option.mem_toList, Option.mem_def]

theorem faithful_toJson (restored : ∀ value ∈ file.values, value.Restored double?) :
    Faithful double? file.toJson := by
  obtain ⟨inConditions, inProjection, inOrders⟩ := forall_mem_values.mp restored
  have conditions : Faithful double? (.array (file.conditions.map Expression.toJson)) :=
    .map fun condition belongs => Expression.faithful_toJson (inConditions condition belongs)
  have projection : Faithful double? (.ofOption Projection.toJson file.projection) :=
    .ofOption fun projection given => Projection.faithful_toJson (inProjection projection given)
  have orders : Faithful double? (.array (file.orders.map Order.toJson)) :=
    .map fun order belongs => Order.faithful_toJson (inOrders order belongs)
  have limit : Faithful double?
      (.ofOption (fun limit : UInt64 => .integer limit.toNat) file.window.limit) :=
    .ofOption fun limit _ => .natural limit.toNat_lt
  have offset : Faithful double? (.integer file.window.offset.toNat) :=
    .natural file.window.offset.toNat_lt
  refine .object ?_
  simp [Faithful.string, conditions, projection, orders, limit, offset]

theorem ofJson?_toJson (restored : ∀ value ∈ file.values, value.Restored double?) :
    ofJson? file.toJson = some file := by
  obtain ⟨inConditions, inProjection, inOrders⟩ := forall_mem_values.mp restored
  have conditions : Json.list? Expression.ofJson? (.array (file.conditions.map Expression.toJson)) =
      some file.conditions :=
    Json.list?_map _ fun condition belongs =>
      Expression.ofJson?_toJson (inConditions condition belongs)
  have projection : Json.nullable Projection.ofJson? (.ofOption Projection.toJson file.projection) =
      some file.projection :=
    Json.nullable_ofOption _ (fun projection given =>
      Projection.ofJson?_toJson (inProjection projection given))
      fun projection _ => projection.toJson_ne_null
  have orders : Json.list? Order.ofJson? (.array (file.orders.map Order.toJson)) =
      some file.orders :=
    Json.list?_map _ fun order belongs =>
      Order.ofJson?_toJson (inOrders order belongs)
  have limit : Json.nullable Json.uint64?
      (.ofOption (fun limit : UInt64 => .integer limit.toNat) file.window.limit) =
        some file.window.limit :=
    Json.nullable_ofOption _ (fun limit _ => Json.uint64?_integer limit) fun _ _ => nofun
  simp [toJson, ofJson?, Json.Record.required, Json.Record.optional, conditions, projection,
    orders, limit]

end QueryFile

/-! ## Configurations -/

@[simp] theorem ColumnEntry.ofJson?_toJson (entry : ColumnEntry) :
    ofJson? entry.toJson = some entry := by
  cases entry <;> rfl

namespace TableEntry

@[simp] theorem ofJson?_toJson (entry : TableEntry) : ofJson? entry.toJson = some entry := by
  have columns : Json.list? ColumnEntry.ofJson? (.array (entry.columns.map ColumnEntry.toJson)) =
      some entry.columns :=
    Json.list?_map _ fun column _ => column.ofJson?_toJson
  simp [toJson, ofJson?, Json.Record.required, Json.Record.optional, columns]

theorem faithful_toJson (entry : TableEntry) : Faithful double? entry.toJson := by
  have columns : Faithful double? (.array (entry.columns.map ColumnEntry.toJson)) := by
    refine .map fun column _ => ?_
    cases column with
    | same field => exact .string field
    | mapped field column => exact .object (by simp [Faithful.string])
  refine .object ?_
  simp [Faithful.string, columns]

end TableEntry

namespace PostgresSettings

@[simp] theorem ofJson?_toJson (settings : PostgresSettings) :
    ofJson? settings.toJson = some settings := by
  simp [toJson, ofJson?, Json.Record.optional]

theorem faithful_toJson (settings : PostgresSettings) : Faithful double? settings.toJson := by
  have port : Faithful double? (.integer settings.port.toNat) :=
    .natural (Nat.lt_trans settings.port.toNat_lt (by decide))
  refine .object ?_
  simp [Faithful.text, Faithful.bool, port]

end PostgresSettings

@[simp] theorem DialectKind.ofJson?_name (kind : DialectKind) :
    DialectKind.ofJson? (.string kind.name) = some kind := by
  cases kind <;> decide

namespace Configuration

theorem faithful_toJson (configuration : Configuration) :
    Faithful double? configuration.toJson := by
  have tables : Faithful double? (.object
      (configuration.tables.entries.map fun entry => (entry.1, entry.2.toJson))) :=
    .object (List.forall_mem_map.mpr fun entry _ => entry.2.faithful_toJson)
  have database : Faithful double? (.ofOption PostgresSettings.toJson configuration.database) :=
    .ofOption fun settings _ => settings.faithful_toJson
  refine .object ?_
  simp [Faithful.string, Faithful.text, Faithful.bool, tables, database]

theorem ofJson?_toJson (configuration : Configuration) :
    ofJson? configuration.toJson = some configuration := by
  have tables : Json.dictionary? TableEntry.ofJson? (.object
      (configuration.tables.entries.map fun entry => (entry.1, entry.2.toJson))) =
        some configuration.tables :=
    Json.dictionary?_entries _ fun entry _ => entry.2.ofJson?_toJson
  have database : Json.nullable PostgresSettings.ofJson?
      (.ofOption PostgresSettings.toJson configuration.database) = some configuration.database :=
    Json.nullable_ofOption _ (fun settings _ => settings.ofJson?_toJson) fun _ _ => nofun
  simp [toJson, ofJson?, Json.Record.optional, tables, database]

end Configuration

/-! ## Texts -/

/-- Whatever is written is read back from its texts, by every rule for numbers that gives its
doubles back, provided that it is nested no deeper than a reader goes. -/
theorem texts_read_back (double? : Numeral → Option Binary64) :
    (∀ expression : Expression, (∀ value ∈ expression.values, value.Restored double?) →
      expression.toJson.depth ≤ Json.nestingLimit →
        Json.ReadsBack double? Expression.toJson Expression.ofJson? expression) ∧
    (∀ projection : Projection, (∀ value ∈ projection.values, value.Restored double?) →
      projection.toJson.depth ≤ Json.nestingLimit →
        Json.ReadsBack double? Projection.toJson Projection.ofJson? projection) ∧
    (∀ order : Order, (∀ value ∈ order.expression.values, value.Restored double?) →
      order.toJson.depth ≤ Json.nestingLimit →
        Json.ReadsBack double? Order.toJson Order.ofJson? order) ∧
    (∀ file : QueryFile, (∀ value ∈ file.values, value.Restored double?) →
      file.toJson.depth ≤ Json.nestingLimit →
        Json.ReadsBack double? QueryFile.toJson QueryFile.ofJson? file) ∧
    (∀ configuration : Configuration, configuration.toJson.depth ≤ Json.nestingLimit →
      Json.ReadsBack double? Configuration.toJson Configuration.ofJson? configuration) := by
  refine ⟨fun expression restored shallow => ?_, fun projection restored shallow => ?_,
    fun order restored shallow => ?_, fun file restored shallow => ?_,
    fun configuration shallow => ?_⟩
  · exact (Expression.faithful_toJson restored).readsBack shallow
      (Expression.ofJson?_toJson restored)
  · exact (Projection.faithful_toJson restored).readsBack shallow
      (Projection.ofJson?_toJson restored)
  · exact (Order.faithful_toJson restored).readsBack shallow (Order.ofJson?_toJson restored)
  · exact (QueryFile.faithful_toJson restored).readsBack shallow (QueryFile.ofJson?_toJson restored)
  · exact configuration.faithful_toJson.readsBack shallow configuration.ofJson?_toJson

theorem assorted_texts_read_back :
    Json.ReadsBack Numeral.scaled? Expression.toJson Expression.ofJson?
      (.between (.field "score") (.value (.float ⟨0x3FB999999999999A⟩))
        (.value (.float ⟨0x4000000000000000⟩))) ∧
    Json.ReadsBack Numeral.scaled? Projection.toJson Projection.ofJson?
      (.list [.rowCount none, .expression (.value (.int Int64.minValue)) (some "least")]) ∧
    Json.ReadsBack Numeral.scaled? Order.toJson Order.ofJson?
      ⟨.function "abs" [.value (.float ⟨0xBFE0000000000000⟩)], false⟩ ∧
    Json.ReadsBack Numeral.scaled? QueryFile.toJson QueryFile.ofJson?
      ⟨"Person", [.not (.like (.field "name") "a\"\\\n!%" .start (some '!') true)], none, [],
        ⟨some 18446744073709551615, 5⟩⟩ ∧
    Json.ReadsBack Numeral.scaled? Configuration.toJson Configuration.ofJson?
      { dialect := .postgres
        tables := Dictionary.ofList [("Person", ⟨"people", [.same "id", .mapped "age" "years"]⟩)]
        database := some { port := 5432 } } := by
  obtain ⟨expressions, projections, orders, files, configurations⟩ :=
    texts_read_back Numeral.scaled?
  exact ⟨expressions _ (by decide +kernel) (by decide +kernel),
    projections _ (by decide +kernel) (by decide +kernel),
    orders _ (by decide +kernel) (by decide +kernel),
    files _ (by decide +kernel) (by decide +kernel), configurations _ (by decide +kernel)⟩

end SqlQuery
