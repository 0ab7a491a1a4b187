import SqlQuery.Proofs.Expression.Induction
import SqlQuery.Proofs.Json.Records

/-! # Trees are read back from JSON

Expressions, projections and orders are read back from the JSON that they are written as, provided
that their doubles are finite. What they are written as can be held by a text if a rule for numbers
gives these doubles back.
-/

namespace SqlQuery

open Json (Faithful Restores)

variable {double? : Numeral → Option Binary64}

/-! ## Values -/

namespace Value

/-- A finite double, or any other value. -/
def IsFinite (value : Value) : Prop :=
  ∀ x, value = float x → x.isFinite = true

/-- A finite double that a rule for numbers gives back, or any other value. -/
def Restored (double? : Numeral → Option Binary64) (value : Value) : Prop :=
  ∀ x, value = float x → x.isFinite = true ∧ Restores double? x

variable {value : Value}

instance (double? : Numeral → Option Binary64) : DecidablePred (Restored double?)
  | float x => decidable_of_iff (x.isFinite = true ∧ Restores double? x)
    ⟨fun given y same => by cases same; exact given, fun restored => restored x rfl⟩
  | null | bool _ | int _ | text _ => .isTrue nofun

theorem Restored.isFinite (restored : value.Restored double?) : value.IsFinite :=
  fun x same => (restored x same).1

theorem ofJson?_toJson (finite : value.IsFinite) :
    ofJson? value.toJson = some value := by
  cases value with
  | null | bool | text => rfl
  | int value =>
    have inRange : int64InRange value.toInt = true := by
      rw [int64InRange, Bool.and_eq_true]
      exact ⟨decide_eq_true value.minValue_le_toInt, decide_eq_true value.toInt_le⟩
    rw [toJson, ofJson?, if_pos inRange, Int64.ofInt_toInt]
  | float x => rw [toJson, if_pos (finite x rfl), ofJson?]

theorem faithful_toJson (restored : value.Restored double?) : Faithful double? value.toJson := by
  cases value with
  | null => exact .null
  | bool value => exact .bool value
  | int value =>
    have below : value.toInt < UInt64.size := Int.lt_trans value.toInt_lt (by decide)
    refine .integer ?_
    rw [Json.integerInRange, Bool.and_eq_true]
    exact ⟨decide_eq_true value.minValue_le_toInt, decide_eq_true below⟩
  | float x =>
    obtain ⟨finite, given⟩ := restored x rfl
    rw [toJson, if_pos finite]
    exact .double finite given
  | text value => exact .string value

end Value

/-! ## Choices -/

@[simp] theorem MatchMode.ofJson?_name (mode : MatchMode) :
    MatchMode.ofJson? (.string mode.name) = some mode := by
  cases mode <;> rfl

@[simp] theorem Connective.ofJson?_name (connective : Connective) :
    Connective.ofJson? (.string connective.name) = some connective := by
  cases connective <;> rfl

/-! ## Expressions -/

namespace Expression

mutual

/-- The values that stand in an expression. -/
def values : Expression → List Value
  | field _ => []
  | value bound => [bound]
  | plain _ => []
  | simple left _ right => left.values ++ right.values
  | logical left _ right => left.values ++ right.values
  | property _ _ _ => []
  | not operand => operand.values
  | notNull operand => operand.values
  | null operand => operand.values
  | between operand lower upper => operand.values ++ (lower.values ++ upper.values)
  | like operand _ _ _ _ => operand.values
  | ilike operand _ _ _ => operand.values
  | inValues operand members => operand.values ++ valuesOfAll members
  | junction _ members => valuesOfAll members
  | function _ arguments => valuesOfAll arguments

def valuesOfAll : List Expression → List Value
  | [] => []
  | expression :: rest => expression.values ++ valuesOfAll rest

end

theorem forall_mem_valuesOfAll {expressions : List Expression} {held : Value → Prop} :
    (∀ value ∈ valuesOfAll expressions, held value) ↔
      ∀ expression ∈ expressions, ∀ value ∈ expression.values, held value := by
  induction expressions with
  | nil => simp [valuesOfAll]
  | cons expression rest ih => rw [valuesOfAll, List.forall_mem_append, List.forall_mem_cons, ih]

theorem toJsonList_eq_map (expressions : List Expression) :
    toJsonList expressions = expressions.map toJson := by
  induction expressions with
  | nil => rfl
  | cons expression rest ih => rw [toJsonList, ih, List.map_cons]

theorem single_node {expression : Expression}
    (finite : ∀ value ∈ expression.values, value.IsFinite) :
    (Json.node (assemble? true) expression.toJson).single = some expression := by
  have tagged (kind : String) {fields : List (String × Json)}
      (others : "kind" ∉ fields.map Prod.fst) :
      (Json.node (assemble? true) (.tagged kind fields)).single =
        ofFields? kind (.named (Json.memberNodes (assemble? true) fields)) :=
    Json.ofContent?_tagged _ kind others
  have list {members : List Expression} (each : ∀ member ∈ members,
      (Json.node (assemble? true) member.toJson).single = some member) :
      (Json.node (assemble? true) (.array (toJsonList members))).list = some members := by
    rw [toJsonList_eq_map]
    exact Json.list_node_map each
  induction expression with
  | field name => rfl
  | value bound =>
    have read := Value.ofJson?_toJson (finite bound (List.mem_singleton_self _))
    rw [toJson, tagged _ (by simp)]
    simp [ofFields?, Json.memberNodes, Json.Record.required, read]
  | plain sql => rfl
  | simple left operator right lefts rights | logical left operator right lefts rights =>
    obtain ⟨before, after⟩ := List.forall_mem_append.mp finite
    rw [toJson, tagged _ (by simp)]
    simp [ofFields?, Json.memberNodes, Json.Record.required, lefts before, rights after]
  | property left operator right => rfl
  | not operand ih | notNull operand ih | null operand ih =>
    rw [toJson, tagged _ (by simp)]
    simp [ofFields?, Json.memberNodes, Json.Record.required, ih finite]
  | between operand lower upper operands lowers uppers =>
    obtain ⟨first, bounds⟩ := List.forall_mem_append.mp finite
    obtain ⟨second, third⟩ := List.forall_mem_append.mp bounds
    rw [toJson, tagged _ (by simp)]
    simp [ofFields?, Json.memberNodes, Json.Record.required, operands first, lowers second,
      uppers third]
  | like operand pattern mode escape ignoreCase ih =>
    rw [toJson, tagged _ (by simp)]
    simp [ofFields?, Json.memberNodes, Json.Record.required, Json.Record.optional, ih finite]
  | ilike operand pattern mode escape ih =>
    rw [toJson, tagged _ (by simp)]
    simp [ofFields?, Json.memberNodes, Json.Record.required, Json.Record.optional, ih finite]
  | inValues operand members ih each =>
    obtain ⟨first, others⟩ := List.forall_mem_append.mp finite
    have all := list fun member belongs =>
      each member belongs (forall_mem_valuesOfAll.mp others member belongs)
    rw [toJson, tagged _ (by simp)]
    simp [ofFields?, Json.memberNodes, Json.Record.required, ih first, all]
  | junction connective members each =>
    have all := list fun member belongs =>
      each member belongs (forall_mem_valuesOfAll.mp finite member belongs)
    rw [toJson, tagged _ (by simp)]
    simp [ofFields?, Json.memberNodes, Json.Record.required, Json.Record.optional, all]
  | function name arguments each =>
    have all := list fun member belongs =>
      each member belongs (forall_mem_valuesOfAll.mp finite member belongs)
    rw [toJson, tagged _ (by simp)]
    simp [ofFields?, Json.memberNodes, Json.Record.required, Json.Record.optional, all]

theorem faithful_toJson {expression : Expression}
    (restored : ∀ value ∈ expression.values, value.Restored double?) :
    Faithful double? expression.toJson := by
  have list {members : List Expression}
      (each : ∀ member ∈ members, Faithful double? member.toJson) :
      Faithful double? (.array (toJsonList members)) := by
    rw [toJsonList_eq_map]
    exact .map each
  induction expression with
  | field name | plain sql | property left operator right =>
    refine .tagged _ ?_
    simp [Faithful.string]
  | value bound =>
    have given := Value.faithful_toJson (restored bound (List.mem_singleton_self _))
    refine .tagged _ ?_
    simp [given]
  | simple left operator right lefts rights | logical left operator right lefts rights =>
    obtain ⟨before, after⟩ := List.forall_mem_append.mp restored
    refine .tagged _ ?_
    simp [Faithful.string, lefts before, rights after]
  | not operand ih | notNull operand ih | null operand ih =>
    refine .tagged _ ?_
    simp [ih restored]
  | between operand lower upper operands lowers uppers =>
    obtain ⟨first, bounds⟩ := List.forall_mem_append.mp restored
    obtain ⟨second, third⟩ := List.forall_mem_append.mp bounds
    refine .tagged _ ?_
    simp [operands first, lowers second, uppers third]
  | like operand pattern mode escape ignoreCase ih =>
    refine .tagged _ ?_
    simp [ih restored, Faithful.string, Faithful.bool, Faithful.character]
  | ilike operand pattern mode escape ih =>
    refine .tagged _ ?_
    simp [ih restored, Faithful.string, Faithful.character]
  | inValues operand members ih each =>
    obtain ⟨first, others⟩ := List.forall_mem_append.mp restored
    have all := list fun member belongs =>
      each member belongs (forall_mem_valuesOfAll.mp others member belongs)
    refine .tagged _ ?_
    simp [ih first, all]
  | junction connective members each =>
    have all := list fun member belongs =>
      each member belongs (forall_mem_valuesOfAll.mp restored member belongs)
    refine .tagged _ ?_
    simp [Faithful.string, all]
  | function name arguments each =>
    have all := list fun member belongs =>
      each member belongs (forall_mem_valuesOfAll.mp restored member belongs)
    refine .tagged _ ?_
    simp [Faithful.string, all]

/-- An expression is written as a tagged record. -/
theorem exists_toJson_eq (expression : Expression) :
    ∃ kind fields, expression.toJson = .tagged kind fields ∧ "kind" ∉ fields.map Prod.fst := by
  cases expression <;> exact ⟨_, _, rfl, by simp⟩

/-- It makes no difference whether the expression stands alone. -/
theorem ofJson?_toJson {expression : Expression}
    (restored : ∀ value ∈ expression.values, value.Restored double?) :
    ofJson? expression.toJson = some expression := by
  have readable := (faithful_toJson restored).isReadable
  have read := single_node fun value belongs => (restored value belongs).isFinite
  obtain ⟨kind, fields, written, others⟩ := expression.exists_toJson_eq
  rw [written] at readable read
  rw [written, ofJson?, Json.tree?_tagged (fun _ _ => rfl) others readable, read]

end Expression

/-! ## Projections -/

namespace Projection

mutual

/-- The values that stand in a projection. -/
def values : Projection → List Value
  | aggregate _ argument _ _ _ => argument.values
  | rowCount _ => []
  | property _ _ _ => []
  | expression inner _ => inner.values
  | list members => valuesOfAll members

def valuesOfAll : List Projection → List Value
  | [] => []
  | projection :: rest => projection.values ++ valuesOfAll rest

end

theorem forall_mem_valuesOfAll {projections : List Projection} {held : Value → Prop} :
    (∀ value ∈ valuesOfAll projections, held value) ↔
      ∀ projection ∈ projections, ∀ value ∈ projection.values, held value := by
  induction projections with
  | nil => simp [valuesOfAll]
  | cons projection rest ih => rw [valuesOfAll, List.forall_mem_append, List.forall_mem_cons, ih]

theorem toJsonList_eq_map (projections : List Projection) :
    toJsonList projections = projections.map toJson := by
  induction projections with
  | nil => rfl
  | cons projection rest ih => rw [toJsonList, ih, List.map_cons]

theorem single_node {projection : Projection}
    (finite : ∀ value ∈ projection.values, value.IsFinite) :
    (Json.node (assemble? true) projection.toJson).single = some projection := by
  have tagged (kind : String) {fields : List (String × Json)}
      (others : "kind" ∉ fields.map Prod.fst) :
      (Json.node (assemble? true) (.tagged kind fields)).single =
        ofFields? kind (.named (Json.memberNodes (assemble? true) fields)) :=
    Json.ofContent?_tagged _ kind others
  induction projection with
  | aggregate function argument distinct label grouped =>
    have part : Expression.ofField? argument.toJson = some argument :=
      Expression.single_node finite
    rw [toJson, tagged _ (by simp)]
    simp [ofFields?, Json.memberNodes, Json.Record.required, Json.Record.optional, part]
  | rowCount label | property field label grouped =>
    rw [toJson, tagged _ (by simp)]
    simp [ofFields?, Json.memberNodes, Json.Record.required, Json.Record.optional]
  | expression inner label =>
    have part : Expression.ofField? inner.toJson = some inner := Expression.single_node finite
    rw [toJson, tagged _ (by simp)]
    simp [ofFields?, Json.memberNodes, Json.Record.required, Json.Record.optional, part]
  | list members each =>
    have all : (Json.node (assemble? true) (.array (toJsonList members))).list = some members := by
      rw [toJsonList_eq_map]
      exact Json.list_node_map fun member belongs =>
        each member belongs (forall_mem_valuesOfAll.mp finite member belongs)
    rw [toJson, tagged _ (by simp)]
    simp [ofFields?, Json.memberNodes, Json.Record.required, all]

theorem faithful_toJson {projection : Projection}
    (restored : ∀ value ∈ projection.values, value.Restored double?) :
    Faithful double? projection.toJson := by
  induction projection with
  | aggregate function argument distinct label grouped =>
    have given := Expression.faithful_toJson restored
    refine .tagged _ ?_
    simp [Faithful.string, Faithful.bool, Faithful.text, given]
  | rowCount label | property field label grouped =>
    refine .tagged _ ?_
    simp [Faithful.string, Faithful.bool, Faithful.text]
  | expression inner label =>
    have given := Expression.faithful_toJson restored
    refine .tagged _ ?_
    simp [Faithful.text, given]
  | list members each =>
    have all : Faithful double? (.array (toJsonList members)) := by
      rw [toJsonList_eq_map]
      exact .map fun member belongs =>
        each member belongs (forall_mem_valuesOfAll.mp restored member belongs)
    refine .tagged _ ?_
    simp [all]

theorem exists_toJson_eq (projection : Projection) :
    ∃ kind fields, projection.toJson = .tagged kind fields ∧ "kind" ∉ fields.map Prod.fst := by
  cases projection <;> exact ⟨_, _, rfl, by simp⟩

theorem toJson_ne_null (projection : Projection) : projection.toJson ≠ .null := by
  obtain ⟨kind, fields, written, -⟩ := projection.exists_toJson_eq
  rw [written]
  exact nofun

theorem ofJson?_toJson {projection : Projection}
    (restored : ∀ value ∈ projection.values, value.Restored double?) :
    ofJson? projection.toJson = some projection := by
  have readable := (faithful_toJson restored).isReadable
  have read := single_node fun value belongs => (restored value belongs).isFinite
  obtain ⟨kind, fields, written, others⟩ := projection.exists_toJson_eq
  rw [written] at readable read
  rw [written, ofJson?, Json.tree?_tagged (fun _ _ => rfl) others readable, read]

end Projection

/-! ## Orders -/

namespace Order

variable {order : Order}

theorem faithful_toJson
    (restored : ∀ value ∈ order.expression.values, value.Restored double?) :
    Faithful double? order.toJson := by
  have given := Expression.faithful_toJson restored
  refine .object ?_
  simp [Faithful.bool, given]

theorem ofJson?_toJson (restored : ∀ value ∈ order.expression.values, value.Restored double?) :
    ofJson? order.toJson = some order := by
  have part := Expression.ofJson?_toJson restored
  simp [toJson, ofJson?, Json.Record.required, Json.Record.optional, part]

end Order

end SqlQuery
