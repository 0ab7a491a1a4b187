import SqlQuery.Postgres.Connection
import SqlQuery.Proofs.Postgres.Segments
import SqlQuery.Proofs.Render.Modes

/-! # What a server gets for a rendered statement

A parameterized statement of a guarded query reaches a server with positions in place of exactly the
placeholders that were written, and each position is bound to the value of its place in the trees.
-/

namespace SqlQuery

open Bindings (automaticName)

namespace Postgres

theorem encodeAll_cons_eq_ok_iff (start : Nat) (value : Value) (type : ColumnType)
    (rest : List (Value × ColumnType)) (bound : List Datum) :
    encodeAll start ((value, type) :: rest) = .ok bound ↔ ∃ datum others, bound = datum :: others ∧
      encode value type = .ok datum ∧ encodeAll (start + 1) rest = .ok others := by
  rw [encodeAll]
  cases encode value type with
  | error cause => simp
  | ok datum =>
    cases encodeAll (start + 1) rest with
    | error index => simp [Bind.bind, Except.bind]
    | ok others => simp [Bind.bind, Except.bind, pure, Except.pure, eq_comm]

theorem encodeAll_eq_ok_iff (start : Nat) (typed : List (Value × ColumnType)) (bound : List Datum) :
    encodeAll start typed = .ok bound ↔
      List.Forall₂ (fun typed datum => encode typed.1 typed.2 = .ok datum) typed bound := by
  induction typed generalizing start bound with
  | nil => simp [encodeAll, eq_comm]
  | cons first rest ih =>
    obtain ⟨value, type⟩ := first
    rw [encodeAll_cons_eq_ok_iff, List.forall₂_cons_left_iff]
    constructor
    · rintro ⟨datum, others, rfl, encoded, tail⟩
      exact ⟨datum, others, encoded, (ih _ _).mp tail, rfl⟩
    · rintro ⟨datum, others, encoded, tail, rfl⟩
      exact ⟨datum, others, rfl, encoded, (ih _ _).mpr tail⟩

/-- The data of values, each in the type that is declared for its position. -/
structure Sends (types : List ColumnType) (values : List Value) (bound : List Datum) : Prop where
  declared : types.length = values.length
  length_eq : bound.length = values.length
  datum : ∀ (place : Nat) value, values[place]? = some value → ∃ type datum,
    types[place]? = some type ∧ bound[place]? = some datum ∧ encode value type = .ok datum

theorem sends_iff {types : List ColumnType} {values : List Value} {bound : List Datum} :
    types.length = values.length ∧ encodeAll 0 (values.zip types) = .ok bound ↔
      Sends types values bound := by
  rw [encodeAll_eq_ok_iff, List.forall₂_iff_get]
  constructor
  · rintro ⟨declared, length, each⟩
    rw [List.length_zip, declared, Nat.min_self] at length
    refine ⟨declared, length.symm, ?_⟩
    intro place value found
    obtain ⟨inside, rfl⟩ := List.getElem?_eq_some_iff.mp found
    have encoded := each place (by simpa [declared] using inside) (length ▸ inside)
    rw [List.get_eq_getElem, List.get_eq_getElem, List.getElem_zip] at encoded
    exact ⟨_, _, List.getElem?_eq_getElem (declared ▸ inside),
      List.getElem?_eq_getElem (length ▸ inside), encoded⟩
  · intro sends
    refine ⟨sends.declared, ?_, ?_⟩
    · rw [List.length_zip, sends.declared, Nat.min_self, sends.length_eq]
    · intro place paired inside
      have inside : place < values.length := sends.length_eq ▸ inside
      obtain ⟨type, datum, declared, bound, encoded⟩ :=
        sends.datum place _ (List.getElem?_eq_getElem inside)
      obtain ⟨_, rfl⟩ := List.getElem?_eq_some_iff.mp declared
      obtain ⟨_, rfl⟩ := List.getElem?_eq_some_iff.mp bound
      rwa [List.get_eq_getElem, List.get_eq_getElem, List.getElem_zip]

/-- A server gets the parameters of a request if it accepts the text and they all can be sent. -/
theorem exchange_bound_iff (server : Server) (marker : String) (request : Request) (text : String)
    (bound : List Datum) :
    (exchange server marker request).2 = some ⟨text, some bound⟩ ↔
      text = (toPositional request.sql marker request.parameters.contains).1 ∧
      Text.hasZero text = false ∧
      ∃ reply, server text = some reply ∧
        Sends reply.parameterTypes
          ((toPositional request.sql marker request.parameters.contains).2.filterMap
            request.parameters.find?) bound := by
  simp only [← sends_iff]
  rw [exchange]
  obtain ⟨sql, names⟩ := toPositional request.sql marker request.parameters.contains
  dsimp only
  constructor
  · intro got
    split at got
    · contradiction
    · rename_i sendable
      split at got
      · simp at got
      · rename_i reply accepted
        split at got
        · simp at got
        · rename_i declared
          split at got
          · simp at got
          · rename_i data encoded
            obtain ⟨rfl, rfl⟩ : sql = text ∧ data = bound := by simpa using got
            exact ⟨rfl, by simpa using sendable, reply, accepted, not_not.mp declared, encoded⟩
  · rintro ⟨rfl, sendable, reply, accepted, declared, encoded⟩
    simp [sendable, accepted, declared, encoded]

theorem quiet_now {marker : List Char} (isMarker : IsMarker marker) :
    Quiet marker "datetime('now')".toList := by
  have call : Quiet marker "datetime(".toList := quiet_of_isBasic isMarker rfl
  have literal : Quiet marker "'now'".toList := quiet_quoteCharacters (.inl rfl) "now".toList
  have close : Quiet marker ")".toList := quiet_of_isBasic isMarker rfl
  exact (call.append literal).append close

end Postgres

theorem DialectKind.isMarker (kind : DialectKind) :
    Postgres.IsMarker kind.dialect.marker.toList := by
  cases kind with
  | generic | sqlserver => exact ⟨'@', [], rfl, by decide, by decide, by decide⟩
  | postgres | mysql | sqlite => exact ⟨':', [], rfl, by decide, by decide, by decide⟩

theorem DialectKind.regular_quiet (kind : DialectKind) :
    kind.dialect.Regular fun text => Postgres.Quiet kind.dialect.marker.toList text.toList :=
  kind.regular (fun _ basic => Postgres.quiet_of_isBasic kind.isMarker basic)
    (Postgres.quiet_now kind.isMarker)

theorem DialectKind.closeQuote_of_openQuote {kind : DialectKind}
    (quotes : kind.dialect.openQuote = '"') : kind.dialect.closeQuote = '"' := by
  cases kind with
  | generic | postgres | sqlite => rfl
  | mysql | sqlserver => contradiction

/-- An operator without quotation marks and without characters of the marker. -/
def Dialect.IsPlainOperator (dialect : Dialect) (operator : String) : Prop :=
  ∀ c ∈ operator.toList, c ≠ '\'' ∧ c ≠ '"' ∧ c ∉ dialect.marker.toList

theorem Dialect.IsPlainOperator.quiet {dialect : Dialect} {operator : String}
    (isMarker : Postgres.IsMarker dialect.marker.toList) (plain : dialect.IsPlainOperator operator) :
    Postgres.Quiet dialect.marker.toList (" " ++ operator ++ " ").toList := by
  have space : Postgres.Quiet dialect.marker.toList " ".toList :=
    Postgres.quiet_of_isBasic isMarker rfl
  rw [String.toList_append, String.toList_append]
  refine (space.append (Postgres.quiet_of_forall ?_)).append space
  intro c member
  obtain ⟨single, double, unmarked⟩ := plain c member
  exact ⟨single, double, fun head => unmarked (List.mem_of_mem_head? head)⟩

/-- The parameters hold the value of each hole under its name. -/
theorem Bindings.Automatic.filterMap_find? {bindings : Bindings} {template : Template}
    (held : bindings.Automatic template.values) :
    (template.holes.map fun hole => automaticName hole.1).filterMap bindings.values.find? =
      template.holes.map (·.2) := by
  rw [List.filterMap_map, ← List.filterMap_eq_map]
  apply List.filterMap_congr
  intro hole member
  exact (held.find_automaticName hole.1).trans (Template.getElem?_of_mem_holesFrom member).2

namespace Query

variable {query : Query}

/-- The statement of a guarded query reaches a server with the `k`-th placeholder left in the text as
`$k`, and the server gets the value of that place as the `k`-th parameter. Whatever the names of the
query look like, they stay as they are. -/
theorem exchange_of_guarded {kind : DialectKind} (builtIn : query.dialect = kind.dialect)
    (quotes : query.dialect.openQuote = '"')
    (guarded : query.Guarded query.dialect.IsPlainOperator) (mode : query.parameterized = true)
    (statement : StatementKind) {sql : String} (rendered : (query.render statement).1 = .ok sql) :
    let template := (query.draft statement).pieces
    let parameters := (query.render statement).2.parameters
    let names := template.holes.map fun hole => automaticName hole.1
    let text := template.shown.fill query.dialect fun place _ => "$" ++ toString (place + 1)
    sql = template.fill query.dialect
        (fun index _ => query.dialect.marker ++ automaticName index) ∧
      (∀ hole ∈ template.holes, parameters.find? (automaticName hole.1) = some hole.2) ∧
      template.holes.Pairwise (fun hole later => hole.1 < later.1) ∧ names.Nodup ∧
      Postgres.toPositional sql query.dialect.marker parameters.contains = (text, names) ∧
      ∀ (server : Postgres.Server) (target : Option Target) (prepared : String)
        (bound : List Postgres.Datum),
        (Postgres.exchange server query.dialect.marker ⟨target, sql, parameters⟩).2 =
            some ⟨prepared, some bound⟩ ↔
          prepared = text ∧ Text.hasZero prepared = false ∧ ∃ reply, server prepared = some reply ∧
            Postgres.Sends reply.parameterTypes (template.holes.map (·.2)) bound := by
  intro template parameters names text
  obtain ⟨complete, written, after, values, held⟩ := query.of_render_parameterized mode rendered
  have same : parameters = after.values := values.symm
  have isMarker : Postgres.IsMarker query.dialect.marker.toList := builtIn ▸ kind.isMarker
  have closing : query.dialect.closeQuote = '"' := by
    rw [builtIn] at quotes ⊢
    exact kind.closeQuote_of_openQuote quotes
  have tidy := guarded.tidy_draft (builtIn ▸ kind.regular_quiet)
    (fun _ plain => plain.quiet isMarker) statement complete
  have found : ∀ hole ∈ template.holes, parameters.find? (automaticName hole.1) = some hole.2 := by
    intro hole member
    rw [same, held.find_automaticName]
    exact (Template.getElem?_of_mem_holesFrom member).2
  have increasing := Template.pairwise_holesFrom 0 template
  have distinct : names.Nodup := by
    refine List.Pairwise.map _ ?_ increasing
    intro hole later before equal
    have := Bindings.automaticName_injective equal
    omega
  have bound : ∀ index < template.values.length, parameters.contains (automaticName index) := by
    intro index before
    rw [same, Dictionary.contains, held.find_automaticName, List.getElem?_eq_getElem before]
    rfl
  have positions : Postgres.toPositional sql query.dialect.marker parameters.contains =
      (text, names) := by
    rw [written]
    exact Postgres.toPositional_fill isMarker quotes closing tidy bound
  refine ⟨written, found, increasing, distinct, positions, ?_⟩
  intro server target prepared data
  have sent : names.filterMap parameters.find? = template.holes.map (·.2) := by
    rw [same]
    exact held.filterMap_find?
  rw [Postgres.exchange_bound_iff, positions, sent]

/-- The argument of `now` is bound, but not sent. -/
theorem exchange_people : ∃ sql,
    ((people .sqlite (.int 30) "O'Neil").render .full).1 = .ok sql ∧
    (Postgres.toPositional sql ":"
      ((people .sqlite (.int 30) "O'Neil").render .full).2.parameters.contains).2 =
        ["p_0", "p_1"] := by
  obtain ⟨complete, names⟩ : ((people .sqlite (.int 30) "O'Neil").draft .full).failure = none ∧
      ((people .sqlite (.int 30) "O'Neil").draft .full).pieces.holes.map
        (fun hole => automaticName hole.1) = ["p_0", "p_1"] := by decide +kernel
  have rendered := (people .sqlite (.int 30) "O'Neil").render_of_complete rfl complete
  have greater : DialectKind.sqlite.dialect.IsPlainOperator ">" := by
    simp [Dialect.IsPlainOperator, DialectKind.dialect]
  have less : DialectKind.sqlite.dialect.IsPlainOperator "<" := by
    simp [Dialect.IsPlainOperator, DialectKind.dialect]
  have guarded := people_guarded greater less .sqlite (.int 30) "O'Neil"
  obtain ⟨-, -, -, -, positions, -⟩ := exchange_of_guarded
    (rfl : _ = DialectKind.sqlite.dialect) rfl guarded rfl .full rendered
  refine ⟨_, rendered, ?_⟩
  rw [show ":" = (people .sqlite (.int 30) "O'Neil").dialect.marker from rfl, positions]
  dsimp only
  exact names

end Query

end SqlQuery
