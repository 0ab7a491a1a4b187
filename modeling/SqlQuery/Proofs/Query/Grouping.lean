import SqlQuery.Proofs.Query.Guarded
import SqlQuery.Proofs.Render.Effects
import SqlQuery.Proofs.Render.Leaves
import SqlQuery.Proofs.Render.Markers
import SqlQuery.Proofs.Render.Shown

/-! # Groupings

A select is grouped by the leaves of its projection that are marked. Its text is that of the select
without marks, with the terms of the grouping after it if there is a mark. Each term is rendered anew,
after all that the select has bound. So it repeats what the select list shows for its leaf, the alias
aside, unless a bound value has a place in it: then the two name different parameters.
-/

namespace SqlQuery

/-! ## Renderings that succeed -/

namespace Rendering

variable {α β : Type}

/-- A rendering that succeeds from any bindings. -/
def Succeeds (rendering : Rendering α) : Prop :=
  ∀ before, ∃ result after, rendering.run before = (.ok result, after)

theorem succeeds_mapM {render : β → Rendering α} {members : List β}
    (each : ∀ member ∈ members, (render member).Succeeds) : (members.mapM render).Succeeds := by
  induction members with
  | nil => exact fun before => ⟨[], before, rfl⟩
  | cons first rest ih =>
    obtain ⟨head, tail⟩ := List.forall_mem_cons.mp each
    intro before
    obtain ⟨result, between, ran⟩ := head before
    obtain ⟨results, after, ran'⟩ := ih tail between
    rw [List.mapM_cons, run_bind_ok ran, run_bind_ok ran']
    exact ⟨_, _, rfl⟩

end Rendering

/-- Whether a draft can be rendered to its end does not depend on the bindings, named ones included. -/
theorem Draft.Complete.succeeds {draft : Draft} {renderer : Renderer}
    (complete : draft.Complete renderer) : (draft.render renderer).Succeeds := by
  intro before
  cases mode : renderer.parameterized with
  | true =>
    obtain ⟨outcome, numbers, after, run, failed, -⟩ := draft.exists_run_gains renderer before mode
    cases outcome with
    | ok text => exact ⟨text, after, run⟩
    | error cause => cases complete.failure.symm.trans ((failed cause).mp rfl)
  | false =>
    obtain ⟨texts, all⟩ := (renderer.mapM_literal_eq_ok_iff _).mpr (complete.literals mode)
    rw [Draft.render, Template.render_literal renderer mode _ 0, all, complete.failure]
    exact ⟨_, before, rfl⟩

theorem Bindings.Automatic.size_le {before after : Bindings} {values more : List Value}
    (automatic : before.Automatic values) (later : after.Automatic (values ++ more)) :
    before.values.size ≤ after.values.size := by
  rw [automatic.size_eq, later.size_eq, List.length_append]
  exact Nat.le_add_right ..

namespace Projection

/-! ## Aliases -/

def label? : Projection → Option String
  | aggregate _ _ _ label _ | rowCount label | property _ label _ | expression _ label => label
  | list _ => none

/-- A projection without its alias; a list has none. -/
def unlabelled : Projection → Projection
  | aggregate function argument distinct _ grouped =>
    aggregate function argument distinct none grouped
  | rowCount _ => rowCount none
  | property field _ grouped => property field none grouped
  | expression inner _ => expression inner none
  | list members => list members

theorem render_eq_unlabelled (renderer : Renderer) (projection : Projection) :
    projection.render renderer = (do
      let text ← projection.unlabelled.render renderer
      return renderer.aliased text projection.label?) := by
  cases projection <;>
    simp [unlabelled, label?, render, renderCall, Renderer.aliased]

theorem renderAll_eq_unlabelled (renderer : Renderer) (projections : List Projection) :
    renderAll renderer projections = (do
      let texts ← renderAll renderer (projections.map unlabelled)
      return (projections.zip texts).map fun selection =>
        renderer.aliased selection.2 selection.1.label?) := by
  induction projections with
  | nil => rfl
  | cons first rest ih =>
    simp only [renderAll, List.map_cons, ih, render_eq_unlabelled renderer first, bind_assoc,
      pure_bind, List.zip_cons_cons]

/-- A marked leaf is grouped by what it selects, without its alias. -/
theorem renderGroup_of_isMarked (renderer : Renderer) {leaf : Projection}
    (marked : leaf.isMarked = true) :
    leaf.renderGroup renderer = leaf.unlabelled.render renderer := by
  cases leaf with
  | aggregate function argument distinct label grouped =>
    obtain rfl : grouped = true := marked
    rfl
  | property field label grouped =>
    obtain rfl : grouped = true := marked
    rfl
  | rowCount | expression | list => cases marked

theorem shows_unlabelled (dialect : Dialect) (table : Option Table) {leaf : Projection}
    (marked : leaf.isMarked = true) :
    (leaf.unlabelled.draft dialect table).Shows (leaf.showsValue dialect) := by
  cases leaf with
  | aggregate function argument distinct label grouped =>
    refine .lookupLast function ?_
    rw [draftArgument]
    split
    · exact (argument.shows_draft dialect table).opening "distinct "
    · exact argument.shows_draft dialect table
  | property field label grouped => exact .field table field
  | rowCount | expression | list => cases marked

/-- A leaf that is rendered somewhere can be grouped by anywhere. -/
theorem succeeds_renderGroup {renderer : Renderer} {leaf : Projection}
    (marked : leaf.isMarked = true) {before after : Bindings} {text : String}
    (run : (leaf.render renderer).run before = (.ok text, after)) :
    (leaf.renderGroup renderer).Succeeds := by
  rw [render_eq_unlabelled, leaf.unlabelled.render_eq] at run
  obtain ⟨_, _, ran, -⟩ := Rendering.exists_of_run_bind run
  rw [renderGroup_of_isMarked renderer marked, leaf.unlabelled.render_eq]
  exact (Draft.Complete.of_run ran).succeeds

/-! ## Marks -/

mutual

/-- The same selection with nothing marked as grouped. -/
def unmarked : Projection → Projection
  | aggregate function argument distinct label _ => aggregate function argument distinct label false
  | property field label _ => property field label false
  | rowCount label => rowCount label
  | expression inner label => expression inner label
  | list members => list (unmarkedAll members)

def unmarkedAll : List Projection → List Projection
  | [] => []
  | projection :: rest => projection.unmarked :: unmarkedAll rest

end

theorem unmarkedAll_eq_map (projections : List Projection) :
    unmarkedAll projections = projections.map unmarked := by
  induction projections with
  | nil => rfl
  | cons first rest ih => rw [unmarkedAll, ih, List.map_cons]

theorem isGrouped_unmarked (projection : Projection) : projection.unmarked.isGrouped = false := by
  induction projection with
  | aggregate | rowCount | property | expression => rfl
  | list members each =>
    rw [unmarked, isGrouped, anyGrouped_eq_any, unmarkedAll_eq_map, List.any_map, List.any_eq_false]
    exact fun member belongs => Bool.eq_false_iff.mp (each member belongs)

/-- Marks do not change the select list. -/
theorem draft_unmarked (dialect : Dialect) (table : Option Table) (projection : Projection) :
    projection.unmarked.draft dialect table = projection.draft dialect table := by
  induction projection with
  | aggregate | rowCount | property | expression => rfl
  | list members each =>
    rw [unmarked, draft, draft, draftAll_eq_map, draftAll_eq_map, unmarkedAll_eq_map, List.map_map]
    exact congrArg _ (List.map_congr_left each)

theorem render_unmarked (renderer : Renderer) (projection : Projection) :
    projection.unmarked.render renderer = projection.render renderer := by
  rw [render_eq, render_eq, draft_unmarked]

/-! ## Terms beside selections -/

section

variable {renderer : Renderer} {before after before' after' : Bindings}
  {texts terms : List String} {values values' : List Value}

theorem automatic_of_run_renderAll {projections : List Projection}
    (automatic : before.Automatic values)
    (run : (renderAll renderer projections).run before = (.ok texts, after)) :
    ∃ more, after.Automatic (values ++ more) := by
  induction projections generalizing before values texts with
  | nil =>
    cases run
    exact ⟨[], by simpa using automatic⟩
  | cons first rest ih =>
    obtain ⟨text, between, ran, others⟩ := Rendering.exists_of_run_bind run
    obtain ⟨remaining, last, ran', ended⟩ := Rendering.exists_of_run_bind others
    cases ended
    rw [first.render_eq] at ran
    obtain ⟨more, held⟩ := ih (Draft.Complete.automatic_of_run automatic ran) ran'
    exact ⟨_, by simpa only [List.append_assoc] using held⟩

/-- The terms of a grouping beside the texts that the select list shows for its leaves. The induction
is on the leaves; its invariant is that the grouping counts from a number that the select list does
not reach. -/
theorem forall₂_terms {leaves : List Projection} (automatic : before.Automatic values)
    (run : (renderAll renderer (leaves.map unlabelled)).run before = (.ok texts, after))
    (automatic' : before'.Automatic values')
    (run' : ((leaves.filter isMarked).mapM (renderGroup renderer)).run before' =
      (.ok terms, after'))
    (marker_eq : before'.marker = before.marker)
    (later : after.values.size ≤ before'.values.size) :
    List.Forall₂
      (fun selection term => term = selection.2 ↔
        renderer.parameterized = false ∨ selection.1.showsValue renderer.dialect = false)
      ((leaves.zip texts).filter fun selection => selection.1.isMarked) terms := by
  induction leaves generalizing before before' values values' texts terms with
  | nil =>
    cases run'
    exact .nil
  | cons leaf rest ih =>
    obtain ⟨text, between, ran, others⟩ := Rendering.exists_of_run_bind run
    obtain ⟨remaining, last, onward, ended⟩ := Rendering.exists_of_run_bind others
    cases ended
    rw [leaf.unlabelled.render_eq] at ran
    have held := Draft.Complete.automatic_of_run automatic ran
    have keeps : between.marker = before.marker := by
      rw [← Draft.keepsMarker_render renderer (leaf.unlabelled.draft _ _) before, ran]
    have reached : between.values.size ≤ after.values.size := by
      obtain ⟨more, whole⟩ := automatic_of_run_renderAll held onward
      exact held.size_le whole
    rw [List.zip_cons_cons, List.filter_cons]
    rw [List.filter_cons] at run'
    cases marked : leaf.isMarked with
    | false =>
      simp only [marked, Bool.false_eq_true, if_false] at run' ⊢
      exact ih held onward automatic' run' (marker_eq.trans keeps.symm) later
    | true =>
      simp only [marked, if_true, List.mapM_cons] at run' ⊢
      obtain ⟨term, between', ran', others'⟩ := Rendering.exists_of_run_bind run'
      obtain ⟨remaining', last', onward', ended'⟩ := Rendering.exists_of_run_bind others'
      cases ended'
      rw [renderGroup_of_isMarked renderer marked, leaf.unlabelled.render_eq] at ran'
      have held' := Draft.Complete.automatic_of_run automatic' ran'
      have keeps' : between'.marker = before'.marker := by
        rw [← Draft.keepsMarker_render renderer (leaf.unlabelled.draft _ _) before', ran']
      have grown := automatic'.size_le held'
      refine .cons ?_ (ih held onward held' onward' ?_ (Nat.le_trans later grown))
      · exact Draft.text_eq_iff (shows_unlabelled _ _ marked) automatic ran automatic' ran'
          marker_eq (Nat.le_trans reached later)
      · rw [keeps, keeps', marker_eq]

end

end Projection

/-! ## Statements -/

namespace Query

variable (query : Query) (projection : Projection)

/-- The clause of a grouping, if there is a grouping. -/
def groupClause (grouped : Bool) (terms : List String) : String :=
  if grouped then " GROUP BY " ++ ", ".intercalate terms else ""

theorem groupText_setProjection :
    (query.setProjection projection).groupText = (do
      let terms ← projection.markedLeaves.mapM (Projection.renderGroup query.renderer)
      return groupClause projection.isGrouped terms) := by
  change (if projection.isGrouped then _ else _) = _
  cases grouped : projection.isGrouped with
  | true =>
    simp only [if_true, groupClause, Projection.renderGroup_eq_markedLeaves, bind_assoc, pure_bind]
    rfl
  | false =>
    have unmarked : projection.markedLeaves = [] := by
      by_contra marked
      rw [projection.isGrouped_iff_markedLeaves.mpr marked] at grouped
      contradiction
    rw [unmarked]
    rfl

theorem groupText_unmarked : (query.setProjection projection.unmarked).groupText = pure "" := by
  change (if projection.unmarked.isGrouped then _ else _) = _
  rw [projection.isGrouped_unmarked]
  rfl

theorem selectText_setProjection (table : Table) :
    (query.setProjection projection).selectText table = (do
      let columns ← projection.render query.renderer
      return "SELECT " ++ columns ++ " FROM " ++
        table.qualifiedName query.dialect query.catalog query.schema) := rfl

/-- The select list, from the texts of the leaves without their aliases. -/
theorem selectText_eq_leaves (table : Table) :
    (query.setProjection projection).selectText table = (do
      let texts ← Projection.renderAll query.renderer (projection.leaves.map Projection.unlabelled)
      return "SELECT " ++ ", ".intercalate (Projection.items projection.slots
        ((projection.leaves.zip texts).map fun selection =>
          query.renderer.aliased selection.2 selection.1.label?)) ++ " FROM " ++
        table.qualifiedName query.dialect query.catalog query.schema) := by
  rw [selectText_setProjection, Projection.render_eq_leaves, Projection.renderAll_eq_unlabelled]
  simp only [bind_assoc, pure_bind]

theorem selectText_unmarked (table : Table) :
    (query.setProjection projection.unmarked).selectText table =
      (query.setProjection projection).selectText table := by
  rw [selectText_setProjection, selectText_setProjection, projection.render_unmarked]

theorem table_setProjection : (query.setProjection projection).table = query.table := rfl

/-- The select is rendered as the select without marks, and then the terms of its grouping. -/
theorem selectStatement_setProjection :
    (query.setProjection projection).selectStatement = (do
      let base ← (query.setProjection projection.unmarked).selectStatement
      let terms ← projection.markedLeaves.mapM (Projection.renderGroup query.renderer)
      return base ++ groupClause projection.isGrouped terms) := by
  rw [selectStatement, selectStatement, table_setProjection, table_setProjection]
  cases query.table with
  | none => rfl
  | some table =>
    dsimp only
    rw [groupText_unmarked, selectText_unmarked, groupText_setProjection]
    simp only [bind_assoc, pure_bind, String.append_empty, String.append_assoc]
    rfl

/-- The bindings that the select without marks leaves. -/
def bindingsBefore : Bindings :=
  { marker := query.dialect.marker
    values := ((query.setProjection projection.unmarked).render .select).2.parameters }

/-- A select made of the select without marks and the clause of its grouping. The terms are rendered
one after another, after all that the select without marks binds. -/
structure GroupsBy (base : String) (terms : List String) (select : String) : Prop where
  base_eq : ((query.setProjection projection.unmarked).render .select).1 = .ok base
  terms_eq : ∃ after : Bindings,
    (projection.markedLeaves.mapM (Projection.renderGroup query.renderer)).run
      (query.bindingsBefore projection) = (.ok terms, after) ∧
    after.values = ((query.setProjection projection).render .select).2.parameters
  select_eq : select = base ++ groupClause projection.isGrouped terms

/-- A select without marks that shows some leaves, each with its text in the list, and with its alias
there. -/
structure Selects (selections : List (Projection × String)) (select : String) : Prop where
  leaves_eq : selections.map Prod.fst = projection.leaves
  texts_eq : ∃ after, (Projection.renderAll query.renderer
      (projection.leaves.map Projection.unlabelled)).run query.freshBindings =
    (.ok (selections.map Prod.snd), after)
  select_eq : ∃ clauses, select = "SELECT " ++ ", ".intercalate
      (Projection.items projection.slots (selections.map fun selection =>
        query.renderer.aliased selection.2 selection.1.label?)) ++ " FROM " ++ clauses

variable {query projection} {select : String}

theorem bindingsBefore_eq {base : String} {between : Bindings}
    (ran : (query.setProjection projection.unmarked).selectStatement.run query.freshBindings =
      (.ok base, between)) :
    query.bindingsBefore projection = between ∧
      ((query.setProjection projection.unmarked).render .select).1 = .ok base := by
  have rendered := (query.setProjection projection.unmarked).compile_of_run ran
  have keeps : between.marker = query.dialect.marker := by
    rw [selectStatement_eq] at ran
    have kept := Draft.keepsMarker_render query.renderer
      (query.setProjection projection.unmarked).draftSelect query.freshBindings
    exact (congrArg (·.2.marker) ran).symm.trans kept
  rw [bindingsBefore, render, toSelectSql, rendered, ← keeps]
  exact ⟨rfl, rfl⟩

theorem exists_groupsBy
    (rendered : ((query.setProjection projection).render .select).1 = .ok select) :
    ∃ base terms, query.GroupsBy projection base terms select := by
  obtain ⟨after, ran⟩ := (query.setProjection projection).exists_run_of_compile rendered
  have parameters : ((query.setProjection projection).render .select).2.parameters = after.values := by
    rw [render, toSelectSql, (query.setProjection projection).compile_of_run ran]
  rw [selectStatement_setProjection] at ran
  obtain ⟨base, between, ran_base, rest⟩ := Rendering.exists_of_run_bind ran
  obtain ⟨terms, last, ran_terms, ended⟩ := Rendering.exists_of_run_bind rest
  cases ended
  obtain ⟨before, based⟩ := bindingsBefore_eq ran_base
  rw [← before] at ran_terms
  exact ⟨base, terms, based, ⟨_, ran_terms, parameters.symm⟩, rfl⟩

end Query

namespace Projection

/-- A projection is grouped if and only if one of its leaves is marked. Its grouping is made of those
leaves alone, one after another. A select with the projection has a grouping behind the select without
marks if and only if the projection is grouped. -/
theorem grouping_of_marked_leaves (projection : Projection) :
    (projection.isGrouped = true ↔ ∃ leaf ∈ projection.leaves, leaf.isMarked = true) ∧
    (∀ renderer, projection.renderGroup renderer = (do
      let texts ← projection.markedLeaves.mapM (renderGroup renderer)
      return ", ".intercalate texts)) ∧
    (∀ renderer before,
      (∀ leaf ∈ projection.leaves, leaf.isMarked = true →
        ∃ start text after, (leaf.render renderer).run start = (.ok text, after)) →
      ∃ texts after,
        (projection.markedLeaves.mapM (renderGroup renderer)).run before = (.ok texts, after) ∧
        (projection.renderGroup renderer).run before = (.ok (", ".intercalate texts), after)) ∧
    ∀ (query : Query) (select : String),
      ((query.setProjection projection).render .select).1 = .ok select →
      ∃ base terms, query.GroupsBy projection base terms select ∧
        ((∃ clause, select = base ++ " GROUP BY " ++ clause) ↔ projection.isGrouped = true) := by
  refine ⟨?_, (renderGroup_eq_markedLeaves · projection), ?_, ?_⟩
  · rw [isGrouped_iff_markedLeaves, markedLeaves, Ne, List.filter_eq_nil_iff]
    simp
  · intro renderer before renders
    have succeeds : ∀ leaf ∈ projection.markedLeaves, (leaf.renderGroup renderer).Succeeds := by
      intro leaf member
      obtain ⟨inside, marked⟩ := List.mem_filter.mp member
      obtain ⟨_, _, _, run⟩ := renders leaf inside marked
      exact succeeds_renderGroup marked run
    obtain ⟨texts, after, run⟩ := Rendering.succeeds_mapM succeeds before
    refine ⟨texts, after, run, ?_⟩
    rw [renderGroup_eq_markedLeaves, Rendering.run_bind_ok run]
    rfl
  · intro query select rendered
    obtain ⟨base, terms, groups⟩ := Query.exists_groupsBy rendered
    refine ⟨base, terms, groups, ?_⟩
    rw [groups.select_eq, Query.groupClause]
    cases projection.isGrouped with
    | true => exact iff_of_true ⟨_, by rw [if_pos rfl, String.append_assoc]⟩ rfl
    | false =>
      refine iff_of_false ?_ Bool.false_ne_true
      rintro ⟨clause, same⟩
      have lengths := congrArg String.length same
      simp only [Bool.false_eq_true, if_false, String.append_empty, String.length_append] at lengths
      have word : " GROUP BY ".length = 10 := rfl
      omega

/-- Two marked leaves below an empty list, a value and an unmarked field. -/
theorem grouping_of_nested :
    let renderer : Renderer :=
      { dialect := DialectKind.postgres.dialect, table := some ⟨"people", [⟨"id", "id"⟩]⟩ }
    let query : Query :=
      { target := .named "Person", table := renderer.table, dialect := renderer.dialect
        catalog := none, schema := none }
    let projection := list [list [], list [property "id" (some "key") true,
      expression (.value (.int 1)) none], property "id" none false, list [property "age" none true]]
    let before := (Bindings.bind { marker := ":" } (.int 0)).2
    projection.isGrouped = true ∧
      (∃ texts after,
        (projection.markedLeaves.mapM (renderGroup renderer)).run before = (.ok texts, after) ∧
        (projection.renderGroup renderer).run before = (.ok (", ".intercalate texts), after)) ∧
      ∃ select base clause, ((query.setProjection projection).render .select).1 = .ok select ∧
        select = base ++ " GROUP BY " ++ clause := by
  intro renderer query projection before
  obtain ⟨marked, -, grouping, grouped⟩ := grouping_of_marked_leaves projection
  have some_marked : projection.isGrouped = true :=
    marked.mpr ⟨property "id" (some "key") true, by simp [projection, leaves, leavesOfAll], rfl⟩
  have renders : ∀ leaf ∈ projection.leaves, leaf.isMarked = true →
      ∃ start text after, (leaf.render renderer).run start = (.ok text, after) := by
    intro leaf member isMarked
    cases leaf with
    | property => exact ⟨before, _, _, rfl⟩
    | aggregate | rowCount | list => simp [projection, leaves, leavesOfAll] at member
    | expression => cases isMarked
  obtain ⟨select, rendered⟩ :=
    ((query.setProjection projection).exists_render_eq_ok_iff .select).mpr (by decide +kernel)
  obtain ⟨base, -, -, clause⟩ := grouped query select rendered
  obtain ⟨text, written⟩ := clause.mpr some_marked
  exact ⟨some_marked, grouping renderer before renders, select, base, text, rendered, written⟩

end Projection

namespace Query

variable {query : Query} {projection : Projection}

theorem automatic_bindingsBefore {base : String}
    (based : ((query.setProjection projection.unmarked).render .select).1 = .ok base) :
    ∃ values, (query.bindingsBefore projection).Automatic values := by
  obtain ⟨between, ran⟩ := (query.setProjection projection.unmarked).exists_run_of_compile based
  rw [(bindingsBefore_eq ran).1]
  rw [selectStatement_eq] at ran
  exact ⟨_, Draft.Complete.automatic_of_run (.fresh _) ran⟩

/-- A select without marks shows the leaves first, and binds their values before all others. -/
theorem exists_selects {base : String}
    (based : ((query.setProjection projection.unmarked).render .select).1 = .ok base) :
    ∃ (texts : List String) (middle : Bindings),
      (Projection.renderAll query.renderer (projection.leaves.map Projection.unlabelled)).run
        query.freshBindings = (.ok texts, middle) ∧
      middle.values.size ≤ (query.bindingsBefore projection).values.size ∧
      query.Selects projection (projection.leaves.zip texts) base := by
  obtain ⟨between, ran⟩ := (query.setProjection projection.unmarked).exists_run_of_compile based
  rw [(bindingsBefore_eq ran).1]
  rw [selectStatement, table_setProjection] at ran
  cases mapped : query.table with
  | none =>
    rw [mapped] at ran
    cases ran
  | some table =>
    rw [mapped] at ran
    dsimp only at ran
    rw [groupText_unmarked, selectText_unmarked, selectText_eq_leaves] at ran
    obtain ⟨head, middle, ran_head, rest⟩ := Rendering.exists_of_run_bind ran
    obtain ⟨texts, _, ran_texts, ended⟩ := Rendering.exists_of_run_bind ran_head
    cases ended
    obtain ⟨conditions, _, ran_conditions, ended⟩ := Rendering.exists_of_run_bind rest
    cases ended
    have fresh : query.freshBindings.Automatic [] := .fresh _
    obtain ⟨values, held⟩ := Projection.automatic_of_run_renderAll fresh ran_texts
    rw [whereText_eq] at ran_conditions
    have later := Draft.Complete.automatic_of_run held ran_conditions
    have each : texts.length = projection.leaves.length := by
      rw [Projection.length_of_run_renderAll ran_texts, List.length_map]
    let name := table.qualifiedName query.dialect query.catalog query.schema
    refine ⟨texts, middle, ran_texts, held.size_le later, ?_, ⟨middle, ?_⟩, ⟨name ++ conditions, ?_⟩⟩
    · exact List.map_fst_zip (Nat.le_of_eq each.symm)
    · rw [List.map_snd_zip (Nat.le_of_eq each)]
      exact ran_texts
    · simp only [String.append_assoc, String.append_empty]
      rfl

/-- Each statement holds the select. -/
theorem exists_select_of_render (query : Query) {kind : StatementKind} {sql : String}
    (rendered : (query.render kind).1 = .ok sql) :
    ∃ select opening closing, (query.render .select).1 = .ok select ∧
      sql = opening ++ select ++ closing := by
  cases kind with
  | select => exact ⟨sql, "", "", rendered, by simp⟩
  | count =>
    rw [render_count] at rendered
    cases selected : (query.render .select).1 with
    | error cause => simp [selected, Except.map] at rendered
    | ok select =>
      rw [selected] at rendered
      exact ⟨select, _, ") t", rfl, (Except.ok.inj rendered).symm⟩
  | full =>
    obtain ⟨select, order, core, whole, ran, -, -, suffix, eq⟩ :=
      query.exists_of_render_full rendered
    refine ⟨select, "", suffix, ?_, by simpa using eq⟩
    rw [render, toSelectSql, query.compile_of_run ran]

/-- Where a projection is grouped, each term of the grouping repeats what the select list shows for its
leaf, the alias aside, if and only if values are inlined or the leaf shows none. -/
theorem group_terms_repeat_iff (grouped : projection.isGrouped = true) {kind : StatementKind}
    {sql : String} (rendered : ((query.setProjection projection).render kind).1 = .ok sql) :
    ∃ select opening closing base terms selections, sql = opening ++ select ++ closing ∧
      select = base ++ " GROUP BY " ++ ", ".intercalate terms ∧
      query.GroupsBy projection base terms select ∧
      query.Selects projection selections base ∧
      List.Forall₂
        (fun selection term => term = selection.2 ↔
          query.parameterized = false ∨ selection.1.showsValue query.dialect = false)
        (selections.filter fun selection => selection.1.isMarked) terms := by
  obtain ⟨select, opening, closing, selected, held⟩ := exists_select_of_render _ rendered
  obtain ⟨base, terms, groups⟩ := exists_groupsBy selected
  obtain ⟨texts, middle, ran_texts, reached, selects⟩ := exists_selects groups.base_eq
  have written : select = base ++ " GROUP BY " ++ ", ".intercalate terms := by
    rw [groups.select_eq, groupClause, if_pos grouped, String.append_assoc]
  refine ⟨select, opening, closing, base, terms, _, held, written, groups, selects, ?_⟩
  obtain ⟨after, ran_terms, -⟩ := groups.terms_eq
  obtain ⟨values, bound⟩ := automatic_bindingsBefore groups.base_eq
  exact Projection.forall₂_terms (.fresh _) ran_texts bound ran_terms rfl reached

/-- A name, which is repeated, and a difference, which is not. -/
theorem group_terms_of_people :
    let name : Projection := .property "name" (some "n") true
    let left : Projection :=
      .aggregate "abs" (.simple (.field "age") "-" (.value (.int 18))) false (some "left") true
    let query : Query :=
      { target := .named "Person", table := some ⟨"people", [⟨"name", "name"⟩, ⟨"age", "age"⟩]⟩
        dialect := DialectKind.postgres.dialect, catalog := none, schema := some "hr"
        window := { limit := some 10 } }
    ∃ sql select opening closing base shown shown' term term',
      ((query.setProjection (.list [name, left])).render .full).1 = .ok sql ∧
      sql = opening ++ select ++ closing ∧
      select = base ++ " GROUP BY " ++ ", ".intercalate [term, term'] ∧
      query.Selects (.list [name, left]) [(name, shown), (left, shown')] base ∧
      term = shown ∧ term' ≠ shown' := by
  intro name left query
  obtain ⟨sql, rendered⟩ := ((query.setProjection (.list [name, left])).exists_render_eq_ok_iff
    .full).mpr (by decide +kernel)
  have grouped : (Projection.list [name, left]).isGrouped = true := rfl
  have marked : name.isMarked = true ∧ left.isMarked = true := ⟨rfl, rfl⟩
  have hides : name.showsValue query.dialect = false := rfl
  have shows : left.showsValue query.dialect = true := by decide +kernel
  obtain ⟨select, opening, closing, base, terms, selections, held, written, -, selects, each⟩ :=
    group_terms_repeat_iff grouped rendered
  have leaves : selections.map Prod.fst = [name, left] := selects.leaves_eq
  -- From here on only the marks of the two leaves count, and what they show.
  clear_value name left
  obtain ⟨⟨_, shown⟩, _, rfl, rfl, others⟩ := List.map_eq_cons_iff.mp leaves
  obtain ⟨⟨_, shown'⟩, _, rfl, rfl, none⟩ := List.map_eq_cons_iff.mp others
  obtain rfl := List.map_eq_nil_iff.mp none
  simp only [List.filter_cons, marked, if_true, List.filter_nil] at each
  obtain _ | ⟨repeats, _ | ⟨differs, _ | _⟩⟩ := each
  refine ⟨sql, select, opening, closing, base, shown, shown', _, _, rendered, held, written, selects,
    repeats.mpr (.inr hides), fun equal => ?_⟩
  have hidden := (differs.mp equal).resolve_left (by decide)
  exact absurd (shows.symm.trans hidden) (by decide)

/-- An age with a bound value is grouped by under another parameter than it is selected with. -/
theorem bound_term_differs :
    let projection : Projection :=
      .aggregate "abs" (.simple (.field "age") "-" (.value (.int 18))) false none true
    let query : Query :=
      { target := .named "Person", table := some ⟨"people", [⟨"age", "age"⟩]⟩
        dialect := DialectKind.postgres.dialect, catalog := none, schema := none }
    let base := "SELECT abs((\"age\" - :p_0)) FROM \"people\""
    let select := base ++ " GROUP BY abs((\"age\" - :p_1))"
    ((query.setProjection projection).render .select).1 = .ok select ∧
      query.GroupsBy projection base ["abs((\"age\" - :p_1))"] select ∧
      query.Selects projection [(projection, "abs((\"age\" - :p_0))")] base ∧
      "abs((\"age\" - :p_1))" ≠ "abs((\"age\" - :p_0))" := by
  intro projection query base select
  have rendered : ((query.setProjection projection).render .select).1 = .ok select := by
    decide +kernel
  have unmarked : ((query.setProjection projection.unmarked).render .select).1 = .ok base := by
    decide +kernel
  have shown : ((Projection.renderAll query.renderer
      (projection.leaves.map Projection.unlabelled)).run query.freshBindings).1 =
        .ok ["abs((\"age\" - :p_0))"] := by
    decide +kernel
  obtain ⟨base', terms, groups⟩ := exists_groupsBy rendered
  obtain rfl : base = base' := Except.ok.inj (unmarked.symm.trans groups.base_eq)
  obtain ⟨texts, middle, ran_texts, -, selects⟩ := exists_selects unmarked
  obtain rfl : ["abs((\"age\" - :p_0))"] = texts :=
    Except.ok.inj (shown.symm.trans (congrArg Prod.fst ran_texts))
  -- A grouping by one leaf has one term, so the text of the clause tells the term.
  obtain ⟨term, rfl⟩ : ∃ term, terms = [term] := by
    obtain ⟨after, ran_terms, -⟩ := groups.terms_eq
    exact List.length_eq_one_iff.mp (Rendering.length_of_run_mapM ran_terms)
  have written : " GROUP BY abs((\"age\" - :p_1))" = " GROUP BY " ++ term :=
    (String.append_right_inj base).mp groups.select_eq
  obtain rfl : "abs((\"age\" - :p_1))" = term :=
    (String.append_right_inj " GROUP BY ").mp written
  exact ⟨rendered, groups, selects, by decide⟩

end Query

end SqlQuery
