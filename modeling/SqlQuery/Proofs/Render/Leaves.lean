import Mathlib.Algebra.GroupWithZero.Nat
import Mathlib.Data.List.ReduceOption
import SqlQuery.Proofs.Query.Core

/-! # Trees of projections leaf by leaf

Lists of projections nest. A select list is made of the leaves of the tree, rendered one after another
from left to right, and a grouping of those that are marked. A list without members has no leaf, but
it still takes a place between the commas of the select list, which stays blank; the grouping leaves
such a list out.
-/

namespace SqlQuery

/-- A rendering of each member gives as many results as there are members. -/
theorem Rendering.length_of_run_mapM {α β : Type} {render : β → Rendering α} {members : List β}
    {before after : Bindings} {results : List α}
    (run : (members.mapM render).run before = (.ok results, after)) :
    results.length = members.length := by
  induction members generalizing before results with
  | nil =>
    cases run
    rfl
  | cons first rest ih =>
    rw [List.mapM_cons] at run
    obtain ⟨result, between, -, more⟩ := Rendering.exists_of_run_bind run
    obtain ⟨others, last, ran, ended⟩ := Rendering.exists_of_run_bind more
    cases ended
    exact congrArg (· + 1) (ih ran)

/-! ## Joining in steps -/

namespace Draft

theorem join_append (separator : String) {first second : List Draft} (some_first : first ≠ [])
    (some_second : second ≠ []) :
    join separator (first ++ second) =
      join separator first ++ text separator ++ join separator second := by
  induction first with
  | nil => contradiction
  | cons head rest ih =>
    cases rest with
    | nil =>
      obtain ⟨next, others, rfl⟩ := List.exists_cons_of_ne_nil some_second
      rfl
    | cons next others =>
      have joined := ih (List.cons_ne_nil next others)
      simp only [List.cons_append, join, append_assoc] at joined ⊢
      rw [joined]

/-- Joining groups of drafts and then the results joins all the drafts, if no group is empty. -/
theorem join_flatMap (separator : String) {α : Type} {group : α → List Draft} {members : List α}
    (nonempty : ∀ member ∈ members, group member ≠ []) :
    join separator (members.map fun member => join separator (group member)) =
      join separator (members.flatMap group) := by
  induction members with
  | nil => rfl
  | cons first rest ih =>
    obtain ⟨head, tail⟩ := List.forall_mem_cons.mp nonempty
    rw [List.map_cons, List.flatMap_cons]
    cases rest with
    | nil => simp [join]
    | cons second others =>
      have more : (second :: others).flatMap group ≠ [] := by
        simp [tail second (List.mem_cons_self ..)]
      rw [join_append separator head more, ← ih tail]
      rfl

end Draft

namespace Projection

/-! ## Leaves -/

mutual

/-- The projections in a tree that are not lists, from left to right. -/
def leaves : Projection → List Projection
  | list members => leavesOfAll members
  | leaf => [leaf]

def leavesOfAll : List Projection → List Projection
  | [] => []
  | projection :: rest => projection.leaves ++ leavesOfAll rest

end

theorem leavesOfAll_eq_flatMap (projections : List Projection) :
    leavesOfAll projections = projections.flatMap leaves := by
  induction projections with
  | nil => rfl
  | cons first rest ih => rw [leavesOfAll, ih, List.flatMap_cons]

/-- A property or an aggregate that is marked as grouped. -/
def isMarked : Projection → Bool
  | aggregate _ _ _ _ grouped => grouped
  | property _ _ grouped => grouped
  | rowCount _ | expression _ _ | list _ => false

/-- The leaves that a tree is grouped by. -/
def markedLeaves (projection : Projection) : List Projection :=
  projection.leaves.filter isMarked

theorem markedLeaves_list (members : List Projection) :
    markedLeaves (list members) = members.flatMap markedLeaves := by
  rw [markedLeaves, leaves, leavesOfAll_eq_flatMap, List.filter_flatMap]
  rfl

theorem anyGrouped_eq_any (projections : List Projection) :
    anyGrouped projections = projections.any isGrouped := by
  induction projections with
  | nil => rfl
  | cons first rest ih => rw [anyGrouped, ih, List.any_cons]

theorem isGrouped_iff_markedLeaves (projection : Projection) :
    projection.isGrouped = true ↔ projection.markedLeaves ≠ [] := by
  induction projection with
  | aggregate _ _ _ _ grouped =>
    cases grouped <;> simp [isGrouped, markedLeaves, leaves, isMarked]
  | property _ _ grouped => cases grouped <;> simp [isGrouped, markedLeaves, leaves, isMarked]
  | rowCount | expression => simp [isGrouped, markedLeaves, leaves, isMarked]
  | list members each =>
    rw [isGrouped, anyGrouped_eq_any, List.any_eq_true, markedLeaves_list, Ne,
      List.flatMap_eq_nil_iff, Classical.not_forall]
    refine exists_congr fun member => ?_
    rw [Classical.not_imp]
    exact and_congr_right (each member)

/-! ## The grouping -/

theorem draftGroup_eq_join (dialect : Dialect) (table : Option Table) (projection : Projection) :
    projection.draftGroup dialect table =
      .join ", " (projection.markedLeaves.map (draftGroup dialect table)) := by
  induction projection with
  | aggregate _ _ _ _ grouped => cases grouped <;> rfl
  | property _ _ grouped => cases grouped <;> rfl
  | rowCount | expression => rfl
  | list members each =>
    -- The filter on the members is what keeps each of the joined groups from being empty.
    have nonempty : ∀ member ∈ members.filter isGrouped,
        member.markedLeaves.map (draftGroup dialect table) ≠ [] := by
      intro member belongs empty
      exact member.isGrouped_iff_markedLeaves.mp (List.mem_filter.mp belongs).2
        (List.map_eq_nil_iff.mp empty)
    have same : (members.filter isGrouped).map (draftGroup dialect table) =
        (members.filter isGrouped).map fun member =>
          .join ", " (member.markedLeaves.map (draftGroup dialect table)) :=
      List.map_congr_left fun member belongs => each member (List.mem_filter.mp belongs).1
    have ungrouped : ∀ others : List Projection,
        (others.filter isGrouped).flatMap markedLeaves = others.flatMap markedLeaves := by
      intro others
      induction others with
      | nil => rfl
      | cons first rest ih =>
        rw [List.filter_cons, List.flatMap_cons, ← ih]
        split
        · rfl
        · rename_i unmarked
          rw [isGrouped_iff_markedLeaves, Classical.not_not] at unmarked
          rw [unmarked, List.nil_append]
    rw [draftGroup, draftGroups_eq_map, same, Draft.join_flatMap ", " nonempty,
      ← List.map_flatMap, ungrouped, markedLeaves_list]

/-- A grouping is the groupings of the marked leaves, one after another. -/
theorem renderGroup_eq_markedLeaves (renderer : Renderer) (projection : Projection) :
    projection.renderGroup renderer = (do
      let texts ← projection.markedLeaves.mapM (renderGroup renderer)
      return ", ".intercalate texts) := by
  have each : renderGroup renderer =
      (·.render renderer) ∘ draftGroup renderer.dialect renderer.table :=
    funext (renderGroup_eq renderer)
  rw [renderGroup_eq, draftGroup_eq_join, Draft.render_join, List.mapM_map, each]

/-! ## The select list -/

mutual

/-- What stands between the commas of a select list: a leaf, or nothing for a list without members. -/
def slots : Projection → List (Option Projection)
  | list members => if members.isEmpty then [none] else slotsOfAll members
  | leaf => [some leaf]

def slotsOfAll : List Projection → List (Option Projection)
  | [] => []
  | projection :: rest => projection.slots ++ slotsOfAll rest

end

theorem slotsOfAll_eq_flatMap (projections : List Projection) :
    slotsOfAll projections = projections.flatMap slots := by
  induction projections with
  | nil => rfl
  | cons first rest ih => rw [slotsOfAll, ih, List.flatMap_cons]

theorem slots_ne_nil (projection : Projection) : projection.slots ≠ [] := by
  induction projection with
  | aggregate | rowCount | property | expression => exact List.cons_ne_nil _ _
  | list members each =>
    rw [slots, slotsOfAll_eq_flatMap]
    cases members with
    | nil => exact List.cons_ne_nil _ _
    | cons first rest => simp [each first (List.mem_cons_self ..)]

theorem reduceOption_slots (projection : Projection) :
    projection.slots.reduceOption = projection.leaves := by
  induction projection with
  | aggregate | rowCount | property | expression => rfl
  | list members each =>
    rw [slots, slotsOfAll_eq_flatMap, leaves, leavesOfAll_eq_flatMap]
    split
    · rename_i empty
      rw [List.isEmpty_iff.mp empty]
      rfl
    · rw [List.reduceOption, List.filterMap_flatMap]
      exact List.flatMap_congr each

def draftSlot (dialect : Dialect) (table : Option Table) : Option Projection → Draft
  | none => .blank
  | some leaf => leaf.draft dialect table

theorem draft_eq_join (dialect : Dialect) (table : Option Table) (projection : Projection) :
    projection.draft dialect table =
      .join ", " (projection.slots.map (draftSlot dialect table)) := by
  induction projection with
  | aggregate | rowCount | property | expression => rfl
  | list members each =>
    rw [draft, draftAll_eq_map, List.map_congr_left each]
    cases members with
    | nil => rfl
    | cons first rest =>
      have nonempty : ∀ member ∈ first :: rest, member.slots.map (draftSlot dialect table) ≠ [] :=
        fun member _ empty => member.slots_ne_nil (List.map_eq_nil_iff.mp empty)
      rw [Draft.join_flatMap ", " nonempty, ← List.map_flatMap, slots, slotsOfAll_eq_flatMap]
      rfl

/-- The items of a select list: the texts of the leaves in turn, each in its place, and blanks in the
places of the lists without members. -/
def items : List (Option Projection) → List String → List String
  | none :: rest, texts => "" :: items rest texts
  | some _ :: rest, text :: texts => text :: items rest texts
  | some _ :: _, [] => []
  | [], _ => []

theorem renderAll_eq_mapM (renderer : Renderer) (projections : List Projection) :
    renderAll renderer projections = projections.mapM (render renderer) := by
  induction projections with
  | nil => rfl
  | cons first rest ih => rw [renderAll, ih, List.mapM_cons]

theorem mapM_draftSlot (renderer : Renderer) (slots : List (Option Projection)) :
    (slots.map (draftSlot renderer.dialect renderer.table)).mapM (·.render renderer) = (do
      let texts ← renderAll renderer slots.reduceOption
      return items slots texts) := by
  induction slots with
  | nil => rfl
  | cons slot rest ih =>
    rw [List.map_cons, List.mapM_cons, ih]
    cases slot with
    | none =>
      simp only [draftSlot, Draft.render_blank, pure_bind, bind_assoc, List.reduceOption_cons_of_none,
        items]
    | some leaf =>
      simp only [draftSlot, ← render_eq, List.reduceOption_cons_of_some, renderAll, bind_assoc,
        pure_bind, items]

/-- A select list is the leaves rendered one after another, with a blank for each list without
members. -/
theorem render_eq_leaves (renderer : Renderer) (projection : Projection) :
    projection.render renderer = (do
      let texts ← renderAll renderer projection.leaves
      return ", ".intercalate (items projection.slots texts)) := by
  rw [render_eq, draft_eq_join, Draft.render_join, mapM_draftSlot, reduceOption_slots]
  simp only [bind_assoc, pure_bind]

/-! ## Blanks -/

theorem items_eq_self {slots : List (Option Projection)} (full : none ∉ slots) {texts : List String}
    (each : texts.length = slots.length) : items slots texts = texts := by
  induction slots generalizing texts with
  | nil => exact (List.eq_nil_of_length_eq_zero each).symm
  | cons slot rest ih =>
    obtain ⟨text, others, rfl⟩ := List.exists_cons_of_length_eq_add_one each
    cases slot with
    | none => exact absurd (List.mem_cons_self ..) full
    | some leaf =>
      rw [items, ih (List.not_mem_of_not_mem_cons full) (Nat.succ_inj.mp each)]

theorem length_items {slots : List (Option Projection)} {texts : List String}
    (each : texts.length = slots.reduceOption.length) :
    (items slots texts).length = slots.length ∧
      ((items slots texts).map String.length).sum = (texts.map String.length).sum := by
  induction slots generalizing texts with
  | nil => simp [List.eq_nil_of_length_eq_zero each, items]
  | cons slot rest ih =>
    cases slot with
    | none =>
      rw [List.reduceOption_cons_of_none] at each
      simpa [items] using ih each
    | some leaf =>
      rw [List.reduceOption_cons_of_some] at each
      obtain ⟨text, others, rfl⟩ := List.exists_cons_of_length_eq_add_one each
      simpa [items] using ih (Nat.succ_inj.mp each)

theorem length_intercalate (separator : String) {texts : List String} (nonempty : texts ≠ []) :
    (separator.intercalate texts).length + separator.length =
      (texts.map String.length).sum + texts.length * separator.length := by
  induction texts with
  | nil => contradiction
  | cons first rest ih =>
    cases rest with
    | nil => simp
    | cons second others =>
      have joined := ih (List.cons_ne_nil second others)
      rw [String.intercalate_cons_cons, String.length_append, String.length_append, List.map_cons,
        List.sum_cons, List.length_cons, Nat.add_one_mul]
      omega

/-- The blanks show, unless one is all there is: each of them brings a comma. -/
theorem intercalate_items_eq_iff {slots : List (Option Projection)} (nonempty : slots ≠ [])
    {texts : List String} (each : texts.length = slots.reduceOption.length) :
    ", ".intercalate (items slots texts) = ", ".intercalate texts ↔
      none ∉ slots ∨ slots = [none] := by
  obtain ⟨counted, summed⟩ := length_items each
  constructor
  · intro same
    have placed : items slots texts ≠ [] := by
      rwa [← List.length_pos_iff, counted, List.length_pos_iff]
    have joined := length_intercalate ", " placed
    have width : ", ".length = 2 := rfl
    rw [same, summed, counted, width] at joined
    by_cases empty : texts = []
    · subst empty
      have single : slots.length = 1 := by
        rw [String.intercalate_nil, String.length_empty] at joined
        simp only [List.map_nil, List.sum_nil] at joined
        omega
      obtain ⟨slot, rfl⟩ := List.length_eq_one_iff.mp single
      cases slot with
      | none => exact .inr rfl
      | some leaf => cases each
    · have alone := length_intercalate ", " empty
      rw [width] at alone
      rw [← List.reduceOption_length_lt_iff]
      exact .inl (by omega)
  · rintro (full | rfl)
    · have all : slots.reduceOption.length = slots.length := by
        refine Nat.le_antisymm (List.reduceOption_length_le slots) (Nat.not_lt.mp ?_)
        rwa [List.reduceOption_length_lt_iff]
      rw [items_eq_self full (each.trans all)]
    · rw [List.eq_nil_of_length_eq_zero each]
      rfl

theorem length_of_run_renderAll {renderer : Renderer} {projections : List Projection}
    {before after : Bindings} {texts : List String}
    (run : (renderAll renderer projections).run before = (.ok texts, after)) :
    texts.length = projections.length := by
  rw [renderAll_eq_mapM] at run
  exact Rendering.length_of_run_mapM run

/-- A select list is the texts of the leaves, rendered one after another, with a blank for each list
without members. So it is the texts of the leaves alone if and only if there is no such list beside
another item. -/
theorem select_list_of_leaves (renderer : Renderer) (projection : Projection) :
    projection.render renderer = (do
      let texts ← renderAll renderer projection.leaves
      return ", ".intercalate (items projection.slots texts)) ∧
    ∀ before text after, (projection.render renderer).run before = (.ok text, after) →
      ∃ texts, (renderAll renderer projection.leaves).run before = (.ok texts, after) ∧
        (text = ", ".intercalate texts ↔ none ∉ projection.slots ∨ projection.slots = [none]) := by
  refine ⟨projection.render_eq_leaves renderer, ?_⟩
  intro before text after run
  rw [render_eq_leaves] at run
  obtain ⟨texts, between, ran, ended⟩ := Rendering.exists_of_run_bind run
  cases ended
  refine ⟨texts, ran, intercalate_items_eq_iff projection.slots_ne_nil ?_⟩
  rw [length_of_run_renderAll ran, reduceOption_slots]

/-- Nested lists, in either mode and after other bindings, without a list that is empty. -/
theorem select_list_of_nested :
    let renderer : Renderer :=
      { dialect := DialectKind.postgres.dialect, table := some ⟨"people", [⟨"id", "id"⟩]⟩ }
    let projection := list [list [property "id" (some "key") true],
      list [list [property "id" none false], expression (.value (.int 1)) none]]
    let before := (Bindings.bind { marker := ":" } (.int 0)).2
    ∃ text texts, ((projection.render renderer).run before).1 = .ok text ∧
      ((renderAll renderer projection.leaves).run before).1 = .ok texts ∧
      text = ", ".intercalate texts := by
  intro renderer projection before
  have rendered : ((projection.render renderer).run before).1 =
      .ok "\"id\" AS \"key\", \"id\", :p_1" := by decide +kernel
  have full : none ∉ projection.slots := by simp [projection, slots, slotsOfAll]
  cases run : (projection.render renderer).run before with
  | mk outcome after =>
    rw [run] at rendered
    subst rendered
    obtain ⟨texts, ran, joined⟩ :=
      (select_list_of_leaves renderer projection).2 before _ after run
    exact ⟨_, texts, rfl, congrArg Prod.fst ran, joined.mpr (.inl full)⟩

/-- A list without members between two leaves leaves a blank there. -/
theorem empty_list_leaves_blank :
    let renderer : Renderer := { dialect := DialectKind.generic.dialect }
    let projection := list [property "id" none false, list [], property "name" none false]
    let before : Bindings := { marker := "@" }
    ((projection.render renderer).run before).1 = .ok "id, , name" ∧
      ((renderAll renderer projection.leaves).run before).1 = .ok ["id", "name"] ∧
      ", ".intercalate ["id", "name"] ≠ "id, , name" := by
  decide +kernel

end Projection

end SqlQuery
