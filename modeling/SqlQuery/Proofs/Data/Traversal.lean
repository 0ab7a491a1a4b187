import Mathlib.Data.List.Forall2

/-! # Traversals that can fail

A function that can fail is applied to items in order. It succeeds with the result of each item, or
it fails with the cause of the first item that has none.
-/

namespace SqlQuery.Traversal

variable {α β ε : Type} {f : α → Except ε β}

/-- The first of some items on which a function fails, by the cause. -/
def FirstFailure (f : α → Except ε β) (items : List α) (cause : ε) : Prop :=
  ∃ before item after, items = before ++ item :: after ∧
    (∀ earlier ∈ before, ∃ value, f earlier = .ok value) ∧ f item = .error cause

theorem not_firstFailure_nil (cause : ε) : ¬ FirstFailure f [] cause := by
  rintro ⟨before, item, after, same, -⟩
  simp at same

theorem firstFailure_cons_of_error {item : α} {first : ε} (failed : f item = .error first)
    (rest : List α) (cause : ε) : FirstFailure f (item :: rest) cause ↔ first = cause := by
  constructor
  · rintro ⟨before, other, after, same, earlier, failed'⟩
    cases before with
    | nil =>
      obtain ⟨rfl, rfl⟩ := List.cons.inj same
      exact Except.error.inj (failed.symm.trans failed')
    | cons head tail =>
      obtain ⟨rfl, -⟩ := List.cons.inj same
      obtain ⟨value, passed⟩ := earlier item (List.mem_cons_self ..)
      cases failed.symm.trans passed
  · rintro rfl
    exact ⟨[], item, rest, rfl, nofun, failed⟩

theorem firstFailure_cons_of_ok {item : α} {value : β} (passed : f item = .ok value)
    (rest : List α) (cause : ε) :
    FirstFailure f (item :: rest) cause ↔ FirstFailure f rest cause := by
  constructor
  · rintro ⟨before, other, after, same, earlier, failed⟩
    cases before with
    | nil =>
      obtain ⟨rfl, rfl⟩ := List.cons.inj same
      cases passed.symm.trans failed
    | cons head tail =>
      obtain ⟨rfl, rfl⟩ := List.cons.inj same
      exact ⟨tail, other, after, rfl, (List.forall_mem_cons.mp earlier).2, failed⟩
  · rintro ⟨before, other, after, rfl, earlier, failed⟩
    exact ⟨item :: before, other, after, rfl,
      List.forall_mem_cons.mpr ⟨⟨value, passed⟩, earlier⟩, failed⟩

theorem mapM_eq_ok_iff (items : List α) (values : List β) :
    items.mapM f = .ok values ↔
      List.Forall₂ (fun item value => f item = .ok value) items values := by
  induction items generalizing values with
  | nil => simp [pure, Except.pure, eq_comm]
  | cons item rest ih =>
    rw [List.mapM_cons, List.forall₂_cons_left_iff]
    cases passed : f item with
    | error cause => simp [bind, Except.bind]
    | ok value =>
      simp only [← ih]
      cases rest.mapM f with
      | error cause => simp [bind, Except.bind]
      | ok tail => simp [bind, Except.bind, pure, Except.pure, eq_comm]

theorem mapM_eq_error_iff (items : List α) (cause : ε) :
    items.mapM f = .error cause ↔ FirstFailure f items cause := by
  induction items with
  | nil => simpa [pure, Except.pure] using not_firstFailure_nil cause
  | cons item rest ih =>
    rw [List.mapM_cons]
    cases passed : f item with
    | error first =>
      rw [firstFailure_cons_of_error passed]
      simp [bind, Except.bind]
    | ok value =>
      rw [firstFailure_cons_of_ok passed, ← ih]
      cases rest.mapM f <;> simp [bind, Except.bind, pure, Except.pure]

theorem exists_mapM_eq_ok_iff (items : List α) :
    (∃ values, items.mapM f = .ok values) ↔ ∀ item ∈ items, ∃ value, f item = .ok value := by
  simp only [mapM_eq_ok_iff]
  induction items with
  | nil => simp
  | cons item rest ih =>
    rw [List.forall_mem_cons, ← ih]
    constructor
    · rintro ⟨values, each⟩
      cases each with
      | cons passed later => exact ⟨⟨_, passed⟩, _, later⟩
    · rintro ⟨⟨value, passed⟩, values, later⟩
      exact ⟨value :: values, .cons passed later⟩

end SqlQuery.Traversal
