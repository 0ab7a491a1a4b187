import SqlQuery.Data.Dictionary

/-! # Dictionaries by their look-ups

A dictionary has an entry if and only if the value is found by the name. Dictionaries that answer
every look-up alike are therefore equal.
-/

namespace SqlQuery.Dictionary

variable {α : Type} {name : String} {value : α}

theorem entryValue?_eq_some_iff {entries : List (String × α)}
    (sorted : entries.Pairwise fun a b => a.1 < b.1) :
    entryValue? name entries = some value ↔ (name, value) ∈ entries := by
  induction entries with
  | nil => simp [entryValue?]
  | cons head rest ih =>
    obtain ⟨key, first⟩ := head
    obtain ⟨above, tail⟩ := List.pairwise_cons.mp sorted
    rw [entryValue?, List.mem_cons, Prod.mk.injEq]
    split
    · rename_i same
      subst same
      have absent : (name, value) ∉ rest := fun member => String.lt_irrefl name (above _ member)
      simp [absent, eq_comm]
    · rename_i different
      simp [different, ih tail]

theorem find?_eq_some_iff {dictionary : Dictionary α} :
    dictionary.find? name = some value ↔ (name, value) ∈ dictionary.entries :=
  entryValue?_eq_some_iff dictionary.sorted

theorem contains_iff_mem_names {dictionary : Dictionary α} :
    dictionary.contains name ↔ name ∈ dictionary.names := by
  simp only [contains, Option.isSome_iff_exists, find?_eq_some_iff, names, List.mem_map]
  exact ⟨fun ⟨value, member⟩ => ⟨_, member, rfl⟩,
    fun ⟨entry, member, same⟩ => ⟨entry.2, same ▸ member⟩⟩

/-- Different names of a dictionary are not more than its entries. -/
theorem length_le_size {dictionary : Dictionary α} {names : List String} (distinct : names.Nodup)
    (present : ∀ name ∈ names, dictionary.contains name) : names.length ≤ dictionary.size := by
  have contained : names ⊆ dictionary.names := fun name member =>
    contains_iff_mem_names.mp (present name member)
  have bound := distinct.length_le_of_subset contained
  rwa [Dictionary.names, List.length_map] at bound

theorem ext_find? {left right : Dictionary α} (same : ∀ name, left.find? name = right.find? name) :
    left = right := by
  have distinct (dictionary : Dictionary α) : dictionary.entries.Nodup :=
    dictionary.sorted.imp fun before equal => String.ne_of_lt before (congrArg Prod.fst equal)
  have permuted : left.entries.Perm right.entries := by
    refine (List.perm_ext_iff_of_nodup (distinct left) (distinct right)).mpr ?_
    intro entry
    rw [← find?_eq_some_iff, ← find?_eq_some_iff, same]
  refine ext (permuted.eq_of_pairwise ?_ left.sorted right.sorted)
  intro first second _ _ before after
  exact absurd after (String.lt_asymm before)

theorem contains_insert (dictionary : Dictionary α) (name key : String) (value : α) :
    (dictionary.insert name value).contains key = (key == name || dictionary.contains key) := by
  rw [contains, find?_insert, contains]
  by_cases same : key = name <;> simp [same]

/-- A dictionary made of entries has exactly their names. -/
theorem contains_ofList (entries : List (String × α)) (name : String) :
    (ofList entries).contains name = (entries.map (·.1)).contains name := by
  have added (start : Dictionary α) :
      (entries.foldl (fun dictionary entry => dictionary.insert entry.1 entry.2) start).contains
          name = (start.contains name || (entries.map (·.1)).contains name) := by
    induction entries generalizing start with
    | nil => simp
    | cons entry rest ih =>
      rw [List.foldl_cons, ih, contains_insert, List.map_cons, List.contains_cons]
      cases name == entry.1 <;> simp
  exact added empty

/-- Of the entries with one name the last one is found. -/
theorem find?_ofList (entries : List (String × α)) (name : String) :
    (ofList entries).find? name =
      ((entries.filter fun entry => entry.1 = name).map (·.2)).getLast? := by
  have added (start : Dictionary α) :
      (entries.foldl (fun dictionary entry => dictionary.insert entry.1 entry.2) start).find? name =
        ((entries.filter fun entry => entry.1 = name).map (·.2)).getLast?.or
          (start.find? name) := by
    induction entries generalizing start with
    | nil => rfl
    | cons entry rest ih =>
      rw [List.foldl_cons, ih, find?_insert, List.filter_cons]
      by_cases same : entry.1 = name
      · simp only [same, decide_true, if_true, List.map_cons, List.getLast?_cons]
        cases ((rest.filter fun entry => entry.1 = name).map (·.2)).getLast? <;> rfl
      · rw [if_neg (Ne.symm same)]
        simp only [same, decide_false, Bool.false_eq_true, if_false]
  rw [ofList, added, find?_empty, Option.or_none]

theorem entryValue?_eq_lookup (name : String) (entries : List (String × α)) :
    entryValue? name entries = entries.lookup name := by
  induction entries with
  | nil => rfl
  | cons entry rest ih =>
    obtain ⟨key, value⟩ := entry
    rw [entryValue?, List.lookup_cons, ih]
    by_cases same : name = key
    · rw [if_pos same, beq_iff_eq.mpr same]
    · rw [if_neg same, beq_eq_false_iff_ne.mpr same]

end SqlQuery.Dictionary
